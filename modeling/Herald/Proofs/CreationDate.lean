import Herald.Action.Stats
import Herald.Text.Digits
import Herald.Proofs.Conduct
import Herald.Proofs.Days

/-!
# The creation date of a channel

The action `stats` shows the day on which a channel was created, given the moment in seconds. The day
is exact for every moment that a 64-bit integer can tell, before 1970 too.

* `Date.SpelledBy` says how a date is written, and `Date.text_injective`: two dates are never written
  in the same way.
* `ShowsDays` is what is shown for all moments: the date that falls on the day of the moment by
  `Date.FallsOn`, if the calendar goes through its year.
* `creation_shown`: this is what the action shows, and it fails for no moment, but only if it cannot
  look up the channel or its creator.
-/

namespace Herald

/-! ## Numerals -/

namespace Text

/-- The decimal numeral of a number, with zeros in front where it would be shorter than a width. -/
structure Filled (width n : Nat) (digits : List Char) : Prop where
  isDigit : ∀ c ∈ digits, c.isDigit = true
  denotes : ofDigits digits = n
  width_le : width ≤ digits.length
  /-- No zero is in front but to fill it. -/
  no_zero : width < digits.length → digits.head? ≠ some '0'

/-- The numeral of a positive number does not begin with a zero. -/
theorem head?_toDigits {n : Nat} (h : 0 < n) : (Nat.toDigits 10 n).head? ≠ some '0' := by
  induction n using Nat.strongRecOn with
  | ind n ih =>
    by_cases hlt : n < 10
    · rw [Nat.toDigits_of_lt_base hlt, List.head?_cons]
      intro hzero
      exact absurd (Nat.digitChar_eq_zero.mp (Option.some.inj hzero)) (by omega)
    · have hfirst := ih (n / 10) (by omega) (by omega)
      obtain ⟨c, digits, hdigits⟩ :=
        List.exists_cons_of_ne_nil (show Nat.toDigits 10 (n / 10) ≠ [] from Nat.toDigits_ne_nil)
      rw [hdigits] at hfirst
      rwa [Nat.toDigits_of_base_le (by decide) (by omega), hdigits]

end Text

namespace Date

theorem toList_padded (width n : Nat) : (padded width n).toList =
    List.replicate (width - (Nat.toDigits 10 n).length) '0' ++ Nat.toDigits 10 n := by
  rw [padded, String.toList_append, String.toList_ofList, Text.toString_toList,
    ← String.length_toList, Text.toString_toList]

theorem filled_padded {width : Nat} (h : 0 < width) (n : Nat) :
    Text.Filled width n (padded width n).toList := by
  rw [toList_padded]
  constructor
  case isDigit => exact Text.isDigit_of_mem_zeros_toDigits
  case denotes => exact Text.ofDigits_zeros_toDigits _ n
  case width_le =>
    rw [List.length_append, List.length_replicate]
    omega
  case no_zero =>
    rw [List.length_append, List.length_replicate]
    intro hlong
    -- the numeral is longer than the width by itself, so nothing is put in front
    have hpos : 0 < n := by
      rcases Nat.eq_zero_or_pos n with rfl | hpos
      · rw [Nat.toDigits_zero, List.length_singleton] at hlong
        omega
      · exact hpos
    rw [show width - (Nat.toDigits 10 n).length = 0 by omega]
    exact Text.head?_toDigits hpos

/-- Two numbers are never filled to the same numeral. -/
theorem padded_inj {width m n : Nat} (hwidth : 0 < width) (h : padded width m = padded width n) :
    m = n := by
  rw [← (filled_padded hwidth m).denotes, h, (filled_padded hwidth n).denotes]

/-- A number below 100 is written with two digits. -/
theorem length_padded {n : Nat} (h : n < 100) : (padded 2 n).toList.length = 2 := by
  have hlength : (Nat.toDigits 10 n).length ≤ 2 :=
    (Nat.length_toDigits_le_iff (by decide) (by decide)).mpr h
  rw [toList_padded, List.length_append, List.length_replicate]
  omega

/-! ## The text of a date -/

/-- The sign of a year: there is none from 0 to 9999. -/
inductive Sign : Int → List Char → Prop where
  | none {year : Int} (h : 0 ≤ year) (h' : year ≤ 9999) : Sign year []
  | minus {year : Int} (h : year < 0) : Sign year ['-']
  | plus {year : Int} (h : 9999 < year) : Sign year ['+']

/-- How a date is written: four digits or more for the year, two for the month and two for the day,
joined by hyphens. -/
inductive SpelledBy (d : Date) : List Char → Prop where
  | parts {sign year month day : List Char} (hsign : Sign d.year sign)
      (hyear : Text.Filled 4 d.year.natAbs year) (hmonth : Text.Filled 2 d.month month)
      (hday : Text.Filled 2 d.day day) :
      SpelledBy d (sign ++ year ++ ('-' :: month ++ '-' :: day))

theorem exists_sign (year : Int) : ∃ sign, Sign year sign ∧
    (yearText year).toList = sign ++ (padded 4 year.natAbs).toList := by
  unfold yearText
  split
  · next hneg =>
    refine ⟨['-'], .minus hneg, ?_⟩
    rw [String.toList_append, show "-".toList = ['-'] by decide]
  · next hnonneg =>
    split
    · next hlarge =>
      refine ⟨['+'], .plus hlarge, ?_⟩
      rw [String.toList_append, show "+".toList = ['+'] by decide]
    · next hsmall => exact ⟨[], .none (by omega) (by omega), (List.nil_append _).symm⟩

theorem toList_text (d : Date) : d.text.toList = (yearText d.year).toList ++
    ('-' :: (padded 2 d.month).toList ++ '-' :: (padded 2 d.day).toList) := by
  simp [text]

theorem spelledBy_text (d : Date) : d.SpelledBy d.text.toList := by
  obtain ⟨sign, hsign, hyear⟩ := exists_sign d.year
  rw [toList_text, hyear]
  exact .parts hsign (filled_padded (by decide) _) (filled_padded (by decide) _)
    (filled_padded (by decide) _)

/-- Two years are never written in the same way: the digits tell the number, and a hyphen in front
tells that it is negative. -/
theorem yearText_injective : Function.Injective yearText := by
  have hdigits : ∀ year, (yearText year).toList.filter Char.isDigit =
      (padded 4 year.natAbs).toList := by
    intro year
    obtain ⟨sign, hsign, hyear⟩ := exists_sign year
    have hall := (filled_padded (show 0 < 4 by decide) year.natAbs).isDigit
    -- no sign is a digit
    have hnone : sign.filter Char.isDigit = [] := by cases hsign <;> decide
    rw [hyear, List.filter_append, List.filter_eq_self.mpr hall, hnone, List.nil_append]
  have hhyphen : ∀ year, '-' ∈ (yearText year).toList ↔ year < 0 := by
    intro year
    obtain ⟨sign, hsign, hyear⟩ := exists_sign year
    have hnot : '-' ∉ (padded 4 year.natAbs).toList := fun hmem =>
      absurd ((filled_padded (by decide) year.natAbs).isDigit _ hmem) (by decide)
    rw [hyear, List.mem_append, or_iff_left hnot]
    cases hsign with
    | none h => simpa using h
    | minus h => simpa using h
    | plus h =>
      have hnot : ¬ year < 0 := by omega
      simpa using hnot
  intro year year' h
  have habs : year.natAbs = year'.natAbs := by
    refine padded_inj (show 0 < 4 by decide) (String.toList_inj.mp ?_)
    rw [← hdigits, ← hdigits, h]
  have hneg : year < 0 ↔ year' < 0 := by
    rw [← hhyphen, ← hhyphen, h]
  omega

theorem daysInMonth_le (year : Int) (month : Nat) : daysInMonth year month ≤ 31 := by
  unfold daysInMonth
  split
  · split <;> decide
  · split <;> decide

theorem IsValid.length_month {d : Date} (hd : d.IsValid) :
    (padded 2 d.month).toList.length = 2 := by
  have hle := hd.month_le
  exact length_padded (by omega)

theorem IsValid.length_day {d : Date} (hd : d.IsValid) : (padded 2 d.day).toList.length = 2 := by
  have hle := Nat.le_trans hd.day_le (daysInMonth_le d.year d.month)
  exact length_padded (by omega)

/-- Two dates are never written in the same way. -/
theorem text_injective {d e : Date} (hd : d.IsValid) (he : e.IsValid) (h : d.text = e.text) :
    d = e := by
  rw [← String.toList_inj, toList_text, toList_text] at h
  -- month and day take up the same room in both texts, so that these can be cut from behind
  obtain ⟨hyears, hrest⟩ := List.append_inj' h
    (by simp [hd.length_month, he.length_month, hd.length_day, he.length_day])
  obtain ⟨hmonths, hdays⟩ :=
    List.append_inj (List.cons.inj hrest).2 (hd.length_month.trans he.length_month.symm)
  obtain ⟨year, month, day⟩ := d
  obtain ⟨year', month', day'⟩ := e
  have hyear : year = year' := yearText_injective (String.toList_inj.mp hyears)
  have hmonth : month = month' := padded_inj (by decide) (String.toList_inj.mp hmonths)
  have hday : day = day' :=
    padded_inj (by decide) (String.toList_inj.mp (List.cons.inj hdays).2)
  rw [hyear, hmonth, hday]

end Date

/-! ## Moments -/

/-- The day that a moment is on. -/
def OnDay (seconds : Int64) (day : Int) : Prop :=
  86400 * day ≤ seconds.toInt ∧ seconds.toInt < 86400 * (day + 1)

theorem onDay_iff {seconds : Int64} {day : Int} :
    OnDay seconds day ↔ seconds.toInt / 86400 = day := by
  unfold OnDay
  omega

namespace Action.Stats

/-- What is shown for the moments at which a channel may be created. -/
structure ShowsDays (shown : Int64 → String) : Prop where
  /-- Each moment is on one day, and one date of the calendar falls on that. -/
  exists_date : ∀ seconds, ∃ (day : Int) (date : Date), OnDay seconds day ∧ date.FallsOn day ∧
    date.IsValid ∧ ∀ (day' : Int) (date' : Date), OnDay seconds day' → date'.FallsOn day' →
      day' = day ∧ date' = date
  date_shown : ∀ (seconds : Int64) (day : Int) (date : Date), OnDay seconds day →
    date.FallsOn day → date.inRange → date.SpelledBy (shown seconds).toList
  unknown_shown : ∀ (seconds : Int64) (day : Int) (date : Date), OnDay seconds day →
    date.FallsOn day → ¬ date.inRange → shown seconds = "unknown"
  /-- The same is shown for all moments of a day, and for no other moment. -/
  shown_eq_iff : ∀ (a b : Int64) (m n : Int) (d e : Date), OnDay a m → OnDay b n →
    d.FallsOn m → e.FallsOn n → d.inRange → e.inRange → (shown a = shown b ↔ m = n)
  /-- The following date is shown for the moments of the following day. -/
  next_shown : ∀ (seconds : Int64) (day : Int) (date : Date), date.FallsOn day →
    OnDay seconds (day + 1) → date.next.inRange → date.next.SpelledBy (shown seconds).toList

theorem createdText_eq {seconds : Int64} {day : Int} (h : OnDay seconds day) :
    createdText seconds =
      if (Date.ofDay day).inRange then (Date.ofDay day).text else "unknown" := by
  rw [createdText, Date.ofSeconds?, onDay_iff.mp h]
  by_cases hrange : (Date.ofDay day).inRange
  · simp only [if_pos hrange]
  · simp only [if_neg hrange]

theorem showsDays_createdText : ShowsDays createdText := by
  constructor
  case exists_date =>
    intro seconds
    have hday : OnDay seconds (seconds.toInt / 86400) := onDay_iff.mpr rfl
    refine ⟨_, _, hday, Date.fallsOn_iff.mpr rfl, Date.isValid_ofDay _, ?_⟩
    intro day date h hdate
    obtain rfl := onDay_iff.mp h
    exact ⟨rfl, (Date.fallsOn_iff.mp hdate).symm⟩
  case date_shown =>
    intro seconds day date hday hdate hrange
    obtain rfl := Date.fallsOn_iff.mp hdate
    rw [createdText_eq hday, if_pos hrange]
    exact Date.spelledBy_text _
  case unknown_shown =>
    intro seconds day date hday hdate hrange
    obtain rfl := Date.fallsOn_iff.mp hdate
    rw [createdText_eq hday, if_neg hrange]
  case shown_eq_iff =>
    intro a b m n d e ha hb hd he hrange hrange'
    obtain rfl := Date.fallsOn_iff.mp hd
    obtain rfl := Date.fallsOn_iff.mp he
    rw [createdText_eq ha, createdText_eq hb, if_pos hrange, if_pos hrange']
    constructor
    · intro h
      exact Date.ofDay_injective
        (Date.text_injective (Date.isValid_ofDay m) (Date.isValid_ofDay n) h)
    · rintro rfl
      rfl
  case next_shown =>
    intro seconds day date hdate hday hrange
    rw [← Date.fallsOn_iff.mp hdate.next] at hrange ⊢
    rw [createdText_eq hday, if_pos hrange]
    exact Date.spelledBy_text _

/-! ## The action -/

/-- What is asked about the creator of a channel, and how the creator is called. -/
inductive Names (channel : Channel) : List Exchange → String → Prop where
  | nobody (h : channel.creator = "") : Names channel [] "unknown"
  | creator (h : channel.creator ≠ "") (user : User) :
      Names channel [⟨.user channel.creator, .ok user⟩] ("@" ++ user.name)

/-- What the action asks, and what it comes to: it fails only if a look-up does, and shows the date
otherwise. -/
inductive Reports (m : Incoming) : List Exchange → Except Failure Message → Prop where
  | noChannel (f : Failure) : Reports m [⟨.channel m.channel, .error f⟩] (.error f)
  | noCreator {channel : Channel} (h : channel.creator ≠ "") (f : Failure) :
      Reports m [⟨.channel m.channel, .ok channel⟩, ⟨.user channel.creator, .error f⟩] (.error f)
  | shown {channel : Channel} {asked : List Exchange} {creator : String}
      (h : Names channel asked creator) :
      Reports m (⟨.channel m.channel, .ok channel⟩ :: asked)
        (.ok (m.reply (":bar_chart: #" ++ channel.name ++ "\n  members: " ++
          toString channel.members.length ++ "\n  created: " ++ createdText channel.created ++
          " by " ++ creator)))

/-- Whoever the creator is, the name is known or the look-up has failed. -/
theorem course_creatorText {channel : Channel} {xs : List Exchange} {r : Except Failure String}
    (h : (creatorText channel).run.Course xs (.done r)) :
    (∃ f, channel.creator ≠ "" ∧ xs = [⟨.user channel.creator, .error f⟩] ∧ r = .error f) ∨
      ∃ creator, Names channel xs creator ∧ r = .ok creator := by
  unfold creatorText at h
  split at h
  · next hempty =>
    obtain ⟨rfl, rfl⟩ := Attempt.course_pure h
    exact .inr ⟨_, .nobody (String.isEmpty_iff.mp hempty), rfl⟩
  · next hcreator =>
    have hne : channel.creator ≠ "" := fun heq => hcreator (String.isEmpty_iff.mpr heq)
    rcases Attempt.course_bind h with ⟨f, hasked, rfl⟩ | ⟨ys, zs, user, rfl, hasked, hrest⟩
    · obtain rfl := Job.Course.of_query hasked
      exact .inl ⟨f, hne, rfl, rfl⟩
    · obtain rfl := Job.Course.of_query hasked
      obtain ⟨rfl, rfl⟩ := Attempt.course_pure hrest
      exact .inr ⟨_, .creator hne user, rfl⟩

theorem reports_of_course (args : List String) {m : Incoming} {xs : List Exchange}
    {made : Except Failure Message} (h : (run args m).run.Course xs (.done made)) :
    Reports m xs made := by
  rcases Attempt.course_bind h with ⟨f, hasked, rfl⟩ | ⟨ys, zs, channel, rfl, hasked, hrest⟩
  · obtain rfl := Job.Course.of_query hasked
    exact .noChannel f
  · obtain rfl := Job.Course.of_query hasked
    rcases Attempt.course_bind hrest with ⟨e, hfailed, rfl⟩ | ⟨ys, zs, creator, rfl, hfound, hreply⟩
    · rcases course_creatorText hfailed with ⟨f, hne, rfl, ⟨⟩⟩ | ⟨creator, -, ⟨⟩⟩
      exact .noCreator hne _
    · rcases course_creatorText hfound with ⟨f, -, -, ⟨⟩⟩ | ⟨creator, hnames, ⟨⟩⟩
      obtain ⟨rfl, rfl⟩ := Attempt.course_pure hreply
      rw [List.append_nil]
      exact .shown hnames

/-- The action shows the day on which a channel was created, for every moment, whoever answers. -/
theorem creation_shown :
    ShowsDays createdText ∧
      ∀ (args : List String) (m : Incoming) (answer : (q : Query) → σ → q.Answer × σ) (world : σ),
        Reports m ((stats.run args m).run.conclude answer world).2.1
          ((stats.run args m).run.conclude answer world).1 := by
  refine ⟨showsDays_createdText, ?_⟩
  intro args m answer world
  exact reports_of_course args (Job.course_conclude answer (stats.run args m).run world)

/-- One second before 1970, and the last second of the years that the calendar goes through. -/
example : createdText (-1) = "1969-12-31" ∧ createdText 8210266876799 = "+262142-12-31" ∧
    createdText 8210266876800 = "unknown" := by
  decide +kernel

end Action.Stats

end Herald
