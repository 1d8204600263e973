import Herald.Generator
import Herald.Proofs.BrokenText
import Herald.Proofs.Posting

/-!
# Generated texts

What a program has written and how it has ended decide what its run gives: any byte on its error
stream is a complaint, whatever else it did; then its code has to be zero; only then its output is the
text.

* `Gives` says this of bytes, and `text_eq_iff` that nothing else is given.
* `Attempt.GivesUp`: work that ends with the failure to have a text written. `givesUp_ojichat` finds the
  action `ojichat` to be such work.
* `Schedule.stopped_of_course`: a run of such an action posts nothing in the iteration where no text was
  written, and ends there.
* `ended_text` puts the two together.
-/

namespace Herald

/-! ## What a program gives -/

namespace Text

/-- A text, and the same less the blanks at its end. -/
structure Trimmed (text trimmed : List Char) : Prop where
  blanks : ∃ blanks, text = trimmed ++ blanks ∧ ∀ c ∈ blanks, isBlank c = true
  last_not_blank : ∀ c ∈ trimmed.getLast?, isBlank c = false

theorem trimmed_trimEnd (text : List Char) : Trimmed text (trimEnd text) where
  blanks := by
    refine ⟨(text.reverse.takeWhile isBlank).reverse, ?_, ?_⟩
    · rw [trimEnd, ← List.reverse_append, List.takeWhile_append_dropWhile, List.reverse_reverse]
    · intro c hc
      exact List.mem_takeWhile_imp (List.mem_reverse.mp hc)
  last_not_blank := by
    intro c hc
    have hhead := List.head?_dropWhile_not isBlank text.reverse
    rw [trimEnd, List.getLast?_reverse] at hc
    rw [hc] at hhead
    exact hhead

/-- Nothing that does not end in a blank goes on with blanks that are trimmed elsewhere. -/
theorem Trimmed.eq_of_append {text trimmed more : List Char} (h : Trimmed text (trimmed ++ more))
    (hmore : ∀ c ∈ more, isBlank c = true) : more = [] := by
  by_contra hne
  have hlast := List.getLast?_eq_some_getLast hne
  have hblank := hmore _ (List.getLast_mem hne)
  have hnot := h.last_not_blank (more.getLast hne)
    (by rw [List.getLast?_append, hlast, Option.some_or]; rfl)
  rw [hblank] at hnot
  cases hnot

theorem trimEnd_eq_iff {text trimmed : List Char} :
    trimEnd text = trimmed ↔ Trimmed text trimmed := by
  constructor
  · rintro rfl
    exact trimmed_trimEnd text
  · intro h
    obtain ⟨blanks, htext, hblanks⟩ := h.blanks
    obtain ⟨blanks', htext', hblanks'⟩ := (trimmed_trimEnd text).blanks
    -- one of the two begins like the other, and goes on with blanks
    rcases List.append_eq_append_iff.mp (htext'.symm.trans htext) with
      ⟨more, htrimmed, hmore⟩ | ⟨more, htrimmed, hmore⟩
    · rw [htrimmed] at h
      rw [h.eq_of_append fun c hc => hblanks' c (hmore ▸ List.mem_append_left blanks hc),
        List.append_nil] at htrimmed
      exact htrimmed.symm
    · have htrimEnd := trimmed_trimEnd text
      rw [htrimmed] at htrimEnd
      rw [htrimEnd.eq_of_append fun c hc => hblanks c (hmore ▸ List.mem_append_left blanks' hc),
        List.append_nil] at htrimmed
      exact htrimmed

end Text

namespace Generator

section

variable {command target : String} {timeoutSeconds : UInt64} {output errors : List UInt8}
  {exit : Exit}

/-- What a program gives that has written this and ended so. -/
inductive Gives (command : String) (output errors : List UInt8) (exit : Exit) :
    Except Failure String → Prop where
  | complaint {text trimmed : List Char} (herrors : errors ≠ [])
      (htext : Text.Utf8.Replaced errors text) (htrimmed : Text.Trimmed text trimmed) :
      Gives command output errors exit
        (.error (.of (.generatorComplained command (String.ofList trimmed))))
  | code {n : Int} (herrors : errors = []) (hexit : exit = .code n) (hn : n ≠ 0) :
      Gives command output errors exit (.error (.of (.generatorExited command n)))
  | signal (herrors : errors = []) (hexit : exit = .signal) :
      Gives command output errors exit (.error (.of (.generatorExited command (-1))))
  | text {text : List Char} (herrors : errors = []) (hexit : exit = .code 0)
      (htext : Text.Utf8.Replaced output text) :
      Gives command output errors exit (.ok (String.ofList text))

/-- It gives this and nothing else. -/
theorem text_eq_iff {result : Except Failure String} :
    text command target timeoutSeconds (.finished output errors exit) = result ↔
      Gives command output errors exit result := by
  rw [text]
  constructor
  · rintro rfl
    by_cases herrors : errors = []
    · rw [if_neg (not_not.mpr herrors)]
      by_cases hexit : exit = .code 0
      · rw [if_neg (not_not.mpr hexit)]
        exact .text herrors hexit (Text.Utf8.replaced_decodeLossy output)
      · rw [if_pos hexit]
        cases exit with
        | code n => exact .code herrors rfl fun hn => hexit (congrArg Exit.code hn)
        | signal => exact .signal herrors rfl
    · rw [if_pos herrors]
      exact .complaint herrors (Text.Utf8.replaced_decodeLossy errors) (Text.trimmed_trimEnd _)
  · intro h
    cases h with
    | complaint herrors htext htrimmed =>
      rw [if_pos herrors, Text.Utf8.decodeLossy_eq_iff.mpr htext,
        Text.trimEnd_eq_iff.mpr htrimmed]
    | code herrors hexit hn =>
      rw [if_neg (not_not.mpr herrors), hexit, if_pos (by simpa using hn)]
      rfl
    | signal herrors hexit =>
      rw [if_neg (not_not.mpr herrors), hexit]
      rfl
    | text herrors hexit htext =>
      rw [if_neg (not_not.mpr herrors), if_neg (not_not.mpr hexit),
        Text.Utf8.decodeLossy_eq_iff.mpr htext]

/-- A program that has ended, and what that gives. -/
structure Ended (command : String) (output errors : List UInt8) (exit : Exit)
    (result : Except Failure String) : Prop where
  gives : Gives command output errors exit result
  /-- There is a text just if nothing is on the error stream and the code is zero. -/
  succeeds_iff : (∃ text, result = .ok text) ↔ errors = [] ∧ exit = .code 0
  /-- A text that is one comes out as it is. -/
  unchanged : ∀ text : String, output = Text.Utf8.encode text.toList → errors = [] →
    exit = .code 0 → result = .ok text
  /-- Otherwise the failure says what is on the error stream, and if there is nothing, the code. -/
  complains : ∀ f, result = .error f → errors ≠ [] → ∃ text trimmed,
    Text.Utf8.Replaced errors text ∧ Text.Trimmed text trimmed ∧
      f.message = command ++ " failed: " ++ String.ofList trimmed
  tells_code : ∀ f, result = .error f → errors = [] →
    f.message = command ++ " exited with code " ++ toString exit.number

theorem message_of (cause : Cause) {text : String} (h : cause.text = some text) :
    (Failure.of cause).message = text := by
  change ": ".intercalate ([] ++ cause.text.toList) = text
  rw [h]
  exact String.intercalate_singleton

theorem ended (command target : String) (timeoutSeconds : UInt64) (output errors : List UInt8)
    (exit : Exit) : Ended command output errors exit
      (text command target timeoutSeconds (.finished output errors exit)) := by
  have hgives : Gives command output errors exit
      (text command target timeoutSeconds (.finished output errors exit)) := text_eq_iff.mp rfl
  constructor
  case gives => exact hgives
  case succeeds_iff =>
    constructor
    · rintro ⟨text, htext⟩
      rw [htext] at hgives
      cases hgives with
      | text herrors hexit => exact ⟨herrors, hexit⟩
    · rintro ⟨herrors, hexit⟩
      exact ⟨_, text_eq_iff.mpr (.text herrors hexit (Text.Utf8.replaced_decodeLossy output))⟩
  case unchanged =>
    rintro text rfl herrors hexit
    have htext := Text.Utf8.decodeLossy_eq_iff.mp (Text.Utf8.decodeLossy_encode text.toList)
    rw [text_eq_iff.mpr (.text herrors hexit htext), String.ofList_toList]
  case complains =>
    intro f hf herrors
    rw [hf] at hgives
    cases hgives with
    | complaint _ htext htrimmed => exact ⟨_, _, htext, htrimmed, message_of _ rfl⟩
    | code herrors' | signal herrors' => exact absurd herrors' herrors
  case tells_code =>
    intro f hf herrors
    rw [hf] at hgives
    cases hgives with
    | complaint herrors' => exact absurd herrors herrors'
    | code _ hexit =>
      rw [hexit]
      exact message_of _ rfl
    | signal _ hexit =>
      rw [hexit]
      exact message_of _ rfl

end

end Generator

/-! ## Work that gives up -/

/-- In front of an exchange and behind it, when a row of exchanges is put together from two. -/
theorem exists_of_append_eq {x : α} {front back ys zs : List α}
    (h : front ++ x :: back = ys ++ zs) :
    (∃ more, ys = front ++ x :: more ∧ back = more ++ zs) ∨
      ∃ more, front = ys ++ more ∧ zs = more ++ x :: back := by
  rcases List.append_eq_append_iff.mp h with ⟨more, hys, hback⟩ | hbehind
  · rcases List.append_eq_cons_iff.mp hback.symm with ⟨rfl, hzs⟩ | ⟨more', rfl, hback'⟩
    · exact .inr ⟨[], by rw [hys, List.append_nil, List.append_nil], hzs⟩
    · exact .inl ⟨more', hys, hback'⟩
  · exact .inr hbehind

namespace Attempt

/-- The work ends with the failure to have a text written. -/
def GivesUp (work : Attempt α) : Prop :=
  ∀ front name f back r, work.run.Course (front ++ ⟨.generate name, .error f⟩ :: back) (.done r) →
    back = [] ∧ r = .error f

theorem givesUp_pure (a : α) : (pure a : Attempt α).GivesUp := by
  intro front name f back r h
  have hnil := (course_pure h).1
  simp at hnil

theorem givesUp_fail (cause : Cause) : (fail cause : Attempt α).GivesUp := by
  intro front name f back r h
  have hnil := (course_fail h).1
  simp at hnil

/-- Another query is no failure to have a text written. -/
theorem givesUp_query {q : Query} {f : q.Answer → Except Failure α}
    (hq : ∀ name, q ≠ .generate name) : Attempt.GivesUp (ExceptT.mk (f <$> Job.query q)) := by
  intro front name e back r h
  obtain ⟨a, hxs, -⟩ := course_query h
  have hmem : (⟨.generate name, .error e⟩ : Exchange) ∈ [(⟨q, a⟩ : Exchange)] := by
    rw [← hxs]
    exact List.mem_append_right front List.mem_cons_self
  exact absurd (congrArg Sigma.fst (List.mem_singleton.mp hmem)).symm (hq name)

theorem givesUp_generate (name : String) : (generate name).GivesUp := by
  intro front name' f back r h
  have hxs := Job.Course.of_query h
  cases front with
  | nil =>
    cases hxs
    exact ⟨rfl, rfl⟩
  | cons x front => simp at hxs

/-- Work that goes on with another one gives up if both do. -/
theorem GivesUp.bind {work : Attempt α} {next : α → Attempt β} (h : work.GivesUp)
    (hnext : ∀ a, (next a).GivesUp) : (work >>= next).GivesUp := by
  intro front name f back r hcourse
  rcases course_bind hcourse with ⟨e, hfirst, rfl⟩ | ⟨ys, zs, a, hxs, hfirst, hrest⟩
  · obtain ⟨hback, he⟩ := h _ _ _ _ _ hfirst
    cases he
    exact ⟨hback, rfl⟩
  · rcases exists_of_append_eq hxs with ⟨more, rfl, -⟩ | ⟨more, -, rfl⟩
    · cases (h _ _ _ _ _ hfirst).2
    · exact hnext a _ _ _ _ _ hrest

end Attempt

namespace Action

theorem Ojichat.givesUp_anyMember (channel : Channel) : (anyMember channel).GivesUp := by
  refine Attempt.GivesUp.bind (Attempt.givesUp_query (q := .identity) nofun) ?_
  intro me
  split
  · exact Attempt.givesUp_fail _
  · exact Attempt.givesUp_query (q := .pick _ _) nofun

/-- The action gives up where no text is written for it. -/
theorem givesUp_ojichat (args : List String) (m : Incoming) : (ojichat.run args m).GivesUp := by
  have hchannel : (Attempt.channel m.channel).GivesUp :=
    Attempt.givesUp_query (q := .channel m.channel) (f := fun r => r) nofun
  refine hchannel.bind ?_
  intro channel
  have htarget : (Ojichat.targetId channel (Ojichat.target args m.sender)).GivesUp := by
    cases Ojichat.target args m.sender with
    | user id => exact Attempt.givesUp_pure id
    | anyone => exact Ojichat.givesUp_anyMember channel
  refine htarget.bind ?_
  intro id
  have huser : ((Attempt.user id).within .fetchingTarget).GivesUp :=
    Attempt.givesUp_query (q := .user id) nofun
  refine huser.bind ?_
  intro user
  refine (Attempt.givesUp_generate user.name).bind ?_
  intro generated
  exact Attempt.givesUp_pure _

theorem givesUp_stats (args : List String) (m : Incoming) : (stats.run args m).GivesUp := by
  have hchannel : (Attempt.channel m.channel).GivesUp :=
    Attempt.givesUp_query (q := .channel m.channel) (f := fun r => r) nofun
  refine hchannel.bind ?_
  intro channel
  have hcreator : (Stats.creatorText channel).GivesUp := by
    unfold Stats.creatorText
    split
    · exact Attempt.givesUp_pure _
    · have huser : (Attempt.user channel.creator).GivesUp :=
        Attempt.givesUp_query (q := .user channel.creator) (f := fun r => r) nofun
      exact huser.bind fun user => Attempt.givesUp_pure _
  exact hcreator.bind fun creator => Attempt.givesUp_pure _

end Action

/-- So does every built-in action: the others have no text written. -/
theorem CommandTable.givesUp_resolve_builtIn (name : String) (args : List String) (m : Incoming) :
    ((builtIn.resolve name).run args m).GivesUp := by
  rcases resolve_builtIn_cases name with h | h | h | h <;> rw [h]
  · exact Action.givesUp_ojichat args m
  · exact Action.givesUp_stats args m
  · exact Attempt.givesUp_pure _
  · exact Attempt.givesUp_pure _

/-! ## Runs of such work -/

/-- A run ends with the failure to have a text written. The messages of the iterations before have been
posted, and nothing else was tried. -/
theorem Schedule.stopped_of_course (s : Schedule) (name : String) {act : Attempt Message}
    (hact : act.Makes fun _ => True) (hgives : act.GivesUp) {requested : UInt32} {left : Nat}
    {posted : UInt32} (hfit : posted.toNat + left = requested.toNat) {front back : List Exchange}
    {target : String} {f : Failure} {report : RunReport}
    (h : (s.runFrom Bot.outlet name act.run requested left posted).Course
      (front ++ ⟨.generate target, .error f⟩ :: back) (.done report)) :
    back = [] ∧ report.posted.toNat = posted.toNat + (front.filterMap Exchange.post?).length ∧
      report.posted.toNat < requested.toNat ∧ report.requested = requested ∧
      report.error = some (f.within (.running name (report.posted + 1) requested)) := by
  have hasked : ∀ {ys made}, act.run.Course ys (.done made) → ∀ x ∈ ys, x.post? = none :=
    fun hmade x hx =>
      Exchange.post?_of_inquiry ((hact.of_course hmade fun _ _ => trivial).1 x hx)
  induction left generalizing posted front with
  | zero =>
    generalize hxs : front ++ ⟨.generate target, .error f⟩ :: back = xs at h
    cases h with
    | nil => simp at hxs
  | succ left ih =>
    generalize hxs : front ++ ⟨.generate target, .error f⟩ :: back = xs at h
    rcases s.turn_of_course name h with ⟨f', hmade, rfl⟩ | ⟨ys, m, f', hmade, rfl, rfl⟩ |
      ⟨ys, m, zs, hmade, rfl, hrest⟩
    · -- the iteration in which it happens
      subst hxs
      obtain ⟨rfl, hf⟩ := hgives _ _ _ _ _ hmade
      cases hf
      have hnothing : front.filterMap Exchange.post? = [] :=
        List.filterMap_eq_nil_iff.mpr fun x hx => hasked hmade x (List.mem_append_left _ hx)
      rw [hnothing]
      exact ⟨rfl, rfl, by dsimp only; omega, rfl, rfl⟩
    · -- a text has been written, and its message could not be posted
      rcases exists_of_append_eq hxs with ⟨more, rfl, -⟩ | ⟨more, -, hposted⟩
      · cases (hgives _ _ _ _ _ hmade).2
      · cases more with
        | nil => cases hposted
        | cons x more => simp at hposted
    · -- the message has been posted, and the run goes on
      rcases exists_of_append_eq hxs with ⟨more, rfl, -⟩ | ⟨more, rfl, hposted⟩
      · cases (hgives _ _ _ _ _ hmade).2
      · rcases more with _ | ⟨x, _ | ⟨y, more⟩⟩
        · cases hposted
        · cases hposted
        · cases hposted
          have hlt : posted.toNat + 1 < UInt32.size := by
            have hrequested : requested.toNat < UInt32.size := requested.toNat_lt
            omega
          have hnext : (posted + 1).toNat = posted.toNat + 1 := by
            rw [UInt32.toNat_add]
            exact Nat.mod_eq_of_lt hlt
          obtain ⟨hback, hposted, hless, hrequested, herror⟩ := ih (by omega) hrest
          refine ⟨hback, ?_, hless, hrequested, herror⟩
          have hnothing : ys.filterMap Exchange.post? = [] :=
            List.filterMap_eq_nil_iff.mpr fun x hx => hasked hmade x hx
          rw [hposted, hnext, List.filterMap_append, hnothing]
          show posted.toNat + 1 + (more.filterMap Exchange.post?).length =
            posted.toNat + ((more.filterMap Exchange.post?).length + 1)
          omega

namespace Bot

/-- What becomes of a command when a text could not be written for it. -/
structure Stopped (name : String) (front back : List Exchange) (f : Failure)
    (result : Option RunReport) : Prop where
  /-- Nothing more is asked. -/
  last : back = []
  /-- The report tells of the failure in the iteration behind those whose messages have been posted. All
  posts that were tried are theirs. -/
  reported : ∃ report, result = some report ∧
    report.error = some (f.within (.running name (report.posted + 1) report.requested)) ∧
    report.posted.toNat < report.requested.toNat ∧
    report.posted.toNat = (front.filterMap Exchange.post?).length ∧
    report.posted.toNat = (front.filterMap Exchange.delivered?).length

theorem stopped_of_course {announce : String} {schedule : Schedule} {m : Incoming} {c : Command}
    (hparse : Command.parse m.text = some c) {front back : List Exchange} {target : String}
    {f : Failure} {result : Option RunReport}
    (h : (Bot.handle { announce, schedule } m).Course
      (front ++ ⟨.generate target, .error f⟩ :: back) (.done result)) :
    Stopped (CommandTable.builtIn.resolve c.name).name front back f result := by
  rw [handle, hparse] at h
  obtain ⟨report, hrun, rfl⟩ := Job.Course.of_map h
  have hact : ((CommandTable.builtIn.resolve c.name).run c.args m).Makes fun _ => True :=
    (CommandTable.makes_resolve_builtIn c.name c.args m).mono fun _ _ => trivial
  have hfit : (0 : UInt32).toNat + (schedule.clamp c.runs).toNat =
      (schedule.clamp c.runs).toNat := Nat.zero_add _
  obtain ⟨-, hdelivered, -⟩ := schedule.course_runFrom _ hact hfit hrun
  obtain ⟨rfl, hposted, hless, hrequested, herror⟩ := schedule.stopped_of_course _ hact
    (CommandTable.givesUp_resolve_builtIn c.name c.args m) hfit hrun
  have hlast : (front ++ [(⟨.generate target, .error f⟩ : Exchange)]).filterMap
      Exchange.delivered? = front.filterMap Exchange.delivered? := by
    rw [List.filterMap_append]
    exact List.append_nil _
  constructor
  case last => rfl
  case reported =>
    refine ⟨report, rfl, ?_, ?_, ?_, ?_⟩
    · rw [herror, hrequested]
    · rwa [hrequested]
    · exact hposted.trans (Nat.zero_add _)
    · rw [← hlast]
      exact hdelivered.trans (Nat.zero_add _)

end Bot

/-! ## The account of a generated text -/

/-- A program that has ended in time gives its output, as it is, just if it has written no byte to its
error stream and its code is zero. Otherwise there is no text, for the reason that comes first; and a
command that no text is written for posts nothing in that iteration and stops there. -/
theorem Generator.ended_text (command target : String) (timeoutSeconds : UInt64)
    (output errors : List UInt8) (exit : Exit) (announce : String) (schedule : Schedule)
    (m : Incoming) {σ : Type} (answer : (q : Query) → σ → q.Answer × σ) (world : σ) :
    Ended command output errors exit
        (text command target timeoutSeconds (.finished output errors exit)) ∧
      ∀ c, Command.parse m.text = some c → ¬(errors = [] ∧ exit = .code 0) →
        ∀ front back,
          ((Bot.handle { announce, schedule } m).conclude answer world).2.1 =
            front ++ ⟨.generate target,
              text command target timeoutSeconds (.finished output errors exit)⟩ :: back →
          ∃ f, text command target timeoutSeconds (.finished output errors exit) = .error f ∧
            Bot.Stopped (CommandTable.builtIn.resolve c.name).name front back f
              ((Bot.handle { announce, schedule } m).conclude answer world).1 := by
  have hended := ended command target timeoutSeconds output errors exit
  refine ⟨hended, ?_⟩
  intro c hparse hfailed front back hexchanges
  have hcourse := Job.course_conclude answer (Bot.handle { announce, schedule } m) world
  rw [hexchanges] at hcourse
  cases htext : text command target timeoutSeconds (.finished output errors exit) with
  | ok written =>
    rw [htext] at hended
    exact absurd (hended.succeeds_iff.mp ⟨written, rfl⟩) hfailed
  | error f =>
    rw [htext] at hcourse
    exact ⟨f, rfl, Bot.stopped_of_course hparse hcourse⟩

end Herald
