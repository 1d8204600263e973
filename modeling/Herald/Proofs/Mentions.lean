import Herald.Mention
import Herald.Proofs.FirstPlace

/-!
# Mentions in a text

The grammar of mentions stands beside the search for them: `IsId` says what an id is, `Closes` how a
mention goes on behind it, and `Mentions` where in a text a mention stands.

* `atStart?_eq_some_iff`: a mention is recognised where one starts. The run of an id is taken as far
  as it goes, and loses nothing by that, as what closes a mention is no part of an id.
* `user?_finds`: of all mentions in a text the first one counts.
* `user?_spelling`: a text that is a mention and nothing else names its user.
-/

namespace Herald.Mention

/-! ## The grammar -/

/-- The id of a user: `U` or `W`, and eight or more capital letters and digits behind it. -/
def IsId (id : List Char) : Prop :=
  ∃ first run, id = first :: run ∧ (first = 'U' ∨ first = 'W') ∧ 8 ≤ run.length ∧
    ∀ c ∈ run, ('A' ≤ c ∧ c ≤ 'Z') ∨ ('0' ≤ c ∧ c ≤ '9')

/-- What a mention goes on with behind the id: its end, or a label and its end. The label may be
empty, and may hold all but the end. -/
inductive Closes : List Char → Prop where
  | bare (rest : List Char) : Closes ('>' :: rest)
  | labelled {label : List Char} (h : '>' ∉ label) (rest : List Char) :
      Closes ('|' :: label ++ '>' :: rest)

/-- A mention of a user in a text, behind `before` and with `tail` behind the id. -/
structure Mentions (text before id tail : List Char) : Prop where
  join : text = before ++ ['<', '@'] ++ id ++ tail
  isId : IsId id
  closes : Closes tail

/-- A mention as it is written. -/
def spelling (id : String) (label : Option String) : String :=
  "<@" ++ id ++ label.elim "" ("|" ++ ·) ++ ">"

/-- All of an id are capital letters and digits, its first letter too. -/
theorem IsId.of_mem {id : List Char} (h : IsId id) {c : Char} (hc : c ∈ id) :
    ('A' ≤ c ∧ c ≤ 'Z') ∨ ('0' ≤ c ∧ c ≤ '9') := by
  obtain ⟨first, run, rfl, hfirst, -, hrun⟩ := h
  rcases List.mem_cons.mp hc with rfl | hc
  · rcases hfirst with rfl | rfl <;> decide
  · exact hrun c hc

/-! ## Recognising a mention -/

theorem isIdChar_iff {c : Char} :
    isIdChar c = true ↔ ('A' ≤ c ∧ c ≤ 'Z') ∨ ('0' ≤ c ∧ c ≤ '9') := by
  simp [isIdChar]

theorem isId_cons_iff {first : Char} {run : List Char} :
    IsId (first :: run) ↔
      (first = 'U' ∨ first = 'W') ∧ 8 ≤ run.length ∧ run.all isIdChar = true := by
  simp only [IsId, List.all_eq_true, isIdChar_iff]
  constructor
  · rintro ⟨_, _, hjoin, hid⟩
    obtain ⟨rfl, rfl⟩ := List.cons.inj hjoin
    exact hid
  · exact fun hid => ⟨first, run, rfl, hid⟩

instance instDecidableIsId : (id : List Char) → Decidable (IsId id)
  | [] => isFalse fun ⟨_, _, hjoin, _⟩ => List.cons_ne_nil _ _ hjoin.symm
  | _ :: _ => decidable_of_iff _ isId_cons_iff.symm

theorem closes_iff {tail : List Char} : Mention.closes tail = true ↔ Closes tail := by
  constructor
  · intro h
    unfold Mention.closes at h
    split at h
    · exact .bare _
    · next rest =>
      obtain ⟨label, behind, rfl, hlabel⟩ := List.eq_append_cons_of_mem (List.contains_iff_mem.mp h)
      exact .labelled hlabel behind
    · cases h
  · intro h
    cases h with
    | bare rest => rfl
    | @labelled label hlabel rest => simp [Mention.closes]

/-- What closes a mention is no part of an id. -/
theorem Closes.not_isIdChar {tail : List Char} (h : Closes tail) :
    ∀ c ∈ tail.head?, isIdChar c = false := by
  cases h with
  | bare rest =>
    rintro _ ⟨⟩
    decide
  | labelled _ rest =>
    rintro _ ⟨⟩
    decide

/-- Where a text starts with a mention, its id is recognised. -/
theorem atStart?_eq_some_iff {text id : List Char} :
    atStart? text = some id ↔
      ∃ tail, text = ['<', '@'] ++ id ++ tail ∧ IsId id ∧ Closes tail := by
  constructor
  · intro h
    unfold atStart? at h
    split at h
    · next c rest =>
      simp only [Option.ite_none_right_eq_some, Option.some.injEq] at h
      obtain ⟨⟨hc, hlength, hcloses⟩, rfl⟩ := h
      refine ⟨rest.dropWhile isIdChar, ?_, ?_, closes_iff.mp hcloses⟩
      · simp [List.takeWhile_append_dropWhile]
      · exact isId_cons_iff.mpr ⟨hc, hlength, List.all_takeWhile⟩
    · cases h
  · rintro ⟨tail, rfl, ⟨first, run, rfl, hfirst, hlength, hrun⟩, hcloses⟩
    have hrun' : ∀ c ∈ run, isIdChar c = true := fun c hc => isIdChar_iff.mpr (hrun c hc)
    have htake := Text.takeWhile_run hrun' hcloses.not_isIdChar
    have hdrop := Text.dropWhile_run hrun' hcloses.not_isIdChar
    have hclosed := closes_iff.mpr hcloses
    simp [atStart?, htake, hdrop, hfirst, hlength, hclosed]

/-- A place from which on a text starts with a mention. -/
def Starts (text : List Char) : Prop :=
  (atStart? text).isSome = true

/-- The places where a mention starts are those behind which the text mentions someone. -/
theorem starts_iff {text before : List Char} :
    (∃ rest, text = before ++ rest ∧ Starts rest) ↔ ∃ id tail, Mentions text before id tail := by
  constructor
  · rintro ⟨rest, rfl, hstarts⟩
    obtain ⟨id, hid⟩ := Option.isSome_iff_exists.mp hstarts
    obtain ⟨tail, rfl, hisId, hcloses⟩ := atStart?_eq_some_iff.mp hid
    exact ⟨id, tail, by simp, hisId, hcloses⟩
  · rintro ⟨id, tail, hjoin, hisId, hcloses⟩
    refine ⟨['<', '@'] ++ id ++ tail, by simp [hjoin], ?_⟩
    rw [Starts, atStart?_eq_some_iff.mpr ⟨tail, rfl, hisId, hcloses⟩]
    rfl

/-- At one place there is one mention at most. -/
theorem Mentions.unique {text before id tail id' tail' : List Char}
    (h : Mentions text before id tail) (h' : Mentions text before id' tail') :
    id = id' ∧ tail = tail' := by
  have hbehind : ['<', '@'] ++ id ++ tail = ['<', '@'] ++ id' ++ tail' := by
    have hjoin := h.join.symm.trans h'.join
    simpa using hjoin
  have hid := atStart?_eq_some_iff.mpr ⟨tail, rfl, h.isId, h.closes⟩
  have hid' := atStart?_eq_some_iff.mpr ⟨tail', hbehind, h'.isId, h'.closes⟩
  obtain rfl : id = id' := Option.some.inj (hid.symm.trans hid')
  exact ⟨rfl, List.append_cancel_left hbehind⟩

/-! ## Searching a text -/

/-- The search ends at the first place where a mention starts. -/
theorem first?_eq_some_iff {text id : List Char} :
    first? text = some id ↔
      ∃ before rest, Text.FirstCut Starts text before rest ∧ atStart? rest = some id := by
  induction text with
  | nil => simp [first?, Text.firstCut_nil_iff, Starts, atStart?]
  | cons c text ih =>
    cases hstart : atStart? (c :: text) with
    | some found =>
      have hhere : Starts (c :: text) := by rw [Starts, hstart]; rfl
      simp only [first?, hstart, Option.some_or, Option.some.injEq]
      constructor
      · rintro rfl
        exact ⟨[], c :: text, Text.firstCut_cons_iff.mpr (.inl ⟨hhere, rfl, rfl⟩), hstart⟩
      · rintro ⟨before, rest, hcut, hid⟩
        rcases Text.firstCut_cons_iff.mp hcut with ⟨-, -, rfl⟩ | ⟨hnot, -⟩
        · exact Option.some.inj (hstart.symm.trans hid)
        · exact absurd hhere hnot
    | none =>
      have hnot : ¬ Starts (c :: text) := by rw [Starts, hstart]; exact Bool.false_ne_true
      simp only [first?, hstart, Option.none_or, ih]
      constructor
      · rintro ⟨before, rest, hcut, hid⟩
        exact ⟨c :: before, rest, Text.firstCut_cons_iff.mpr (.inr ⟨hnot, before, rfl, hcut⟩), hid⟩
      · rintro ⟨before, rest, hcut, hid⟩
        rcases Text.firstCut_cons_iff.mp hcut with ⟨hhere, -⟩ | ⟨-, before', rfl, hcut'⟩
        · exact absurd hhere hnot
        · exact ⟨before', rest, hcut', hid⟩

theorem user?_eq_some_iff {text id : String} :
    user? text = some id ↔ first? text.toList = some id.toList := by
  rw [user?, Option.map_eq_some_iff]
  constructor
  · rintro ⟨found, hfound, rfl⟩
    rw [hfound, String.toList_ofList]
  · intro h
    exact ⟨id.toList, h, String.ofList_toList⟩

/-- The first mention of a text is the one whose id is found. -/
theorem user?_eq_some_iff_mentions {text id : String} :
    user? text = some id ↔
      ∃ before tail, Mentions text.toList before id.toList tail ∧
        ∀ before' id' tail', Mentions text.toList before' id' tail' →
          before.length ≤ before'.length := by
  rw [user?_eq_some_iff, first?_eq_some_iff]
  constructor
  · rintro ⟨before, rest, hcut, hid⟩
    obtain ⟨tail, rfl, hisId, hcloses⟩ := atStart?_eq_some_iff.mp hid
    refine ⟨before, tail, ⟨by simp [hcut.join], hisId, hcloses⟩, ?_⟩
    intro before' id' tail' hmentions
    obtain ⟨rest', hjoin, hstarts⟩ := starts_iff.mpr ⟨id', tail', hmentions⟩
    exact hcut.first before' rest' hjoin hstarts
  · rintro ⟨before, tail, hmentions, hfirst⟩
    have hid := atStart?_eq_some_iff.mpr ⟨tail, rfl, hmentions.isId, hmentions.closes⟩
    refine ⟨before, ['<', '@'] ++ id.toList ++ tail, ⟨by simp [hmentions.join], ?_, ?_⟩, hid⟩
    · rw [Starts, hid]
      rfl
    · intro before' rest' hjoin hstarts
      obtain ⟨id', tail', hmentions'⟩ := starts_iff.mp ⟨rest', hjoin, hstarts⟩
      exact hfirst before' id' tail' hmentions'

/-- Nobody is found just in a text without a mention. -/
theorem user?_eq_none_iff {text : String} :
    user? text = none ↔ ∀ before id tail, ¬ Mentions text.toList before id tail := by
  constructor
  · intro hnone before id tail hmentions
    obtain ⟨rest, hjoin, hstarts⟩ := starts_iff.mpr ⟨id, tail, hmentions⟩
    obtain ⟨before', rest', hcut⟩ := Text.exists_firstCut hjoin hstarts
    obtain ⟨found, hfound⟩ := Option.isSome_iff_exists.mp hcut.holds
    have hfirst := first?_eq_some_iff.mpr ⟨before', rest', hcut, hfound⟩
    rw [user?, hfirst] at hnone
    cases hnone
  · intro hnot
    cases hfound : user? text with
    | none => rfl
    | some id =>
      obtain ⟨before, tail, hmentions, -⟩ := user?_eq_some_iff_mentions.mp hfound
      exact absurd hmentions (hnot before id.toList tail)

/-- Of all mentions in a text the first one counts: its id is found, and it has no other; nobody is
found in a text without a mention. -/
theorem user?_finds (text : String) :
    (∀ id, user? text = some id ↔
      ∃ before tail, Mentions text.toList before id.toList tail ∧
        ∀ before' id' tail', Mentions text.toList before' id' tail' →
          before.length ≤ before'.length) ∧
    (∀ before id tail before' id' tail', Mentions text.toList before id tail →
      Mentions text.toList before' id' tail' → before.length = before'.length →
        before = before' ∧ id = id' ∧ tail = tail') ∧
    (user? text = none ↔ ∀ before id tail, ¬ Mentions text.toList before id tail) := by
  refine ⟨fun id => user?_eq_some_iff_mentions, ?_, user?_eq_none_iff⟩
  intro before id tail before' id' tail' h h' hlength
  have hjoin := h.join.symm.trans h'.join
  simp only [List.append_assoc] at hjoin
  obtain ⟨rfl, -⟩ := List.append_inj hjoin hlength
  exact ⟨rfl, h.unique h'⟩

/-- A mention begun in vain, and one inside the label of the first that is complete. -/
example : user? "<@U1234567|<@W0123ABCD|\n<@U87654321>" = some "W0123ABCD" := by decide

theorem toList_spelling (id : String) (label : Option String) :
    (spelling id label).toList =
      ['<', '@'] ++ id.toList ++ ((label.elim [] fun l => '|' :: l.toList) ++ ['>']) := by
  cases label <;> simp [spelling]

/-- A mention names its user, whatever its label is. -/
theorem user?_spelling {id : String} {label : Option String} (hid : IsId id.toList)
    (hlabel : ∀ l ∈ label, '>' ∉ l.toList) : user? (spelling id label) = some id := by
  have hcloses : Closes ((label.elim [] fun l => '|' :: l.toList) ++ ['>']) := by
    cases label with
    | none => exact .bare []
    | some l => exact .labelled (hlabel l rfl) []
  apply user?_eq_some_iff_mentions.mpr
  refine ⟨[], _, ⟨?_, hid, hcloses⟩, fun _ _ _ _ => Nat.zero_le _⟩
  rw [toList_spelling, List.nil_append]

end Herald.Mention
