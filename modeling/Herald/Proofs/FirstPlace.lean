import Herald.Text.Occurrence

/-!
# The first place in a text

A text is searched from the left: what counts is the first place from which on it has some property.
`FirstCut` is the text cut there.

* `firstCut_cons_iff`: the first place is here, or it is the first one behind the next character. This
  is the step of every search.
* `exists_firstCut`: there is a first place if there is any at all.
* `takeWhile_run` and `dropWhile_run`: a run ends at the first place of another kind.
* `splitAround_eq_some_iff`: cutting around a pattern finds the first place where it stands, and
  `replaceFirst_of_firstCut` puts another text there.
-/

namespace Herald.Text

/-- A text, cut in front of the first place from which on it has the property. -/
structure FirstCut (p : List Char → Prop) (text before rest : List Char) : Prop where
  join : text = before ++ rest
  holds : p rest
  first : ∀ before' rest', text = before' ++ rest' → p rest' → before.length ≤ before'.length

section

variable {p : List Char → Prop} {text before rest : List Char}

theorem firstCut_nil_iff : FirstCut p [] before rest ↔ before = [] ∧ rest = [] ∧ p [] := by
  constructor
  · rintro ⟨hjoin, hp, -⟩
    obtain ⟨rfl, rfl⟩ := List.append_eq_nil_iff.mp hjoin.symm
    exact ⟨rfl, rfl, hp⟩
  · rintro ⟨rfl, rfl, hp⟩
    exact ⟨rfl, hp, fun _ _ _ _ => Nat.zero_le _⟩

/-- The first place is here, or it is the first one behind the next character. -/
theorem firstCut_cons_iff {c : Char} :
    FirstCut p (c :: text) before rest ↔
      (p (c :: text) ∧ before = [] ∧ rest = c :: text) ∨
      (¬ p (c :: text) ∧ ∃ before', before = c :: before' ∧ FirstCut p text before' rest) := by
  constructor
  · rintro ⟨hjoin, hrest, hfirst⟩
    by_cases hp : p (c :: text)
    · -- a place here is in front of all others
      left
      have hlength : before.length ≤ 0 := hfirst [] (c :: text) rfl hp
      obtain rfl := List.eq_nil_of_length_eq_zero (Nat.le_zero.mp hlength)
      exact ⟨hp, rfl, hjoin.symm⟩
    · right
      cases before with
      | nil =>
        rw [List.nil_append] at hjoin
        exact absurd (hjoin ▸ hrest) hp
      | cons d before =>
        obtain ⟨rfl, rfl⟩ := List.cons.inj hjoin
        refine ⟨hp, before, rfl, rfl, hrest, ?_⟩
        intro before' rest' hjoin' hrest'
        have hlength := hfirst (c :: before') rest' (congrArg (c :: ·) hjoin') hrest'
        exact Nat.le_of_succ_le_succ hlength
  · rintro (⟨hp, rfl, rfl⟩ | ⟨hp, before', rfl, hjoin, hrest, hfirst⟩)
    · exact ⟨rfl, hp, fun _ _ _ _ => Nat.zero_le _⟩
    · refine ⟨congrArg (c :: ·) hjoin, hrest, ?_⟩
      intro other rest' hjoin' hrest'
      cases other with
      | nil =>
        rw [List.nil_append] at hjoin'
        exact absurd (hjoin' ▸ hrest') hp
      | cons d other =>
        obtain ⟨rfl, hbehind⟩ := List.cons.inj hjoin'
        exact Nat.succ_le_succ (hfirst other rest' hbehind hrest')

/-- If there is a place at all, there is a first one. -/
theorem exists_firstCut (hjoin : text = before ++ rest) (hrest : p rest) :
    ∃ before' rest', FirstCut p text before' rest' := by
  induction text generalizing before with
  | nil =>
    obtain ⟨rfl, rfl⟩ := List.append_eq_nil_iff.mp hjoin.symm
    exact ⟨[], [], firstCut_nil_iff.mpr ⟨rfl, rfl, hrest⟩⟩
  | cons c text ih =>
    by_cases hp : p (c :: text)
    · exact ⟨[], c :: text, firstCut_cons_iff.mpr (.inl ⟨hp, rfl, rfl⟩)⟩
    · cases before with
      | nil =>
        rw [List.nil_append] at hjoin
        exact absurd (hjoin ▸ hrest) hp
      | cons d before =>
        obtain ⟨rfl, hbehind⟩ := List.cons.inj hjoin
        obtain ⟨before', rest', hcut⟩ := ih hbehind
        exact ⟨c :: before', rest', firstCut_cons_iff.mpr (.inr ⟨hp, before', rfl, hcut⟩)⟩

end

/-! ## Runs -/

section

variable {p : α → Bool} {run tail : List α}

/-- A run of items of one kind goes as far as the first one of another kind. -/
theorem takeWhile_run (hrun : ∀ c ∈ run, p c = true) (htail : ∀ c ∈ tail.head?, p c = false) :
    (run ++ tail).takeWhile p = run := by
  rw [List.takeWhile_append_of_pos hrun]
  cases tail with
  | nil => exact List.append_nil run
  | cons c tail =>
    have hc : ¬ p c = true := by simp [htail c rfl]
    rw [List.takeWhile_cons_of_neg hc, List.append_nil]

theorem dropWhile_run (hrun : ∀ c ∈ run, p c = true) (htail : ∀ c ∈ tail.head?, p c = false) :
    (run ++ tail).dropWhile p = tail := by
  rw [List.dropWhile_append_of_pos hrun]
  cases tail with
  | nil => rfl
  | cons c tail =>
    have hc : ¬ p c = true := by simp [htail c rfl]
    rw [List.dropWhile_cons_of_neg hc]

end

/-! ## Patterns -/

section

variable {pattern text before behind : List Char}

/-- The first place where a pattern stands, told by what is in front of it and behind it. -/
theorem firstCut_prefix_iff :
    FirstCut (pattern <+: ·) text before (pattern ++ behind) ↔
      text = before ++ pattern ++ behind ∧
        ∀ before' behind', text = before' ++ pattern ++ behind' →
          before.length ≤ before'.length := by
  constructor
  · intro h
    refine ⟨by rw [h.join, List.append_assoc], fun before' behind' hjoin => ?_⟩
    exact h.first before' (pattern ++ behind') (by rw [hjoin, List.append_assoc])
      (List.prefix_append pattern behind')
  · rintro ⟨hjoin, hfirst⟩
    refine ⟨by rw [hjoin, List.append_assoc], List.prefix_append pattern behind, ?_⟩
    rintro before' _ hjoin' ⟨behind', rfl⟩
    exact hfirst before' behind' (by rw [hjoin', List.append_assoc])

theorem exists_firstCut_of_infix (h : pattern <:+: text) :
    ∃ before behind, FirstCut (pattern <+: ·) text before (pattern ++ behind) := by
  obtain ⟨front, back, hjoin⟩ := h
  have hplace : text = front ++ (pattern ++ back) := by rw [← hjoin, List.append_assoc]
  obtain ⟨before, rest, hcut⟩ := exists_firstCut hplace (List.prefix_append pattern back)
  obtain ⟨behind, rfl⟩ := hcut.holds
  exact ⟨before, behind, hcut⟩

/-- Cutting around a pattern finds the first place where it stands. -/
theorem splitAround_eq_some_iff :
    splitAround pattern text = some (before, behind) ↔
      FirstCut (pattern <+: ·) text before (pattern ++ behind) := by
  induction text generalizing before with
  | nil =>
    rw [firstCut_nil_iff]
    cases pattern with
    | nil => simp [splitAround, afterPrefix?, eq_comm]
    | cons c pattern => simp [splitAround, afterPrefix?]
  | cons c text ih =>
    rw [firstCut_cons_iff]
    cases hafter : afterPrefix? pattern (c :: text) with
    | some rest =>
      have hjoin := afterPrefix?_eq_some_iff.mp hafter
      have hhere : pattern <+: c :: text := ⟨rest, hjoin.symm⟩
      have hbehind : behind = rest ↔ pattern ++ behind = c :: text := by
        rw [hjoin]
        exact List.append_right_inj pattern |>.symm
      simp [splitAround, hafter, hhere, ← hbehind, eq_comm]
    | none =>
      have hnot : ¬ pattern <+: c :: text := by
        rintro ⟨rest, hjoin⟩
        rw [afterPrefix?_eq_some_iff.mpr hjoin.symm] at hafter
        cases hafter
      have hsome : splitAround pattern (c :: text) = some (before, behind) ↔
          ∃ before', before = c :: before' ∧ splitAround pattern text = some (before', behind) := by
        simp only [splitAround, hafter, Option.map_eq_some_iff, Prod.exists, Prod.mk.injEq]
        constructor
        · rintro ⟨before', behind', hcut, rfl, rfl⟩
          exact ⟨before', rfl, hcut⟩
        · rintro ⟨before', rfl, hcut⟩
          exact ⟨before', behind, hcut, rfl, rfl⟩
      simp [hsome, hnot, ih]

/-- Without a place for the pattern there is nothing to cut. -/
theorem splitAround_eq_none_iff : splitAround pattern text = none ↔ ¬ pattern <:+: text := by
  rw [← occurs_iff_infix, occurs, Bool.not_eq_true, Option.isSome_eq_false_iff,
    Option.isNone_iff_eq_none]

/-- Another text in the place of a pattern. -/
theorem replaceFirst_of_firstCut (replacement : List Char)
    (h : FirstCut (pattern <+: ·) text before (pattern ++ behind)) :
    replaceFirst pattern replacement text = before ++ replacement ++ behind := by
  rw [replaceFirst, splitAround_eq_some_iff.mpr h]

theorem replaceFirst_of_not_infix (replacement : List Char) (h : ¬ pattern <:+: text) :
    replaceFirst pattern replacement text = text :=
  replaceFirst_of_none (splitAround_eq_none_iff.mpr h)

/-- In front of the first place of a character the text is free of it. -/
theorem firstCut_char_iff {c : Char} :
    FirstCut ([c] <+: ·) text before ([c] ++ behind) ↔
      text = before ++ c :: behind ∧ c ∉ before := by
  constructor
  · intro h
    refine ⟨h.join, fun hmem => ?_⟩
    obtain ⟨front, back, hbefore⟩ := List.append_of_mem hmem
    have hjoin : text = front ++ c :: (back ++ c :: behind) := by
      rw [h.join, hbefore]
      simp
    have hlength := h.first front _ hjoin (List.prefix_append [c] _)
    rw [hbefore, List.length_append, List.length_cons] at hlength
    omega
  · rintro ⟨hjoin, hnot⟩
    refine ⟨hjoin, List.prefix_append [c] behind, ?_⟩
    rintro before' rest' hjoin' ⟨tail, rfl⟩
    rcases List.append_eq_append_iff.mp (hjoin.symm.trans hjoin') with
      ⟨gap, rfl, -⟩ | ⟨gap, hbefore, hgap⟩
    · rw [List.length_append]
      exact Nat.le_add_right _ _
    · -- an earlier place would put the character in front of the first one
      cases gap with
      | nil => exact Nat.le_of_eq (congrArg List.length (hbefore.trans (List.append_nil before')))
      | cons d gap =>
        obtain ⟨rfl, -⟩ := List.cons.inj hgap
        exact absurd (hbefore ▸ List.mem_append_right before' List.mem_cons_self) hnot

end

end Herald.Text
