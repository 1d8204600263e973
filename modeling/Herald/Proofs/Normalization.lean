import Herald.Proofs.Tokens
import Mathlib.Data.List.Infix

/-!
# What is kept of a text

Before a text is read, one period at its end goes and its spaces are squeezed. Nothing else is lost,
and the tokens tell the squeezed text exactly.

* `Squeezed` says what squeezing is: each maximal run of spaces is one space, and every other
  character stays where it is. `squeezed_squeeze` finds it done.
* `Squeezed.eq_of_single`: a text without two spaces side by side stays as it is, so squeezing twice
  is squeezing once.
* `trim_normalizes` says what is kept of any text, and what its tokens tell of it.
-/

namespace Herald

/-! ## The outer parts of a list -/

namespace Text

variable [DecidableEq α] {a : α}

/-- The first part is empty just if there is nothing in front of the first cut. -/
theorem head?_splitWhere_eq_nil_iff {l : List α} :
    (splitWhere (· = a) l).head? = some [] ↔ l = [] ∨ l.head? = some a := by
  constructor
  · intro h
    obtain ⟨parts, hparts⟩ := List.head?_eq_some_iff.mp h
    have hl := intercalate_splitWhere a l
    rw [hparts] at hl
    cases parts with
    | nil => exact .inl (by simpa [List.intercalate] using hl.symm)
    | cons next parts =>
      rw [List.intercalate_cons_cons] at hl
      exact .inr (by rw [← hl]; rfl)
  · rintro (rfl | h)
    · rfl
    · obtain ⟨rest, rfl⟩ := List.head?_eq_some_iff.mp h
      simp [splitWhere]

/-- The last part is empty just if there is nothing behind the last cut. -/
theorem getLast?_splitWhere_eq_nil_iff {l : List α} :
    (splitWhere (· = a) l).getLast? = some [] ↔ l = [] ∨ l.getLast? = some a := by
  constructor
  · intro h
    obtain ⟨parts, hparts⟩ := List.getLast?_eq_some_iff.mp h
    have hl := intercalate_splitWhere a l
    rw [hparts] at hl
    rw [← hl]
    clear hparts hl h
    -- in front of the empty part there is a cut, or no part at all
    induction parts with
    | nil => exact .inl (by simp [List.intercalate])
    | cons part parts ih =>
      right
      rw [List.cons_append, List.intercalate_cons_of_ne_nil (by simp)]
      rcases ih with hnil | hlast
      · rw [hnil, List.append_nil, List.getLast?_concat]
      · rw [List.getLast?_append, hlast, Option.some_or]
  · rintro (rfl | h)
    · rfl
    · obtain ⟨front, rfl⟩ := List.getLast?_eq_some_iff.mp h
      have hcut := splitWhere_append (p := (· = a)) (decide_eq_true rfl) front []
      rw [hcut, splitWhere, List.getLast?_concat]

end Text

namespace Command

/-! ## Squeezing -/

/-- A text, and the same with one space for each maximal run of spaces. Every other character stays
where it is. -/
inductive Squeezed : List Char → List Char → Prop where
  | nil : Squeezed [] []
  | letter {c : Char} {text squeezed : List Char} (hc : c ≠ ' ') (h : Squeezed text squeezed) :
      Squeezed (c :: text) (c :: squeezed)
  | run (n : Nat) {text squeezed : List Char} (hmaximal : text.head? ≠ some ' ')
      (h : Squeezed text squeezed) :
      Squeezed (List.replicate (n + 1) ' ' ++ text) (' ' :: squeezed)

/-- Squeezing does this. Behind a space that has been kept, further ones belong to the same run. -/
theorem squeezed_squeeze_run (text : List Char) : Squeezed text (squeeze false text) ∧
    ∀ n, Squeezed (List.replicate (n + 1) ' ' ++ text) (' ' :: squeeze true text) := by
  induction text with
  | nil => exact ⟨.nil, fun n => .run n (by simp) .nil⟩
  | cons c text ih =>
    by_cases hc : c = ' '
    · subst hc
      constructor
      · have hone := ih.2 0
        simpa [squeeze] using hone
      · intro n
        have hmore := ih.2 (n + 1)
        rw [List.replicate_succ' (n := n + 1), List.append_assoc] at hmore
        simpa [squeeze] using hmore
    · have hfalse : Squeezed (c :: text) (c :: squeeze false text) := .letter hc ih.1
      have hstays : ∀ afterSpace, squeeze afterSpace (c :: text) = c :: squeeze false text :=
        fun afterSpace => by rw [squeeze, if_neg hc]
      rw [hstays false, hstays true]
      exact ⟨hfalse, fun n => .run n (by simpa using hc) hfalse⟩

theorem squeezed_squeeze (text : List Char) : Squeezed text (squeeze false text) :=
  (squeezed_squeeze_run text).1

namespace Squeezed

variable {text squeezed : List Char}

theorem eq_nil_iff (h : Squeezed text squeezed) : squeezed = [] ↔ text = [] := by
  cases h <;> simp

theorem head?_eq (h : Squeezed text squeezed) : squeezed.head? = text.head? := by
  cases h <;> simp [List.replicate_succ]

theorem getLast?_eq (h : Squeezed text squeezed) : squeezed.getLast? = text.getLast? := by
  induction h with
  | nil => rfl
  | letter _ _ ih => rw [List.getLast?_cons, List.getLast?_cons, ih]
  | run n _ _ ih =>
    rw [List.getLast?_cons, ih, List.getLast?_append, List.getLast?_replicate,
      if_neg (Nat.succ_ne_zero n)]
    cases List.getLast? _ <;> rfl

/-- What is no space is kept, in its order. -/
theorem filter_eq (h : Squeezed text squeezed) :
    squeezed.filter (· ≠ ' ') = text.filter (· ≠ ' ') := by
  induction h with
  | nil => rfl
  | letter hc _ ih => simpa [hc] using ih
  | run n _ _ ih => simpa [List.filter_append, List.filter_replicate] using ih

theorem length_le (h : Squeezed text squeezed) : squeezed.length ≤ text.length := by
  induction h with
  | nil => exact Nat.le_refl 0
  | letter _ _ ih => exact Nat.succ_le_succ ih
  | run n _ _ ih =>
    rw [List.length_cons, List.length_append, List.length_replicate]
    omega

/-- No two spaces are left side by side. -/
theorem single (h : Squeezed text squeezed) : ¬ [' ', ' '] <:+: squeezed := by
  induction h with
  | nil => simp
  | @letter c _ _ hc _ ih =>
    rw [List.infix_cons_iff]
    rintro (hfront | hinner)
    · exact hc (List.cons_prefix_cons.mp hfront).1.symm
    · exact ih hinner
  | @run n text squeezed hmaximal h ih =>
    rw [List.infix_cons_iff]
    rintro (hfront | hinner)
    · -- the run would go on behind its end
      obtain ⟨rest, hrest⟩ := (List.cons_prefix_cons.mp hfront).2
      apply hmaximal
      rw [← h.head?_eq, ← hrest]
      rfl
    · exact ih hinner

/-- A text without two spaces side by side stays as it is. -/
theorem eq_of_single (h : Squeezed text squeezed) (hsingle : ¬ [' ', ' '] <:+: text) :
    squeezed = text := by
  induction h with
  | nil => rfl
  | letter _ _ ih =>
    rw [ih fun hinner => hsingle (List.infix_cons_iff.mpr (.inr hinner))]
  | @run n text squeezed _ _ ih =>
    cases n with
    | zero =>
      rw [ih fun hinner => hsingle (hinner.trans (List.suffix_append _ _).isInfix)]
      rfl
    | succ n =>
      -- two spaces would begin the run
      refine absurd ?_ hsingle
      rw [List.replicate_succ, List.replicate_succ]
      exact (List.prefix_append [' ', ' '] (List.replicate n ' ' ++ text)).isInfix

end Squeezed

/-- Squeezing twice is squeezing once. -/
theorem squeeze_squeeze (text : List Char) :
    squeeze false (squeeze false text) = squeeze false text :=
  (squeezed_squeeze _).eq_of_single (squeezed_squeeze text).single

/-! ## The text and its tokens -/

/-- A text, and the same less one period at its end, if it has one there. -/
inductive LessPeriod : List Char → List Char → Prop where
  | period (text : List Char) : LessPeriod (text ++ ['.']) text
  | none {text : List Char} (h : text.getLast? ≠ some '.') : LessPeriod text text

theorem lessPeriod_dropPeriod (text : List Char) : LessPeriod text (dropPeriod text) := by
  unfold dropPeriod
  split
  · next h =>
    obtain ⟨front, rfl⟩ := List.getLast?_eq_some_iff.mp h
    rw [List.dropLast_concat]
    exact .period front
  · next h => exact .none h

theorem toList_trim (raw : String) : (trim raw).toList = squeeze false (dropPeriod raw.toList) :=
  String.toList_ofList

/-- Trimming a trimmed text again changes nothing, unless another period stands at its end. -/
theorem trim_trim_iff (raw : String) :
    trim (trim raw) = trim raw ↔ (trim raw).toList.getLast? ≠ some '.' := by
  rw [← String.toList_inj, toList_trim (trim raw)]
  constructor
  · intro h hperiod
    -- with the period, the text gets shorter
    have hlength := (squeezed_squeeze (dropPeriod (trim raw).toList)).length_le
    rw [h, dropPeriod, if_pos hperiod, List.length_dropLast] at hlength
    have hpos := List.length_pos_of_ne_nil (l := (trim raw).toList)
      fun hnil => by simp [hnil] at hperiod
    omega
  · intro h
    rw [dropPeriod, if_neg h, toList_trim, squeeze_squeeze]

/-- What is left of a text, given it less its period, and what its tokens tell of it. -/
structure Normalized (body : List Char) (trimmed : String) (tokens : List String) : Prop where
  /-- Each maximal run of spaces is one space, and all else stays. -/
  squeezed : Squeezed body trimmed.toList
  single : ¬ [' ', ' '] <:+: trimmed.toList
  letters_eq : trimmed.toList.filter (· ≠ ' ') = body.filter (· ≠ ' ')
  tokens_ne_nil : tokens ≠ []
  spaceless : ∀ token ∈ tokens, ' ' ∉ token.toList
  /-- The tokens give the text back. -/
  joined : " ".intercalate tokens = trimmed
  /-- Only the first token and the last one may be empty. -/
  empty_outside : ∀ front back, tokens = front ++ "" :: back → front = [] ∨ back = []
  first_empty_iff : tokens.head? = some "" ↔ body = [] ∨ body.head? = some ' '
  last_empty_iff : tokens.getLast? = some "" ↔ body = [] ∨ body.getLast? = some ' '

theorem intercalate_tokenize (raw : String) : " ".intercalate (tokenize raw) = trim raw := by
  have hlists : (tokenize raw).map String.toList =
      Text.splitWhere (· = ' ') (trim raw).toList := by
    simp [tokenize, Function.comp_def]
  rw [← String.toList_inj, String.toList_intercalate, hlists]
  exact Text.intercalate_splitWhere ' ' (trim raw).toList

theorem normalized_dropPeriod (raw : String) :
    Normalized (dropPeriod raw.toList) (trim raw) (tokenize raw) := by
  have hsqueezed := squeezed_squeeze (dropPeriod raw.toList)
  rw [← toList_trim] at hsqueezed
  have hempty : ∀ part : List Char, String.ofList part = "" ↔ part = [] := fun part => by
    rw [← String.toList_inj, String.toList_ofList]
    rfl
  constructor
  case squeezed => exact hsqueezed
  case single => exact hsqueezed.single
  case letters_eq => exact hsqueezed.filter_eq
  case tokens_ne_nil => exact (spaced_tokenize raw).ne_nil
  case spaceless =>
    intro token htoken hspace
    obtain ⟨part, hpart, rfl⟩ := List.mem_map.mp htoken
    rw [String.toList_ofList] at hspace
    simpa using (Text.mem_of_mem_splitWhere hpart hspace).2
  case joined => exact intercalate_tokenize raw
  case empty_outside =>
    intro front back htokens
    by_contra hinside
    obtain ⟨hfront, hback⟩ := not_or.mp hinside
    obtain ⟨first, front, rfl⟩ := List.exists_cons_of_ne_nil hfront
    have hseparable := separable_tail_tokenize raw
    rw [htokens, List.cons_append, List.tail_cons] at hseparable
    refine hseparable.nonempty "" ?_ rfl
    rw [List.dropLast_append_cons, List.dropLast_cons_of_ne_nil hback]
    simp
  case first_empty_iff =>
    rw [← hsqueezed.eq_nil_iff, ← hsqueezed.head?_eq, ← Text.head?_splitWhere_eq_nil_iff, tokenize,
      List.head?_map]
    simp [hempty]
  case last_empty_iff =>
    rw [← hsqueezed.eq_nil_iff, ← hsqueezed.getLast?_eq, ← Text.getLast?_splitWhere_eq_nil_iff,
      tokenize, List.getLast?_map]
    simp [hempty]

/-- Of any text, less one period at its end, all is kept but for the further spaces of each run,
and its tokens tell what is kept. -/
theorem trim_normalizes (raw : String) :
    (∃ body, LessPeriod raw.toList body ∧ Normalized body (trim raw) (tokenize raw)) ∧
      (trim (trim raw) = trim raw ↔ (trim raw).toList.getLast? ≠ some '.') :=
  ⟨⟨dropPeriod raw.toList, lessPeriod_dropPeriod raw.toList, normalized_dropPeriod raw⟩,
    trim_trim_iff raw⟩

end Command

end Herald
