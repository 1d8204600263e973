import Herald.Command
import Herald.Proofs.FirstPlace
import Mathlib.Data.List.TakeWhile

/-!
# The count of a command

The first token that holds the flag somewhere and the token behind it give the count.

* `extractCount_of_flag` and `extractCount_of_no_flag` say what is left of the tokens, in the two
  cases of `flag_cases`; what is left is taken from the tokens in their order
  (`extractCount_sublist`).
* `countOf_numeral`: a decimal numeral is read as the number it denotes, after a plus sign and zeros
  and whatever follows it. Every count is at least one (`one_le_countOf`).
-/

namespace Herald.Command

/-- The text of the flag is a piece of the token. -/
def HoldsFlag (token : String) : Prop :=
  "-c".toList <:+: token.toList

theorem isCountFlag_iff {token : String} : isCountFlag token = true ↔ HoldsFlag token :=
  Text.occurs_iff_infix

theorem not_isCountFlag {token : String} (h : ¬ HoldsFlag token) : isCountFlag token = false :=
  Bool.eq_false_iff.mpr fun hflag => h (isCountFlag_iff.mp hflag)

theorem HoldsFlag.ne_empty {token : String} (h : HoldsFlag token) : token ≠ "" := by
  rintro rfl
  exact absurd (List.infix_nil.mp h) (by decide)

/-- Either no token holds the flag, or there is a first one that does. -/
theorem flag_cases (tokens : List String) :
    (∀ token ∈ tokens, ¬ HoldsFlag token) ∨
      ∃ before flag behind, tokens = before ++ flag :: behind ∧
        (∀ token ∈ before, ¬ HoldsFlag token) ∧ HoldsFlag flag := by
  induction tokens with
  | nil => exact Or.inl (by simp)
  | cons first rest ih =>
    by_cases hfirst : isCountFlag first = true
    · exact Or.inr ⟨[], first, rest, rfl, by simp, isCountFlag_iff.mp hfirst⟩
    · have hnot : ¬ HoldsFlag first := fun h => hfirst (isCountFlag_iff.mpr h)
      rcases ih with hnone | ⟨before, flag, behind, hrest, hbefore, hflag⟩
      · left
        intro token htoken
        rcases List.mem_cons.mp htoken with rfl | htoken
        · exact hnot
        · exact hnone token htoken
      · right
        refine ⟨first :: before, flag, behind, by rw [hrest, List.cons_append], ?_, hflag⟩
        intro token htoken
        rcases List.mem_cons.mp htoken with rfl | htoken
        · exact hnot
        · exact hbefore token htoken

/-- Without the flag all tokens stay and the count is one. -/
theorem extractCount_of_no_flag {tokens : List String} (h : ∀ token ∈ tokens, ¬ HoldsFlag token) :
    extractCount tokens = (tokens, 1) := by
  have hdrop : tokens.dropWhile (!isCountFlag ·) = [] := by
    rw [List.dropWhile_eq_nil_iff]
    intro token htoken
    simp [not_isCountFlag (h token htoken)]
  simp only [extractCount, hdrop]

/-- The first flag and the count behind it are taken out, unless nothing would be left. -/
theorem extractCount_of_flag {before behind : List String} {flag : String}
    (hbefore : ∀ token ∈ before, ¬ HoldsFlag token) (hflag : HoldsFlag flag) :
    extractCount (before ++ flag :: behind) =
      (if (before ++ behind.drop 1).isEmpty then before ++ flag :: behind
        else before ++ behind.drop 1,
        countOf behind.head?) := by
  have hpass : ∀ token ∈ before, (!isCountFlag token) = true := by
    intro token htoken
    simp [not_isCountFlag (hbefore token htoken)]
  have hstop : ∀ token ∈ (flag :: behind).head?, (!isCountFlag token) = false := by
    rintro _ ⟨⟩
    simp [isCountFlag_iff.mpr hflag]
  have htake := Text.takeWhile_run hpass hstop
  have hdrop := Text.dropWhile_run hpass hstop
  simp only [extractCount, htake, hdrop]

/-- What is left are tokens of the row, in its order. -/
theorem extractCount_sublist (tokens : List String) : (extractCount tokens).1.Sublist tokens := by
  rcases flag_cases tokens with hnone | ⟨before, flag, behind, rfl, hbefore, hflag⟩
  · simp only [extractCount_of_no_flag hnone, List.Sublist.refl]
  · rw [extractCount_of_flag hbefore hflag]
    split
    · exact List.Sublist.refl _
    · have hbehind : (behind.drop 1).Sublist (flag :: behind) :=
        (List.drop_sublist 1 behind).trans (List.sublist_cons_self flag behind)
      exact (List.Sublist.refl before).append hbehind

/-! ## Numerals -/

theorem isDigit_of_mem_countDigits {text : List Char} :
    ∀ c ∈ countDigits text, c.isDigit = true := by
  unfold countDigits
  split <;> exact fun c hc => List.mem_takeWhile_imp hc

/-- A token counts as the number that its digits denote, if that is positive and fits in a word. -/
theorem countOf_some (token : String) : countOf (some token) =
    if 1 ≤ Text.ofDigits (countDigits token.toList) ∧
        Text.ofDigits (countDigits token.toList) < UInt32.size then
      UInt32.ofNat (Text.ofDigits (countDigits token.toList)) else 1 := by
  rw [countOf, Text.wordOfDigits?_eq isDigit_of_mem_countDigits]
  generalize countDigits token.toList = digits
  by_cases hcount : 1 ≤ Text.ofDigits digits ∧ Text.ofDigits digits < UInt32.size
  · have hne : digits ≠ [] := by
      rintro rfl
      exact absurd hcount.1 (by decide)
    have hone : 1 ≤ UInt32.ofNat (Text.ofDigits digits) := by
      rw [UInt32.le_iff_toNat_le, UInt32.toNat_ofNat_of_lt' hcount.2]
      exact hcount.1
    rw [if_pos ⟨hne, hcount.2⟩, if_pos hcount, Option.filter_some, if_pos (decide_eq_true hone)]
    rfl
  · rw [if_neg hcount]
    split
    · next hfits =>
      -- it fits, so it is not positive
      have hzero : Text.ofDigits digits = 0 := by omega
      rw [hzero]
      rfl
    · rfl

theorem one_le_countOf (value : Option String) : 1 ≤ countOf value := by
  cases value with
  | none => exact Nat.le_refl 1
  | some token =>
    rw [countOf_some]
    split
    · next h =>
      rw [UInt32.le_iff_toNat_le, UInt32.toNat_ofNat_of_lt' h.2]
      exact h.1
    · exact Nat.le_refl 1

theorem one_le_extractCount (tokens : List String) : 1 ≤ (extractCount tokens).2 := by
  rcases flag_cases tokens with hnone | ⟨before, flag, behind, rfl, hbefore, hflag⟩
  · rw [extractCount_of_no_flag hnone]
    exact Nat.le_refl 1
  · rw [extractCount_of_flag hbefore hflag]
    exact one_le_countOf behind.head?

theorem countDigits_of_digits {digits suffix : List Char} (hne : digits ≠ [])
    (hdigits : ∀ c ∈ digits, c.isDigit = true)
    (hsuffix : ∀ c ∈ suffix.head?, c.isDigit = false) (plus : Bool) :
    countDigits ((if plus then ['+'] else []) ++ digits ++ suffix) = digits := by
  have htake := Text.takeWhile_run hdigits hsuffix
  cases plus with
  | true => exact htake
  | false =>
    cases digits with
    | nil => exact absurd rfl hne
    | cons c rest =>
      have hc : c ≠ '+' := by
        rintro rfl
        exact absurd (hdigits '+' List.mem_cons_self) (by decide)
      simp only [Bool.false_eq_true, if_false, List.nil_append]
      rw [countDigits]
      · exact htake
      · rintro r hr
        exact hc (List.cons.inj hr).1

/-- A decimal numeral is read as its number. -/
theorem countOf_numeral {n : UInt32} (hn : 1 ≤ n) (plus : Bool) (zeros : Nat) {suffix : List Char}
    (hsuffix : ∀ c ∈ suffix.head?, c.isDigit = false) :
    countOf (some (String.ofList ((if plus then ['+'] else []) ++
      (List.replicate zeros '0' ++ (toString n.toNat).toList) ++ suffix))) = n := by
  have hne : List.replicate zeros '0' ++ Nat.toDigits 10 n.toNat ≠ [] := by
    simp [Nat.toDigits_ne_nil]
  have hone : 1 ≤ n.toNat := UInt32.le_iff_toNat_le.mp hn
  rw [Text.toString_toList, countOf_some, String.toList_ofList,
    countDigits_of_digits hne Text.isDigit_of_mem_zeros_toDigits hsuffix, Text.ofDigits_zeros_toDigits,
    if_pos ⟨hone, n.toNat_lt⟩, UInt32.ofNat_toNat]

end Herald.Command
