import Herald.Proofs.RepeatCount
import Mathlib.Data.List.Induction
import Mathlib.Data.Nat.Digits.Defs

/-!
# What a value counts as

The value behind the flag of a command is any text, and it is read without a failure: the digits at
its start, behind a plus sign at most, count as the number they denote, however many there are. What
is no count from 1 to the largest 32-bit word is read as 1.

* `Counts` says what a value counts as, by the places of its digits in base ten and without a word
  to hold the number.
* `countDigits_eq`: the digits are found, all of them and nothing behind them.
* `countOf_exact`: reading gives what the value counts as. The step is `Text.pushDigit?_eq`: a digit
  more is taken into the word just if the number still fits, so that it never wraps around.
-/

namespace Herald.Command

/-- A character from `0` to `9`. -/
def IsDecimal (c : Char) : Prop :=
  '0' ≤ c ∧ c ≤ '9'

/-- A text, and the same without one plus sign at its start, if it has one there. -/
inductive LessPlus : List Char → List Char → Prop where
  | plus (text : List Char) : LessPlus ('+' :: text) text
  | none {text : List Char} (h : text.head? ≠ some '+') : LessPlus text text

/-- The digits that a text starts with, up to the first character that is none. -/
structure LeadingDigits (text digits : List Char) : Prop where
  isDecimal : ∀ c ∈ digits, IsDecimal c
  exists_rest : ∃ rest, text = digits ++ rest ∧ ∀ c ∈ rest.head?, ¬ IsDecimal c

/-- The number that digits denote in base ten, the last one being that of the units. -/
def numberOf (digits : List Char) : Nat :=
  Nat.ofDigits 10 (digits.reverse.map Text.digitValue)

/-- What a value counts as. -/
inductive Counts : Option String → Nat → Prop where
  | missing : Counts none 1
  | number {value : String} {text digits : List Char} (htext : LessPlus value.toList text)
      (hdigits : LeadingDigits text digits) (hne : digits ≠ []) (hpos : 1 ≤ numberOf digits)
      (hfits : numberOf digits < UInt32.size) : Counts (some value) (numberOf digits)
  /-- No digit, only zeros, or too large a number. -/
  | other {value : String} {text digits : List Char} (htext : LessPlus value.toList text)
      (hdigits : LeadingDigits text digits)
      (h : digits = [] ∨ numberOf digits = 0 ∨ UInt32.size ≤ numberOf digits) :
      Counts (some value) 1

theorem isDigit_iff {c : Char} : c.isDigit = true ↔ IsDecimal c := by
  simp only [Char.isDigit, Bool.and_eq_true, decide_eq_true_eq]
  rfl

/-- Reading from the left comes to the same as adding up the places. -/
theorem ofDigits_eq_numberOf (digits : List Char) : Text.ofDigits digits = numberOf digits := by
  induction digits using List.reverseRecOn with
  | nil => rfl
  | append_singleton digits c ih =>
    have hleft : Text.ofDigits (digits ++ [c]) = 10 * Text.ofDigits digits + Text.digitValue c := by
      rw [Text.ofDigits, List.foldl_append]
      rfl
    have hplaces : numberOf (digits ++ [c]) = Text.digitValue c + 10 * numberOf digits := by
      rw [numberOf, List.reverse_append, List.map_append, List.reverse_singleton, List.map_singleton,
        List.singleton_append, Nat.ofDigits_cons]
      rfl
    rw [hleft, hplaces, ih, Nat.add_comm]

/-! ## The digits of a value -/

theorem exists_lessPlus (text : List Char) : ∃ body, LessPlus text body := by
  by_cases h : text.head? = some '+'
  · obtain ⟨body, rfl⟩ := List.head?_eq_some_iff.mp h
    exact ⟨body, .plus body⟩
  · exact ⟨text, .none h⟩

theorem exists_leadingDigits (text : List Char) : ∃ digits, LeadingDigits text digits := by
  refine ⟨text.takeWhile Char.isDigit, fun c hc => ?_, text.dropWhile Char.isDigit,
    List.takeWhile_append_dropWhile.symm, fun c hc => ?_⟩
  · exact isDigit_iff.mp (List.mem_takeWhile_imp hc)
  · have hstop := List.head?_dropWhile_not Char.isDigit text
    rw [Option.mem_def.mp hc] at hstop
    rw [← isDigit_iff]
    exact Bool.eq_false_iff.mp hstop

/-- There are no other leading digits. -/
theorem LeadingDigits.takeWhile_eq {text digits : List Char} (h : LeadingDigits text digits) :
    text.takeWhile Char.isDigit = digits := by
  obtain ⟨rest, rfl, hrest⟩ := h.exists_rest
  refine Text.takeWhile_run (fun c hc => isDigit_iff.mpr (h.isDecimal c hc)) fun c hc => ?_
  exact Bool.eq_false_iff.mpr fun hdigit => hrest c hc (isDigit_iff.mp hdigit)

/-- The digits of a count are found. -/
theorem countDigits_eq {text body digits : List Char} (hbody : LessPlus text body)
    (hdigits : LeadingDigits body digits) : countDigits text = digits := by
  rw [← hdigits.takeWhile_eq]
  cases hbody with
  | plus => rfl
  | none h =>
    rw [countDigits]
    rintro rest rfl
    exact h rfl

/-! ## The count -/

/-- The count is the number denoted if that is in bounds. -/
theorem toNat_countOf {value : String} {text digits : List Char} (htext : LessPlus value.toList text)
    (hdigits : LeadingDigits text digits) : (countOf (some value)).toNat =
      if 1 ≤ numberOf digits ∧ numberOf digits < UInt32.size then numberOf digits else 1 := by
  rw [countOf_some, countDigits_eq htext hdigits, ofDigits_eq_numberOf]
  split
  · next h => exact UInt32.toNat_ofNat_of_lt' h.2
  · rfl

theorem counts_countOf (value : Option String) : Counts value (countOf value).toNat := by
  cases value with
  | none => exact .missing
  | some value =>
    obtain ⟨text, htext⟩ := exists_lessPlus value.toList
    obtain ⟨digits, hdigits⟩ := exists_leadingDigits text
    rw [toNat_countOf htext hdigits]
    split
    · next h =>
      -- no digits at all would denote zero
      have hne : digits ≠ [] := by
        rintro rfl
        exact absurd h.1 (by decide)
      exact .number htext hdigits hne h.1 h.2
    · next h => exact .other htext hdigits (.inr (by omega))

theorem Counts.eq_countOf {value : Option String} {n : Nat} (h : Counts value n) :
    n = (countOf value).toNat := by
  cases h with
  | missing => rfl
  | number htext hdigits hne hpos hfits => rw [toNat_countOf htext hdigits, if_pos ⟨hpos, hfits⟩]
  | @other value text digits htext hdigits h =>
    have hnone : ¬ (1 ≤ numberOf digits ∧ numberOf digits < UInt32.size) := by
      rcases h with rfl | hzero | hlarge
      · decide
      · omega
      · omega
    rw [toNat_countOf htext hdigits, if_neg hnone]

/-- Any value is read as what it counts as, which is at least one and fits in a word. -/
theorem countOf_exact (value : Option String) :
    (∀ n, (countOf value).toNat = n ↔ Counts value n) ∧
      1 ≤ (countOf value).toNat ∧ (countOf value).toNat < UInt32.size := by
  refine ⟨fun n => ⟨?_, fun h => h.eq_countOf.symm⟩, ?_, (countOf value).toNat_lt⟩
  · rintro rfl
    exact counts_countOf value
  · exact UInt32.le_iff_toNat_le.mp (one_le_countOf value)

example : countOf (some "+004294967295th") = 4294967295 := by decide

example : countOf (some "4294967296") = 1 := by decide

end Herald.Command
