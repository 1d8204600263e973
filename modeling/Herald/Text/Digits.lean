/-!
# Digits

`ofDigits` is the whole number that a row of decimal digits denotes, whatever its length and with
any number of leading zeros. `wordOfDigits?` finds it digit by digit in a 32-bit word, which it never
lets wrap around. `hexValue?` is the value of a hexadecimal digit, and `infinityBound` is where the
numbers begin that no double can hold.
-/

namespace Herald.Text

/-- The value of a decimal digit. -/
def digitValue (c : Char) : Nat :=
  c.toNat - 48

/-- The value of a hexadecimal digit of either case. -/
def hexValue? (c : Char) : Option Nat :=
  let n := c.toNat
  if 48 ≤ n && n ≤ 57 then some (n - 48)
  else if 65 ≤ n && n ≤ 70 then some (n - 55)
  else if 97 ≤ n && n ≤ 102 then some (n - 87)
  else none

/-- The whole number that decimal digits denote. -/
def ofDigits (digits : List Char) : Nat :=
  digits.foldl (fun n c => 10 * n + digitValue c) 0

/-- The largest 32-bit word. -/
def maxWord : UInt32 := 0xFFFFFFFF

/-- Ten times a word and a digit more, unless that is too large for a word. -/
def pushDigit? (n : UInt32) (c : Char) : Option UInt32 :=
  let digit := c.val - 48
  -- neither the product nor the sum may wrap around
  if maxWord / 10 < n then none
  else if maxWord - digit < 10 * n then none
  else some (10 * n + digit)

/-- The word that decimal digits denote, if there are any and it is not too large for one. -/
def wordOfDigits? (digits : List Char) : Option UInt32 :=
  if digits.isEmpty then none else digits.foldlM pushDigit? 0

/-- From here on a number rounds to infinity as a double: the middle between the largest double and
the power of two above it. -/
def infinityBound : Nat :=
  Nat.pow 2 1024 - Nat.pow 2 970

/-- Leading zeros do not count. -/
@[simp] theorem ofDigits_zero_cons (digits : List Char) : ofDigits ('0' :: digits) = ofDigits digits :=
  rfl

theorem toString_toList (n : Nat) : (toString n).toList = Nat.toDigits 10 n := by
  rw [Nat.toString_eq_ofList_toDigits, String.toList_ofList]

theorem ofDigits_eq_ofDigitChars (digits : List Char) :
    ofDigits digits = Nat.ofDigitChars 10 digits 0 := rfl

/-- The decimal numeral of a number denotes it, also behind zeros. -/
theorem ofDigits_zeros_toDigits (zeros n : Nat) :
    ofDigits (List.replicate zeros '0' ++ Nat.toDigits 10 n) = n := by
  rw [ofDigits_eq_ofDigitChars, Nat.ofDigitChars_append, Nat.ofDigitChars_replicate_zero,
    Nat.mul_zero, Nat.ofDigitChars_ten_toDigits]

/-- A decimal numeral holds nothing but digits, also behind zeros. -/
theorem isDigit_of_mem_zeros_toDigits {zeros n : Nat} :
    ∀ c ∈ List.replicate zeros '0' ++ Nat.toDigits 10 n, c.isDigit = true := by
  intro c hc
  rcases List.mem_append.mp hc with hc | hc
  · rw [List.eq_of_mem_replicate hc]
    decide
  · exact Nat.isDigit_of_mem_toDigits (by decide) (by decide) hc

/-! ## Digits in a word -/

theorem digitValue_le {c : Char} (hc : c.isDigit = true) : digitValue c ≤ 9 := by
  simp only [Char.isDigit, Bool.and_eq_true, decide_eq_true_eq, UInt32.le_iff_toNat_le] at hc
  have hhigh : c.toNat ≤ 57 := hc.2
  simp only [digitValue]
  omega

theorem toNat_digit {c : Char} (hc : c.isDigit = true) : (c.val - 48).toNat = digitValue c := by
  simp only [Char.isDigit, Bool.and_eq_true, decide_eq_true_eq, ge_iff_le] at hc
  exact UInt32.toNat_sub_of_le _ _ hc.1

/-- One more digit is taken just if the number still fits. Neither the product nor the sum wraps. -/
theorem pushDigit?_eq {c : Char} (hc : c.isDigit = true) (n : UInt32) :
    pushDigit? n c =
      if 10 * n.toNat + digitValue c < UInt32.size then
        some (UInt32.ofNat (10 * n.toNat + digitValue c))
      else none := by
  have hdigit := toNat_digit hc
  have hle := digitValue_le hc
  have hsize : UInt32.size = 4294967296 := rfl
  have hmax : maxWord.toNat = 4294967295 := rfl
  have htenth : (maxWord / 10).toNat = 429496729 := rfl
  simp only [pushDigit?, UInt32.lt_iff_toNat_lt, htenth]
  split
  · rw [if_neg (by omega)]
  · next hten =>
    have hproduct : (10 * n).toNat = 10 * n.toNat := by
      rw [UInt32.toNat_mul]
      exact Nat.mod_eq_of_lt (show 10 * n.toNat < 4294967296 by omega)
    have hroom : (maxWord - (c.val - 48)).toNat = 4294967295 - digitValue c := by
      rw [UInt32.toNat_sub_of_le, hmax, hdigit]
      rw [UInt32.le_iff_toNat_le, hdigit, hmax]
      omega
    rw [hproduct, hroom]
    split
    · rw [if_neg (by omega)]
    · next hfits =>
      have hlt : 10 * n.toNat + digitValue c < UInt32.size := by omega
      have hsum : (10 * n + (c.val - 48)).toNat = 10 * n.toNat + digitValue c := by
        rw [UInt32.toNat_add, hproduct, hdigit]
        exact Nat.mod_eq_of_lt hlt
      rw [if_pos hlt, ← UInt32.toNat_inj.mp (hsum.trans (UInt32.toNat_ofNat_of_lt' hlt).symm)]

/-- A further digit behind a number counts as much as the number does tenfold. -/
theorem ofDigitChars_digit (c : Char) (digits : List Char) (n : Nat) :
    Nat.ofDigitChars 10 (c :: digits) n = Nat.ofDigitChars 10 digits (10 * n + digitValue c) := by
  have hzero : '0'.toNat = 48 := rfl
  rw [Nat.ofDigitChars_cons, hzero, digitValue]

/-- Further digits never make a number smaller. -/
theorem le_ofDigitChars (digits : List Char) (n : Nat) : n ≤ Nat.ofDigitChars 10 digits n := by
  induction digits generalizing n with
  | nil => exact Nat.le_refl n
  | cons c digits ih =>
    have hle : n ≤ 10 * n + digitValue c := by omega
    rw [ofDigitChars_digit]
    exact Nat.le_trans hle (ih _)

/-- Behind a word with the number so far, the further digits give a word just if it can hold the whole
number: once it cannot, no further digit makes up for that. -/
theorem foldlM_pushDigit? {digits : List Char} (hdigits : ∀ c ∈ digits, c.isDigit = true)
    (n : UInt32) : digits.foldlM pushDigit? n =
      if Nat.ofDigitChars 10 digits n.toNat < UInt32.size then
        some (UInt32.ofNat (Nat.ofDigitChars 10 digits n.toNat))
      else none := by
  induction digits generalizing n with
  | nil =>
    rw [Nat.ofDigitChars_nil, if_pos n.toNat_lt, UInt32.ofNat_toNat]
    rfl
  | cons c digits ih =>
    obtain ⟨hc, hdigits⟩ := List.forall_mem_cons.mp hdigits
    rw [List.foldlM_cons, ofDigitChars_digit, pushDigit?_eq hc]
    split
    · next hfits =>
      have hrest := ih hdigits (UInt32.ofNat (10 * n.toNat + digitValue c))
      rwa [UInt32.toNat_ofNat_of_lt' hfits] at hrest
    · next hfits =>
      have hle := le_ofDigitChars digits (10 * n.toNat + digitValue c)
      rw [if_neg (by omega)]
      rfl

/-- The word that digits denote, if there are any and it can hold their number. -/
theorem wordOfDigits?_eq {digits : List Char} (hdigits : ∀ c ∈ digits, c.isDigit = true) :
    wordOfDigits? digits =
      if digits ≠ [] ∧ ofDigits digits < UInt32.size then some (UInt32.ofNat (ofDigits digits))
      else none := by
  cases digits with
  | nil => rfl
  | cons c digits =>
    have hread := foldlM_pushDigit? hdigits 0
    rw [UInt32.toNat_zero, ← ofDigits_eq_ofDigitChars] at hread
    simpa [wordOfDigits?] using hread

end Herald.Text
