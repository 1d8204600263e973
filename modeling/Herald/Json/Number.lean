import Herald.Json.Basic
import Herald.Text.Digits

/-!
# JSON numbers

The grammar is the standard one: an optional minus, an integer part without leading zeros, an
optional fraction and an optional exponent, each with at least one digit. A whole number within 64
bits is an `integer`; every other number is read as a double, and one that is too large for a
double is refused.

The double of a long literal comes from a significand of at most 64 bits times a power of ten, each
rounded to 53 bits. `Magnitude.overflows` says in exact arithmetic when that product leaves the
range of doubles.
-/

namespace Herald.Json

/-- Splits off one or more digits. -/
def digits1? (cs : List Char) : Option (List Char × List Char) :=
  match cs.takeWhile Char.isDigit with
  | [] => none
  | d :: ds => some (d :: ds, cs.dropWhile Char.isDigit)

/-- Splits off a whole number without leading zeros. -/
def whole? (cs : List Char) : Option (List Char × List Char) := do
  let (digits, rest) ← digits1? cs
  if digits.head? = some '0' ∧ digits.length ≠ 1 then none else some (digits, rest)

/-- Splits off a point with digits, if there is a point. -/
def fraction? : List Char → Option (Option (List Char) × List Char)
  | '.' :: rest => (digits1? rest).map fun (digits, rest) => (some digits, rest)
  | rest => some (none, rest)

/-- Splits off an exponent, if there is one. -/
def exponent? : List Char → Option (Option Int × List Char)
  | c :: rest =>
    if c = 'e' ∨ c = 'E' then
      match rest with
      | '-' :: rest => (digits1? rest).map fun (digits, rest) => (some (-(Text.ofDigits digits : Int)), rest)
      | '+' :: rest => (digits1? rest).map fun (digits, rest) => (some (Text.ofDigits digits : Int), rest)
      | rest => (digits1? rest).map fun (digits, rest) => (some (Text.ofDigits digits : Int), rest)
    else some (none, c :: rest)
  | [] => some (none, [])

/-- Splits off a minus, if there is one. -/
def minus : List Char → Bool × List Char
  | '-' :: rest => (true, rest)
  | rest => (false, rest)

/-- Splits off a number literal. -/
def numberParts? (cs : List Char) : Option (NumberParts × List Char) := do
  let (negative, cs) := minus cs
  let (whole, cs) ← whole? cs
  let (fraction, cs) ← fraction? cs
  let (exponent, cs) ← exponent? cs
  return (⟨negative, whole, fraction, exponent⟩, cs)

theorem length_of_digits1? {cs digits rest : List Char} (h : digits1? cs = some (digits, rest)) :
    rest.length < cs.length := by
  have hl := congrArg List.length (List.takeWhile_append_dropWhile (p := Char.isDigit) (l := cs))
  unfold digits1? at h
  split at h
  · cases h
  · next ht => simp_all; omega

theorem length_of_whole? {cs digits rest : List Char} (h : whole? cs = some (digits, rest)) :
    rest.length < cs.length := by
  unfold whole? at h
  obtain ⟨⟨d, r⟩, hd, h⟩ := Option.bind_eq_some_iff.1 h
  dsimp only at h
  split at h
  · cases h
  · have := length_of_digits1? hd
    simp_all

theorem length_of_fraction? {cs rest : List Char} {digits : Option (List Char)}
    (h : fraction? cs = some (digits, rest)) : rest.length ≤ cs.length := by
  unfold fraction? at h
  split at h
  · obtain ⟨⟨d, r⟩, hd, h⟩ := Option.map_eq_some_iff.1 h
    have := length_of_digits1? hd
    simp_all; omega
  · simp_all

theorem length_of_exponent? {cs rest : List Char} {n : Option Int}
    (h : exponent? cs = some (n, rest)) : rest.length ≤ cs.length := by
  unfold exponent? at h
  split at h
  · split at h
    · split at h <;>
      · obtain ⟨⟨d, r⟩, hd, h⟩ := Option.map_eq_some_iff.1 h
        have := length_of_digits1? hd
        simp_all; omega
    · simp_all
  · simp_all

theorem length_of_numberParts? {cs rest : List Char} {parts : NumberParts}
    (h : numberParts? cs = some (parts, rest)) : rest.length < cs.length := by
  have hs : (minus cs).2.length ≤ cs.length := by
    unfold minus; split <;> simp
  unfold numberParts? at h
  rcases hm : minus cs with ⟨negative, unsigned⟩
  simp only [hm] at h hs
  obtain ⟨⟨w, r₁⟩, hw, h⟩ := Option.bind_eq_some_iff.1 h
  obtain ⟨⟨f, r₂⟩, hf, h⟩ := Option.bind_eq_some_iff.1 h
  obtain ⟨⟨e, r₃⟩, he, h⟩ := Option.bind_eq_some_iff.1 h
  have hw := length_of_whole? hw
  have hf := length_of_fraction? hf
  have he := length_of_exponent? he
  simp_all; omega

/-- A significand and a power of ten. -/
structure Magnitude where
  significand : Nat
  power : Int
  deriving Repr

namespace Magnitude

/-- Takes in a digit before the point: once the significand is full, by the power of ten alone. -/
def pushWhole : Magnitude × Bool → Char → Magnitude × Bool
  | (m, full), c =>
    let next := 10 * m.significand + Text.digitValue c
    if full ∨ UInt64.size ≤ next then (⟨m.significand, m.power + 1⟩, true) else (⟨next, m.power⟩, false)

/-- Takes in a digit behind the point, which is dropped once the significand is full. -/
def pushFraction : Magnitude × Bool → Char → Magnitude × Bool
  | (m, full), c =>
    let next := 10 * m.significand + Text.digitValue c
    if full ∨ UInt64.size ≤ next then (m, true) else (⟨next, m.power - 1⟩, false)

/-- The magnitude of a literal. -/
def ofParts (parts : NumberParts) : Magnitude :=
  let (whole, _) := parts.whole.foldl pushWhole (⟨0, 0⟩, false)
  let (m, _) := (parts.fraction.getD []).foldl pushFraction (whole, false)
  ⟨m.significand, m.power + parts.exponent.getD 0⟩

end Magnitude

/-- A number rounded to 53 significant bits, a tie to the even neighbour. -/
def roundTo53 (n : Nat) : Nat :=
  let excess := n.log2 + 1 - 53
  let unit := Nat.pow 2 excess
  let quotient := n / unit
  let twice := 2 * (n % unit)
  (if twice > unit ∨ (twice = unit ∧ quotient % 2 = 1) then quotient + 1 else quotient) * unit

/-- Whether the double of a magnitude is infinite. A product of rounded
numbers is rounded once more. -/
def Magnitude.overflows (m : Magnitude) : Bool :=
  if m.significand = 0 ∨ m.power < 0 then false
  else if m.power > 308 then true
  else Text.infinityBound ≤ roundTo53 m.significand * roundTo53 (Nat.pow 10 m.power.toNat)

/-- The value of a literal, absent if it is too large for a double. -/
def ofNumberParts? (parts : NumberParts) : Option Json :=
  let n := Text.ofDigits parts.whole
  match parts.fraction, parts.exponent, parts.negative with
  | none, none, false =>
    if n < UInt64.size then some (.integer n) else decimal?
  | none, none, true =>
    if 0 < n ∧ Int64.minValue.toInt ≤ -(n : Int) then some (.integer (-(n : Int))) else decimal?
  | _, _, _ => decimal?
where
  decimal? : Option Json :=
    if (Magnitude.ofParts parts).overflows then none else some (.decimal parts)

end Herald.Json
