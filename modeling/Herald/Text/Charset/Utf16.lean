import Herald.Text.Charset.Scan

/-!
# UTF-16

A unit is two bytes, and a character is one unit or a pair of surrogates. A surrogate without its
other half has no character, nor have bytes that end inside a unit or a pair.
-/

namespace Herald.Text.Charset

/-- The unit that two bytes make. -/
def utf16Unit (bigEndian : Bool) (a b : UInt8) : Nat :=
  if bigEndian then 256 * a.toNat + b.toNat else 256 * b.toNat + a.toNat

/-- The character of a high surrogate and what follows it. -/
def utf16Pair (bigEndian : Bool) (high : Nat) : List UInt8 → Reading
  | [] => .invalid 1
  | [_] => .invalid 2
  | c :: d :: _ =>
    let low := utf16Unit bigEndian c d
    if 0xDC00 ≤ low ∧ low < 0xE000 then
      .char (Char.ofNat (0x10000 + 0x400 * (high - 0xD800) + (low - 0xDC00))) 3
    else .invalid 1

/-- What stands first in UTF-16. -/
def utf16First (bigEndian : Bool) (a : UInt8) : List UInt8 → Reading
  | [] => .invalid
  | b :: rest =>
    let unit := utf16Unit bigEndian a b
    if 0xD800 ≤ unit ∧ unit < 0xDC00 then utf16Pair bigEndian unit rest
    else if 0xDC00 ≤ unit ∧ unit < 0xE000 then .invalid 1
    else .char (Char.ofNat unit) 1

/-- The text of bytes in UTF-16. -/
def ofUtf16 (bigEndian : Bool) : List UInt8 → List Char :=
  scan (utf16First bigEndian)

end Herald.Text.Charset
