import Herald.Text.Digits
import Herald.Text.Utf8

/-!
# Percent-encoding

A byte outside a set of plain ones is written as `%` and two upper-case hexadecimal digits. Query
pairs use the form rules: letters, digits and `*-._` are plain and a space becomes `+`.
-/

namespace Herald.Text.Percent

/-- The digit for a value below sixteen, in upper case. -/
def hexDigit (n : Nat) : Char :=
  Char.ofNat (if n < 10 then 48 + n else 55 + n)

/-- `%` and the two digits of a byte. -/
def escape (b : UInt8) : List Char :=
  ['%', hexDigit (b.toNat / 16), hexDigit (b.toNat % 16)]

/-- A text with every byte escaped that is not plain. -/
def encode (plain : UInt8 → Bool) (text : List Char) : List Char :=
  (Utf8.encode text).flatMap fun b => if plain b then [Char.ofNat b.toNat] else escape b

/-- The bytes of a text in which escapes stand for bytes; a `%` without two digits stands for
itself. -/
def decode : List Char → List UInt8
  | [] => []
  | '%' :: a :: b :: rest =>
    match hexValue? a, hexValue? b with
    | some high, some low => UInt8.ofNat (16 * high + low) :: decode rest
    | _, _ => 0x25 :: decode (a :: b :: rest)
  | c :: rest => String.utf8EncodeChar c ++ decode rest

/-- Letters and digits of ASCII. -/
def isAlphanumeric (b : UInt8) : Bool :=
  (48 ≤ b && b ≤ 57) || (65 ≤ b && b ≤ 90) || (97 ≤ b && b ≤ 122)

/-- The bytes that a form leaves as they are. -/
def isFormPlain (b : UInt8) : Bool :=
  isAlphanumeric b || b = 0x2A || b = 0x2D || b = 0x2E || b = 0x5F

/-- A text as the name or value of a form field. -/
def formEncode (text : List Char) : List Char :=
  (Utf8.encode text).flatMap fun b =>
    if b = 0x20 then ['+'] else if isFormPlain b then [Char.ofNat b.toNat] else escape b

/-- Fields as `name=value`, joined with `&`. -/
def formPairs (pairs : List (String × String)) : List Char :=
  ['&'].intercalate (pairs.map fun (name, value) =>
    formEncode name.toList ++ '=' :: formEncode value.toList)

end Herald.Text.Percent
