import Herald.Text.Charset.Scan
import Herald.Text.Charset.Table.Jis
import Herald.Text.Charset.Table.JisSupplement

/-!
# Japanese character sets

Shift JIS, EUC and ISO 2022 are three ways to write the places of the same table. Shift JIS has
half-width letters in single bytes and places of its own behind the table. EUC also reaches the
supplementary table, by a third byte. ISO 2022 stays within seven bits and changes what they mean
by escape sequences.
-/

namespace Herald.Text.Charset

/-- The character at a place of the table, whose rows have 94 places. -/
def jisChar? (place : Nat) : Option Char :=
  jisRows.char? (place / 94) (place % 94)

/-- A half-width letter of the Japanese syllabary, by its number. -/
def halfWidth (n : Nat) : Char :=
  Char.ofNat (0xFF61 + n)

/-- The characters of a pair of bytes in Shift JIS. -/
def shiftJisPair (lead trail : UInt8) : List Char :=
  if (0x40 ≤ trail ∧ trail ≤ 0x7E) ∨ (0x80 ≤ trail ∧ trail ≤ 0xFC) then
    let low := trail.toNat - (if trail < 0x7F then 0x40 else 0x41)
    let place := (lead.toNat - (if lead < 0xA0 then 0x81 else 0xC1)) * 188 + low
    if 8836 ≤ place ∧ place ≤ 10715 then [Char.ofNat (0xE000 + (place - 8836))]
    else (jisChar? place).toList
  else []

/-- What stands first in Shift JIS. -/
def shiftJisFirst (b : UInt8) (rest : List UInt8) : Reading :=
  if b ≤ 0x80 then .char (ascii b)
  else if 0xA1 ≤ b ∧ b ≤ 0xDF then .char (halfWidth (b.toNat - 0xA1))
  else if (0x81 ≤ b ∧ b ≤ 0x9F) ∨ (0xE0 ≤ b ∧ b ≤ 0xFC) then .pair (shiftJisPair b) rest
  else .invalid

/-- The text of bytes in Shift JIS. -/
def ofShiftJis : List UInt8 → List Char :=
  scan shiftJisFirst

/-- A byte that gives a row or a column in EUC. -/
def isEucByte (b : UInt8) : Bool :=
  0xA1 ≤ b && b ≤ 0xFE

/-- The characters of a pair of bytes in EUC. -/
def eucJpPair (lead trail : UInt8) : List Char :=
  if isEucByte trail then (jisChar? ((lead.toNat - 0xA1) * 94 + (trail.toNat - 0xA1))).toList
  else []

/-- The half-width letter of a byte in EUC. -/
def eucJpHalfWidth (b : UInt8) : List Char :=
  if 0xA1 ≤ b ∧ b ≤ 0xDF then [halfWidth (b.toNat - 0xA1)] else []

/-- The character of the supplementary table, by the two bytes that follow its mark. -/
def eucJpSupplement : List UInt8 → Reading
  | [] => .invalid
  | row :: rest =>
    if isEucByte row then
      match rest with
      | [] => .invalid 1
      | column :: _ =>
        let c := if isEucByte column then
            jisSupplementRows.char? (row.toNat - 0xA1) (column.toNat - 0xA1)
          else none
        match c with
        | some c => .char c 2
        | none => .broken column 1
    else .broken row

/-- What stands first in EUC. -/
def eucJpFirst (b : UInt8) (rest : List UInt8) : Reading :=
  if b < 0x80 then .char (ascii b)
  else if b = 0x8E then .pair eucJpHalfWidth rest
  else if b = 0x8F then eucJpSupplement rest
  else if isEucByte b then .pair (eucJpPair b) rest
  else .invalid

/-- The text of bytes in EUC. -/
def ofEucJp : List UInt8 → List Char :=
  scan eucJpFirst

/-- What the bytes of ISO 2022 mean. -/
inductive Iso2022Mode where
  | ascii
  | roman
  | katakana
  | table
  deriving Repr, DecidableEq

/-- The mode that an escape sequence asks for, by the two bytes behind the escape. -/
def Iso2022Mode.ofSequence? : List UInt8 → Option Iso2022Mode
  | a :: b :: _ =>
    if a = 0x28 then
      if b = 0x42 then some .ascii
      else if b = 0x4A then some .roman
      else if b = 0x49 then some .katakana
      else none
    else if a = 0x24 ∧ (b = 0x40 ∨ b = 0x42) then some .table
    else none
  | _ => none

/-- A byte that gives a row or a column in ISO 2022. -/
def isIso2022Byte (b : UInt8) : Bool :=
  0x21 ≤ b && b ≤ 0x7E

/-- A character of seven bits in a mode that is close to ASCII; shifts are not allowed. -/
def iso2022Single (b : UInt8) : Reading :=
  if b < 0x80 ∧ b ≠ 0x0E ∧ b ≠ 0x0F then .char (ascii b) else .invalid

/-- The character of a row and what follows it. An escape is not taken for a column. -/
def iso2022Pair (row : UInt8) : List UInt8 → Reading
  | [] => .invalid
  | column :: _ =>
    if column = 0x1B then .invalid
    else if isIso2022Byte column then
      match jisChar? ((row.toNat - 0x21) * 94 + (column.toNat - 0x21)) with
      | some c => .char c 1
      | none => .invalid 1
    else .invalid 1

/-- What stands first in a mode of ISO 2022, apart from an escape. -/
def Iso2022Mode.first (b : UInt8) (rest : List UInt8) : Iso2022Mode → Reading
  | ascii => iso2022Single b
  | roman =>
    if b = 0x5C then .char '¥' else if b = 0x7E then .char '‾' else iso2022Single b
  | katakana =>
    if 0x21 ≤ b ∧ b ≤ 0x5F then .char (halfWidth (b.toNat - 0x21)) else .invalid
  | table => if isIso2022Byte b then iso2022Pair b rest else .invalid

/-- The text of bytes in ISO 2022, told the mode and whether an escape sequence came just before. A
sequence right behind another one is a mistake, though it is followed. -/
def ofIso2022Jp (mode : Iso2022Mode) (escaped : Bool) : List UInt8 → List Char
  | [] => []
  | b :: rest =>
    if b = 0x1B then
      match Iso2022Mode.ofSequence? rest with
      | some mode =>
        let chars := ofIso2022Jp mode true (rest.drop 2)
        if escaped then missing :: chars else chars
      | none => missing :: ofIso2022Jp mode false rest
    else
      let reading := mode.first b rest
      reading.chars ++ ofIso2022Jp mode false (rest.drop reading.further)
  termination_by bytes => bytes.length
  decreasing_by
    · exact length_drop_lt ..
    · exact Nat.lt_succ_self _
    · exact length_drop_lt ..

end Herald.Text.Charset
