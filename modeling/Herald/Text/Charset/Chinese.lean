import Herald.Text.Charset.Scan
import Herald.Text.Charset.Table.Big5
import Herald.Text.Charset.Table.Gb
import Herald.Text.Charset.Table.GbRanges

/-!
# Chinese character sets

GB 18030 has characters of two and of four bytes. Two bytes reach the rows of the standard, areas
for private use around them, and in the places between all ideographs of the common block that the
rows lack, in their order. Four bytes number the characters that have no two bytes. Big5 has
characters of two bytes alone, four of which stand for a letter with two marks.
-/

namespace Herald.Text.Charset

/-- How many ideographs the common block has, which starts with U+4E00. -/
def ideographCount : Nat := 20902

/-- For each ideograph of the common block whether the rows of the standard hold it. -/
def inGbRows : Array Bool :=
  (gbRows.drop 9).foldl
    (fun held (_, row) => row.toList.foldl
      (fun held c => held.setIfInBounds (c.toNat - 0x4E00) true) held)
    (Array.replicate ideographCount false)

/-- The ideographs that stand in the places between: those of the common block that the rows lack,
and the few behind them. -/
def gbOtherIdeographs : Array Char :=
  let others := (List.range ideographCount).filter fun n => !inGbRows.getD n true
  (others.map (fun n => Char.ofNat (0x4E00 + n)) ++ gbLastIdeographs.toList).toArray

/-- The place of a second byte among all that there are, those below 0xA1 first. -/
def gbColumn? (trail : UInt8) : Option Nat :=
  if 0x40 ≤ trail ∧ trail ≤ 0x7E then some (trail.toNat - 0x40)
  else if 0x80 ≤ trail ∧ trail ≤ 0xFE then some (trail.toNat - 0x41)
  else none

/-- The character in a front place, which is one of the first 96, of the rows from 0xA1. -/
def gbFront? (lead column : Nat) : Option Char :=
  if lead = 0xA3 ∧ column = 95 then some '\u3000'
  else if lead ≤ 0xA7 then some (Char.ofNat (0xE4C6 + (lead - 0xA1) * 96 + column))
  else if lead ≤ 0xA9 then gbSignRows.char? (lead - 0xA1) column
  else gbOtherIdeographs[6080 + (lead - 0xAA) * 96 + column]?

/-- The character in one of the 94 back places of the rows from 0xA1. -/
def gbBack? (lead column : Nat) : Option Char :=
  if 0xAA ≤ lead ∧ lead ≤ 0xAF then some (Char.ofNat (0xE000 + (lead - 0xAA) * 94 + column))
  else if 0xF8 ≤ lead then some (Char.ofNat (0xE234 + (lead - 0xF8) * 94 + column))
  else gbRows.char? (lead - 0xA1) column

/-- The characters of a pair of bytes in GB 18030. -/
def gbPair (lead trail : UInt8) : List Char :=
  let lead := lead.toNat
  let c := (gbColumn? trail).bind fun column =>
    if lead ≤ 0xA0 then gbOtherIdeographs[(lead - 0x81) * 190 + column]?
    else if column < 96 then gbFront? lead column
    else gbBack? lead (column - 96)
  c.toList

/-- The character of a number given by four bytes. One number stands aside from its range. -/
def gbNumbered? (n : Nat) : Option Char :=
  if n = 7457 then some '\uE7C7'
  else if n ≤ 39419 then
    (gbRanges.takeWhile (·.1 ≤ n)).getLast?.map fun (start, c) => Char.ofNat (c + (n - start))
  else if 189000 ≤ n ∧ n ≤ 1237575 then some (Char.ofNat (0x10000 + (n - 189000)))
  else none

/-- A second or fourth byte of four. -/
def isGbDigit (b : UInt8) : Bool :=
  0x30 ≤ b && b ≤ 0x39

/-- The number that four bytes give. -/
def gbNumber (a b c d : UInt8) : Nat :=
  (((a.toNat - 0x81) * 10 + (b.toNat - 0x30)) * 126 + (c.toNat - 0x81)) * 10 + (d.toNat - 0x30)

/-- The character of four bytes, told the first two. The bytes behind the first are read anew if
they do not make four. -/
def gbFour (a b : UInt8) : List UInt8 → Reading
  | [] => .invalid 1
  | [c] => if 0x81 ≤ c ∧ c ≤ 0xFE then .invalid 2 else .invalid
  | c :: d :: _ =>
    if 0x81 ≤ c ∧ c ≤ 0xFE ∧ isGbDigit d then
      match gbNumbered? (gbNumber a b c d) with
      | some char => .char char 3
      | none => .invalid 3
    else .invalid

/-- What stands first in GB 18030. -/
def gbFirst (b : UInt8) : List UInt8 → Reading
  | rest =>
    if b < 0x80 then .char (ascii b)
    else if b = 0x80 then .char '€'
    else if b = 0xFF then .invalid
    else
      match rest with
      | [] => .invalid
      | second :: behind =>
        if isGbDigit second then gbFour b second behind else .pair (gbPair b) rest

/-- The text of bytes in GB 18030. -/
def ofGb18030 : List UInt8 → List Char :=
  scan gbFirst

/-- The place of a second byte in Big5. -/
def big5Column? (trail : UInt8) : Option Nat :=
  if 0x40 ≤ trail ∧ trail ≤ 0x7E then some (trail.toNat - 0x40)
  else if 0xA1 ≤ trail ∧ trail ≤ 0xFE then some (trail.toNat - 0x62)
  else none

/-- The letter and the mark of a place that stands for two characters. -/
def big5Marked (row column : Nat) : List Char :=
  if row = 7 ∧ column = 34 then ['Ê', '\u0304']
  else if row = 7 ∧ column = 36 then ['Ê', '\u030C']
  else if row = 7 ∧ column = 65 then ['ê', '\u0304']
  else if row = 7 ∧ column = 67 then ['ê', '\u030C']
  else []

/-- The characters of a pair of bytes in Big5. -/
def big5Pair (lead trail : UInt8) : List Char :=
  let row := lead.toNat - 0x81
  match big5Column? trail with
  | some column =>
    match big5Rows.char? row column with
    | some c => [c]
    | none => big5Marked row column
  | none => []

/-- What stands first in Big5. -/
def big5First (b : UInt8) (rest : List UInt8) : Reading :=
  if b < 0x80 then .char (ascii b)
  else if b = 0x80 ∨ b = 0xFF then .invalid
  else .pair (big5Pair b) rest

/-- The text of bytes in Big5. -/
def ofBig5 : List UInt8 → List Char :=
  scan big5First

end Herald.Text.Charset
