import Herald.Text.Charset.Scan
import Herald.Text.Charset.Table.Ks

/-!
# The Korean character set

The rows of the standard hold only the common ones of all Korean syllables. The others stand, in
their order, in the places in front of and between the rows.
-/

namespace Herald.Text.Charset

/-- How many syllables there are, the first of which is U+AC00. -/
def syllableCount : Nat := 11172

/-- For each syllable whether the rows of the standard hold it. -/
def inKsRows : Array Bool :=
  ksRows.foldl
    (fun held (n, row) =>
      if 15 ≤ n ∧ n < 40 then
        row.toList.foldl (fun held c => held.setIfInBounds (c.toNat - 0xAC00) true) held
      else held)
    (Array.replicate syllableCount false)

/-- The syllables that the rows of the standard lack. -/
def ksOtherSyllables : Array Char :=
  let others := (List.range syllableCount).filter fun n => !inKsRows.getD n true
  (others.map fun n => Char.ofNat (0xAC00 + n)).toArray

/-- The place of a second byte outside the rows: letters and bytes from 0x81. -/
def ksColumn? (trail : UInt8) : Option Nat :=
  if 0x41 ≤ trail ∧ trail ≤ 0x5A then some (trail.toNat - 0x41)
  else if 0x61 ≤ trail ∧ trail ≤ 0x7A then some (trail.toNat - 0x47)
  else if 0x81 ≤ trail ∧ trail ≤ 0xFE then some (trail.toNat - 0x4D)
  else none

/-- The characters of a pair of bytes. Up to 0xA0 a row has 178 places for further syllables, and
from there on 84 in front of the places of the standard. -/
def eucKrPair (lead trail : UInt8) : List Char :=
  let lead := lead.toNat
  let c := if 0xA1 ≤ lead ∧ 0xA1 ≤ trail.toNat then ksRows.char? (lead - 0xA1) (trail.toNat - 0xA1)
    else (ksColumn? trail).bind fun column =>
      if lead ≤ 0xA0 then ksOtherSyllables[(lead - 0x81) * 178 + column]?
      else ksOtherSyllables[5696 + (lead - 0xA1) * 84 + column]?
  c.toList

/-- What stands first in bytes. -/
def eucKrFirst (b : UInt8) (rest : List UInt8) : Reading :=
  if b < 0x80 then .char (ascii b)
  else if b = 0x80 ∨ b = 0xFF then .invalid
  else .pair (eucKrPair b) rest

/-- The text of bytes in EUC for Korean. -/
def ofEucKr : List UInt8 → List Char :=
  scan eucKrFirst

end Herald.Text.Charset
