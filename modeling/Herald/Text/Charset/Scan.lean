import Herald.Text.Charset.Rows

/-!
# Reading bytes character by character

A set is read from the front of the bytes: the first byte, and what stands behind it, give some
characters and the number of further bytes that they take. `scan` goes on with the bytes that are
left. A byte that cannot belong to a pair is read anew if it is ASCII, so that no ASCII character is
lost to a broken one.
-/

namespace Herald.Text.Charset

/-- What stands first in some bytes. -/
structure Reading where
  chars : List Char
  /-- How many bytes it takes behind the first one. -/
  further : Nat := 0

namespace Reading

/-- One character, which takes the first byte and some further ones. -/
def char (c : Char) (further : Nat := 0) : Reading :=
  ⟨[c], further⟩

/-- Bytes without a character. -/
def invalid (further : Nat := 0) : Reading :=
  ⟨[missing], further⟩

/-- Bytes without a character, told the last of them and how many stand between it and the first. -/
def broken (last : UInt8) (between : Nat := 0) : Reading :=
  invalid (if last < 0x80 then between else between + 1)

/-- The characters of a pair, told which a second byte gives. -/
def pair (chars : UInt8 → List Char) : List UInt8 → Reading
  | [] => invalid
  | second :: _ =>
    match chars second with
    | [] => broken second
    | cs => ⟨cs, 1⟩

end Reading

theorem length_drop_lt (b : UInt8) (rest : List UInt8) (n : Nat) :
    (rest.drop n).length < (b :: rest).length := by
  rw [List.length_drop, List.length_cons]
  exact Nat.lt_succ_of_le (Nat.sub_le _ _)

/-- The text of bytes, told what stands first in them. -/
def scan (first : UInt8 → List UInt8 → Reading) : List UInt8 → List Char
  | [] => []
  | b :: rest =>
    let reading := first b rest
    reading.chars ++ scan first (rest.drop reading.further)
  termination_by bytes => bytes.length
  decreasing_by exact length_drop_lt ..

/-- The character of an ASCII byte. -/
def ascii (b : UInt8) : Char :=
  Char.ofNat b.toNat

end Herald.Text.Charset
