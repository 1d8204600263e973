/-!
# UTF-8

Bytes are read as a row of pieces: a character, or a maximal part that no character starts with or
continues to. `decode?` accepts bytes without broken parts, `decodeLossy` puts U+FFFD in place of
each. A lead byte fixes how many bytes follow and in which range the first of them lies, which
excludes overlong forms, surrogates and values above U+10FFFF.
-/

namespace Herald.Text.Utf8

/-- A character, or a maximal part that is none. -/
inductive Piece where
  | char (c : Char)
  | broken
  deriving Repr, DecidableEq

/-- What a lead byte announces: the bits it gives, how many bytes follow, and the range of the
first of them. -/
structure Lead where
  bits : Nat
  tails : Nat
  low : UInt8 := 0x80
  high : UInt8 := 0xBF

/-- The bytes that start a character. -/
def Lead.of? (b : UInt8) : Option Lead :=
  if b < 0x80 then some ⟨b.toNat, 0, 0x80, 0xBF⟩
  else if b < 0xC2 then none
  else if b < 0xE0 then some ⟨b.toNat - 0xC0, 1, 0x80, 0xBF⟩
  else if b < 0xF0 then
    some ⟨b.toNat - 0xE0, 2, if b = 0xE0 then 0xA0 else 0x80, if b = 0xED then 0x9F else 0xBF⟩
  else if b < 0xF5 then
    some ⟨b.toNat - 0xF0, 3, if b = 0xF0 then 0x90 else 0x80, if b = 0xF4 then 0x8F else 0xBF⟩
  else none

/-- Reads the bytes that follow a lead byte: the code point if all are there, and what is left. -/
def tails (bits : Nat) : Nat → UInt8 → UInt8 → List UInt8 → Option Nat × List UInt8
  | 0, _, _, rest => (some bits, rest)
  | _ + 1, _, _, [] => (none, [])
  | n + 1, low, high, b :: rest =>
    if low ≤ b ∧ b ≤ high then tails (bits * 64 + (b.toNat - 0x80)) n 0x80 0xBF rest
    else (none, b :: rest)

theorem tails_length_le (bits n : Nat) (low high : UInt8) (bytes : List UInt8) :
    (tails bits n low high bytes).2.length ≤ bytes.length := by
  induction bytes generalizing bits n low high with
  | nil => cases n <;> simp [tails]
  | cons b rest ih =>
    cases n with
    | zero => simp [tails]
    | succ n =>
      simp only [tails]
      split
      · exact Nat.le_succ_of_le (ih ..)
      · simp

/-- The first piece of bytes that start with `b`, and what is left. -/
def first (b : UInt8) (rest : List UInt8) : Piece × List UInt8 :=
  match Lead.of? b with
  | none => (.broken, rest)
  | some lead =>
    match tails lead.bits lead.tails lead.low lead.high rest with
    | (some n, left) => (.char (Char.ofNat n), left)
    | (none, left) => (.broken, left)

theorem first_length_le (b : UInt8) (rest : List UInt8) : (first b rest).2.length ≤ rest.length := by
  unfold first
  split
  · simp
  · next lead _ =>
    have h := tails_length_le lead.bits lead.tails lead.low lead.high rest
    split <;> simp_all

/-- The pieces of a row of bytes. -/
def pieces : List UInt8 → List Piece
  | [] => []
  | b :: rest =>
    have := first_length_le b rest
    (first b rest).1 :: pieces (first b rest).2
  termination_by bytes => bytes.length
  decreasing_by simp; omega

/-- A character for each piece: U+FFFD for a broken one. -/
def Piece.toChar : Piece → Char
  | char c => c
  | broken => '\uFFFD'

/-- The character of a piece that is not broken. -/
def Piece.char? : Piece → Option Char
  | char c => some c
  | broken => none

/-- The text of bytes, with U+FFFD for every broken part. -/
def decodeLossy (bytes : List UInt8) : List Char :=
  (pieces bytes).map Piece.toChar

/-- The text of bytes that hold no broken part. -/
def decode? (bytes : List UInt8) : Option (List Char) :=
  (pieces bytes).mapM Piece.char?

/-- Whether bytes are a text, or could become one by further bytes at their end. -/
def isStart : List UInt8 → Bool
  | [] => true
  | b :: rest =>
    match h : first b rest with
    | (.char _, left) =>
      have : left.length ≤ rest.length := by simpa [h] using first_length_le b rest
      isStart left
    | (.broken, left) => left.isEmpty && (Lead.of? b).isSome
  termination_by bytes => bytes.length

/-- The bytes of a text. -/
def encode (text : List Char) : List UInt8 :=
  text.flatMap String.utf8EncodeChar

end Herald.Text.Utf8
