/-!
# WebSocket frames

A frame starts with two bytes: a final bit, three reserved bits and the opcode, then a mask bit and
the length of the payload, which may be continued in two or eight further bytes. `Frame.read` takes
the first frame off a row of bytes once all of it is there, and `Frame.write` is the row of bytes of
a frame that a server sends.
-/

namespace Herald.WebSocket

/-- What a frame is for. -/
inductive Opcode where
  | continuation
  | text
  | binary
  | close
  | ping
  | pong
  deriving Repr, DecidableEq

/-- The number of an opcode. -/
def Opcode.number : Opcode → UInt8
  | continuation => 0
  | text => 1
  | binary => 2
  | close => 8
  | ping => 9
  | pong => 10

/-- The opcode of a number; the others are reserved. -/
def Opcode.ofNumber? (n : UInt8) : Option Opcode :=
  if n = 0 then some .continuation
  else if n = 1 then some .text
  else if n = 2 then some .binary
  else if n = 8 then some .close
  else if n = 9 then some .ping
  else if n = 10 then some .pong
  else none

/-- Whether an opcode belongs to the control of the connection. -/
def Opcode.isControl : Opcode → Bool
  | close | ping | pong => true
  | continuation | text | binary => false

/-- A frame. -/
structure Frame where
  final : Bool := true
  reserved : Bool := false
  opcode : Opcode
  masked : Bool := false
  payload : List UInt8
  deriving Repr, DecidableEq

/-- The number that bytes denote, the highest byte first. -/
def ofBytes (bytes : List UInt8) : Nat :=
  bytes.foldl (fun n b => 256 * n + b.toNat) 0

/-- The bytes of a number, the highest first. -/
def toBytes : (count n : Nat) → List UInt8
  | 0, _ => []
  | count + 1, n => toBytes count (n / 256) ++ [UInt8.ofNat n]

/-- What stands before the payload of a frame. -/
structure Header where
  first : UInt8
  masked : Bool
  /-- How many bytes the header takes. -/
  size : Nat
  /-- How many bytes the payload takes. -/
  length : Nat
  deriving Repr, DecidableEq

/-- How many bytes continue a short length. -/
def extraBytes (short : UInt8) : Nat :=
  if short = 126 then 2 else if short = 127 then 8 else 0

/-- Reads a header once all of it is there. -/
def Header.read? : List UInt8 → Option Header
  | first :: second :: rest =>
    let short := second &&& 0x7F
    let masked := second &&& 0x80 ≠ 0
    let extra := extraBytes short
    let size := 2 + extra + if masked then 4 else 0
    if rest.length + 2 < size then none
    else some ⟨first, masked, size, if extra = 0 then short.toNat else ofBytes (rest.take extra)⟩
  | _ => none

/-- The longest payload that is accepted. -/
def payloadLimit : Nat := 16 * 1024 * 1024

/-- What a row of bytes starts with. -/
inductive FrameRead where
  /-- Not yet all of a frame. -/
  | incomplete
  /-- No frame that is accepted. -/
  | invalid
  | frame (f : Frame) (rest : List UInt8)
  deriving Repr, DecidableEq

/-- Takes the first frame off a row of bytes. -/
def Frame.read (bytes : List UInt8) : FrameRead :=
  match Header.read? bytes with
  | none => .incomplete
  | some header =>
    match Opcode.ofNumber? (header.first &&& 0x0F) with
    | none => .invalid
    | some opcode =>
      if payloadLimit < header.length then .invalid
      else
        let behind := bytes.drop header.size
        if behind.length < header.length then .incomplete
        else .frame
          { final := header.first &&& 0x80 ≠ 0
            reserved := header.first &&& 0x70 ≠ 0
            opcode
            masked := header.masked
            payload := behind.take header.length }
          (behind.drop header.length)

theorem Header.size_of_read? {bytes : List UInt8} {header : Header}
    (h : Header.read? bytes = some header) : 0 < header.size ∧ bytes ≠ [] := by
  unfold Header.read? at h
  split at h
  · simp only [Option.ite_none_left_eq_some, Option.some.injEq] at h
    refine ⟨?_, List.cons_ne_nil _ _⟩
    simp only [← h.2]
    omega
  · cases h

/-- Taking a frame off leaves fewer bytes. -/
theorem Frame.length_of_read {bytes rest : List UInt8} {f : Frame}
    (h : Frame.read bytes = .frame f rest) : rest.length < bytes.length := by
  unfold Frame.read at h
  split at h
  · cases h
  · next header hh =>
    have ⟨hs, hb⟩ := Header.size_of_read? hh
    have hb := List.length_pos_iff.2 hb
    split at h
    · cases h
    · split at h
      · cases h
      · dsimp only at h
        split at h
        · cases h
        · cases h; simp; omega

/-- The bytes of a frame without a mask and without reserved bits. -/
def Frame.write (f : Frame) : List UInt8 :=
  let first := (if f.final then 0x80 else 0) ||| f.opcode.number
  let n := f.payload.length
  let length : List UInt8 :=
    if n < 126 then [UInt8.ofNat n]
    else if n < 65536 then 126 :: toBytes 2 n
    else 127 :: toBytes 8 n
  first :: length ++ f.payload

end Herald.WebSocket
