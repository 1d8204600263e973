import Herald.Text.Utf8
import Mathlib.Logic.Function.Basic

/-!
# The bytes of a text

Bytes are read as a text exactly if they are the bytes of that text: no text is read from two rows
of bytes, and every text is read from its own.

* `Encodes` says which bytes a code point has: one to four of them, the code point spread over the
  low bits of each.
* `first_eq_char_iff`: bytes are read as beginning with a character exactly if they begin with its
  bytes.
* `decode?_eq_some_iff` and `decodeLossy_encode` follow along the text.
-/

namespace Herald.Text.Utf8

theorem toNat_ofNat {n : Nat} (h : n.isValidChar) : (Char.ofNat n).toNat = n := by
  rw [Char.ofNat, dif_pos h]
  rfl

/-! ## The bytes of a character -/

/-- The bytes of a code point. -/
inductive Encodes (n : Nat) : List UInt8 → Prop where
  | one {b : UInt8} (hn : n < 0x80) (hb : b.toNat = n) : Encodes n [b]
  | two {b b₁ : UInt8} (hn : 0x80 ≤ n ∧ n < 0x800) (hb : b.toNat = 0xC0 + n / 0x40)
      (h₁ : b₁.toNat = 0x80 + n % 0x40) : Encodes n [b, b₁]
  | three {b b₁ b₂ : UInt8} (hn : 0x800 ≤ n ∧ n < 0x10000) (hb : b.toNat = 0xE0 + n / 0x1000)
      (h₁ : b₁.toNat = 0x80 + n / 0x40 % 0x40) (h₂ : b₂.toNat = 0x80 + n % 0x40) :
      Encodes n [b, b₁, b₂]
  | four {b b₁ b₂ b₃ : UInt8} (hn : 0x10000 ≤ n ∧ n < 0x110000)
      (hb : b.toNat = 0xF0 + n / 0x40000) (h₁ : b₁.toNat = 0x80 + n / 0x1000 % 0x40)
      (h₂ : b₂.toNat = 0x80 + n / 0x40 % 0x40) (h₃ : b₃.toNat = 0x80 + n % 0x40) :
      Encodes n [b, b₁, b₂, b₃]

theorem Encodes.unique {n : Nat} {bytes bytes' : List UInt8} (h : Encodes n bytes)
    (h' : Encodes n bytes') : bytes = bytes' := by
  cases h <;> cases h' <;> grind [UInt8.toNat_inj]

theorem encodes_utf8EncodeChar (c : Char) : Encodes c.toNat (String.utf8EncodeChar c) := by
  have hvalid : c.toNat.isValidChar := c.valid
  have hlt : c.toNat < 0x110000 := by grind
  have hbyte : ∀ {n : Nat}, n < 256 → (UInt8.ofNat n).toNat = n := fun h => by
    rw [UInt8.toNat_ofNat', Nat.mod_eq_of_lt h]
  unfold String.utf8EncodeChar
  rw [show c.val.toNat = c.toNat from rfl]
  dsimp only
  -- one case for each number of bytes
  split
  · exact .one (by omega) (hbyte (by omega))
  · split
    · refine .two (by omega) ?_ ?_ <;> rw [hbyte] <;> omega
    · split
      · refine .three (by omega) ?_ ?_ ?_ <;> rw [hbyte] <;> omega
      · refine .four (by omega) ?_ ?_ ?_ ?_ <;> rw [hbyte] <;> omega

/-! ## Reading a character -/

section

variable {bits n v : Nat} {low high : UInt8} {bytes left : List UInt8}

theorem tails_zero_eq_iff :
    tails bits 0 low high bytes = (some v, left) ↔ v = bits ∧ left = bytes := by
  simp [tails, eq_comm]

/-- One more byte, which lies between the bounds. -/
theorem tails_succ_eq_iff : tails bits (n + 1) low high bytes = (some v, left) ↔
    ∃ b rest, bytes = b :: rest ∧ low.toNat ≤ b.toNat ∧ b.toNat ≤ high.toNat ∧
      tails (bits * 64 + (b.toNat - 0x80)) n 0x80 0xBF rest = (some v, left) := by
  cases bytes with
  | nil => simp [tails]
  | cons b rest =>
    simp only [tails, UInt8.le_iff_toNat_le]
    constructor
    · intro h
      split at h
      · next hb => exact ⟨b, rest, rfl, hb.1, hb.2, h⟩
      · simp at h
    · rintro ⟨b, rest, ⟨⟩, hlow, hhigh, h⟩
      rw [if_pos ⟨hlow, hhigh⟩]
      exact h

end

/-- What a lead byte announces, by how many bytes follow. -/
theorem Lead.of?_eq_some_iff {b : UInt8} {lead : Lead} : Lead.of? b = some lead ↔
    (b.toNat < 0x80 ∧ lead = ⟨b.toNat, 0, 0x80, 0xBF⟩) ∨
    (0xC2 ≤ b.toNat ∧ b.toNat < 0xE0 ∧ lead = ⟨b.toNat - 0xC0, 1, 0x80, 0xBF⟩) ∨
    (0xE0 ≤ b.toNat ∧ b.toNat < 0xF0 ∧ lead = ⟨b.toNat - 0xE0, 2,
      if b.toNat = 0xE0 then 0xA0 else 0x80, if b.toNat = 0xED then 0x9F else 0xBF⟩) ∨
    (0xF0 ≤ b.toNat ∧ b.toNat < 0xF5 ∧ lead = ⟨b.toNat - 0xF0, 3,
      if b.toNat = 0xF0 then 0x90 else 0x80, if b.toNat = 0xF4 then 0x8F else 0xBF⟩) := by
  unfold Lead.of?
  simp only [UInt8.lt_iff_toNat_lt, ← UInt8.toNat_inj, UInt8.toNat_ofNat, Nat.reducePow,
    Nat.reduceMod]
  split
  · grind
  · split <;> grind

/-- A lead byte and the bytes behind it give the code point. -/
theorem first_eq_char_iff_tails {b : UInt8} {rest left : List UInt8} {c : Char} :
    first b rest = (.char c, left) ↔ ∃ lead v, Lead.of? b = some lead ∧
      tails lead.bits lead.tails lead.low lead.high rest = (some v, left) ∧ c = Char.ofNat v := by
  unfold first
  cases hlead : Lead.of? b with
  | none => simp
  | some lead =>
    rcases htails : tails lead.bits lead.tails lead.low lead.high rest with ⟨_ | v, after⟩
    · simp [htails]
    · simp only [htails, Option.some.injEq, Prod.mk.injEq, Piece.char.injEq]
      constructor
      · rintro ⟨rfl, rfl⟩
        exact ⟨lead, v, rfl, by rw [htails], rfl⟩
      · rintro ⟨_, w, rfl, h, rfl⟩
        rw [htails] at h
        cases h
        exact ⟨rfl, rfl⟩

theorem toNat_ite {p : Prop} [Decidable p] (a b : UInt8) :
    (if p then a else b).toNat = if p then a.toNat else b.toNat :=
  apply_ite UInt8.toNat p a b

theorem encodes_of_first {b : UInt8} {rest left : List UInt8} {c : Char}
    (h : first b rest = (.char c, left)) :
    ∃ bytes, Encodes c.toNat bytes ∧ b :: rest = bytes ++ left := by
  obtain ⟨lead, v, hlead, htails, rfl⟩ := first_eq_char_iff_tails.mp h
  rcases Lead.of?_eq_some_iff.mp hlead with
    ⟨hb, rfl⟩ | ⟨hb, hb', rfl⟩ | ⟨hb, hb', rfl⟩ | ⟨hb, hb', rfl⟩
  · obtain ⟨hv, hleft⟩ := tails_zero_eq_iff.mp htails
    dsimp only at hv
    have hvalid : v.isValidChar := .inl (by omega)
    rw [toNat_ofNat hvalid, hleft]
    exact ⟨[b], .one (by omega) hv.symm, rfl⟩
  · obtain ⟨b₁, rest, rfl, h₁, h₁', htails⟩ := tails_succ_eq_iff.mp htails
    obtain ⟨hv, hleft⟩ := tails_zero_eq_iff.mp htails
    simp only [UInt8.toNat_ofNat, Nat.reducePow, Nat.reduceMod] at h₁ h₁' hv
    have hvalid : v.isValidChar := .inl (by omega)
    rw [toNat_ofNat hvalid, hleft]
    exact ⟨[b, b₁], .two (by omega) (by omega) (by omega), rfl⟩
  · obtain ⟨b₁, rest, rfl, h₁, h₁', htails⟩ := tails_succ_eq_iff.mp htails
    obtain ⟨b₂, rest, rfl, h₂, h₂', htails⟩ := tails_succ_eq_iff.mp htails
    obtain ⟨hv, hleft⟩ := tails_zero_eq_iff.mp htails
    simp only [toNat_ite, UInt8.toNat_ofNat, Nat.reducePow, Nat.reduceMod] at h₁ h₁' h₂ h₂' hv
    -- the bounds of the first byte leave out overlong forms and surrogates
    have hvalid : v.isValidChar := by
      unfold Nat.isValidChar
      split at h₁ <;> split at h₁' <;> omega
    rw [toNat_ofNat hvalid, hleft]
    refine ⟨[b, b₁, b₂], .three ?_ ?_ ?_ ?_, rfl⟩
    all_goals split at h₁ <;> split at h₁' <;> omega
  · obtain ⟨b₁, rest, rfl, h₁, h₁', htails⟩ := tails_succ_eq_iff.mp htails
    obtain ⟨b₂, rest, rfl, h₂, h₂', htails⟩ := tails_succ_eq_iff.mp htails
    obtain ⟨b₃, rest, rfl, h₃, h₃', htails⟩ := tails_succ_eq_iff.mp htails
    obtain ⟨hv, hleft⟩ := tails_zero_eq_iff.mp htails
    simp only [toNat_ite, UInt8.toNat_ofNat, Nat.reducePow, Nat.reduceMod]
      at h₁ h₁' h₂ h₂' h₃ h₃' hv
    -- here they leave out overlong forms and what lies above the last code point
    have hvalid : v.isValidChar := by
      unfold Nat.isValidChar
      split at h₁ <;> split at h₁' <;> omega
    rw [toNat_ofNat hvalid, hleft]
    refine ⟨[b, b₁, b₂, b₃], .four ?_ ?_ ?_ ?_ ?_, rfl⟩
    all_goals split at h₁ <;> split at h₁' <;> omega

theorem first_of_encodes {b : UInt8} {rest left bytes : List UInt8} {c : Char}
    (h : Encodes c.toNat bytes) (heq : b :: rest = bytes ++ left) :
    first b rest = (.char c, left) := by
  have hvalid : c.toNat.isValidChar := c.valid
  unfold Nat.isValidChar at hvalid
  have hc := (Char.ofNat_toNat c).symm
  rw [first_eq_char_iff_tails]
  cases h with
  | one hn hb =>
    cases heq
    refine ⟨_, c.toNat, Lead.of?_eq_some_iff.mpr (.inl ⟨by omega, rfl⟩), ?_, hc⟩
    exact tails_zero_eq_iff.mpr ⟨hb.symm, rfl⟩
  | two hn hb h₁ =>
    cases heq
    refine ⟨_, c.toNat, Lead.of?_eq_some_iff.mpr (.inr (.inl ⟨by omega, by omega, rfl⟩)), ?_, hc⟩
    refine tails_succ_eq_iff.mpr ⟨_, _, rfl, by simp; omega, by simp; omega, ?_⟩
    exact tails_zero_eq_iff.mpr ⟨by dsimp only; omega, rfl⟩
  | three hn hb h₁ h₂ =>
    cases heq
    refine ⟨_, c.toNat,
      Lead.of?_eq_some_iff.mpr (.inr (.inr (.inl ⟨by omega, by omega, rfl⟩))), ?_, hc⟩
    refine tails_succ_eq_iff.mpr ⟨_, _, rfl, ?low, ?high, ?_⟩
    case low | high =>
      simp only [toNat_ite, UInt8.toNat_ofNat, Nat.reducePow, Nat.reduceMod]
      split <;> omega
    refine tails_succ_eq_iff.mpr ⟨_, _, rfl, by simp; omega, by simp; omega, ?_⟩
    exact tails_zero_eq_iff.mpr ⟨by dsimp only; omega, rfl⟩
  | four hn hb h₁ h₂ h₃ =>
    cases heq
    refine ⟨_, c.toNat,
      Lead.of?_eq_some_iff.mpr (.inr (.inr (.inr ⟨by omega, by omega, rfl⟩))), ?_, hc⟩
    refine tails_succ_eq_iff.mpr ⟨_, _, rfl, ?low, ?high, ?_⟩
    case low | high =>
      simp only [toNat_ite, UInt8.toNat_ofNat, Nat.reducePow, Nat.reduceMod]
      split <;> omega
    refine tails_succ_eq_iff.mpr ⟨_, _, rfl, by simp; omega, by simp; omega, ?_⟩
    refine tails_succ_eq_iff.mpr ⟨_, _, rfl, by simp; omega, by simp; omega, ?_⟩
    exact tails_zero_eq_iff.mpr ⟨by dsimp only; omega, rfl⟩

/-- Bytes are read as beginning with a character exactly if they begin with its bytes. -/
theorem first_eq_char_iff {b : UInt8} {rest left : List UInt8} {c : Char} :
    first b rest = (.char c, left) ↔ b :: rest = String.utf8EncodeChar c ++ left := by
  constructor
  · intro h
    obtain ⟨bytes, hbytes, heq⟩ := encodes_of_first h
    rw [heq, hbytes.unique (encodes_utf8EncodeChar c)]
  · exact first_of_encodes (encodes_utf8EncodeChar c)

/-! ## Reading a text -/

theorem pieces_append (c : Char) (rest : List UInt8) :
    pieces (String.utf8EncodeChar c ++ rest) = .char c :: pieces rest := by
  cases hbytes : String.utf8EncodeChar c ++ rest with
  | nil => exact absurd (List.append_eq_nil_iff.mp hbytes).1 String.utf8EncodeChar_ne_nil
  | cons b more => rw [pieces, first_eq_char_iff.mpr hbytes.symm]

/-- The bytes of a text hold no broken part. -/
theorem pieces_encode (text : List Char) : pieces (encode text) = text.map .char := by
  induction text with
  | nil => simp [encode, pieces]
  | cons c text ih =>
    rw [encode, List.flatMap_cons, pieces_append]
    exact congrArg _ ih

/-- Bytes are read as a text exactly if they are the bytes of that text. -/
theorem decode?_eq_some_iff {bytes : List UInt8} {text : List Char} :
    decode? bytes = some text ↔ bytes = encode text := by
  constructor
  · intro h
    induction text generalizing bytes with
    | nil =>
      cases bytes with
      | nil => rfl
      | cons b rest =>
        rw [decode?, pieces, List.mapM_cons] at h
        simp [Option.bind_eq_some_iff] at h
    | cons c text ih =>
      cases bytes with
      | nil => simp [decode?, pieces] at h
      | cons b rest =>
        rcases hfirst : first b rest with ⟨piece, left⟩
        rw [decode?, pieces, List.mapM_cons, hfirst] at h
        simp only [Option.bind_eq_bind, Option.bind_eq_some_iff, Option.pure_def,
          Option.some.injEq, List.cons.injEq] at h
        obtain ⟨c', hc, text', htext, rfl, rfl⟩ := h
        cases piece with
        | broken => cases hc
        | char c'' =>
          cases hc
          rw [first_eq_char_iff.mp hfirst, ih htext]
          rfl
  · rintro rfl
    rw [decode?, pieces_encode]
    induction text with
    | nil => rfl
    | cons c text ih =>
      rw [List.map_cons, List.mapM_cons, ih]
      rfl

theorem decodeLossy_encode (text : List Char) : decodeLossy (encode text) = text := by
  rw [decodeLossy, pieces_encode, List.map_map]
  exact List.map_id text

end Herald.Text.Utf8
