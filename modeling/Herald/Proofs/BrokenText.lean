import Herald.Proofs.Utf8Text
import Mathlib.Data.List.Infix

/-!
# Bytes that are no text

Bytes may fail to be a text at some place and be read on behind it. What is passed over there is the
longest part that could still become a character by other bytes behind it, or one byte alone if there
is no such part.

* `Broken` says this of a part in terms of the bytes of characters, and `first_eq_broken_iff` that it is
  what the reader takes for broken.
* `Replaced` is the text of any bytes, with U+FFFD for each broken part, and `decodeLossy_eq_iff` that
  they are decoded as this and as nothing else.
-/

namespace Herald.Text.Utf8

/-- The bytes are how some character begins, or all of it. -/
def Starts (bytes : List UInt8) : Prop :=
  ∃ c, bytes <+: String.utf8EncodeChar c

/-- The part is broken where the rest follows: there is no character, and no longer part begins like
one. -/
structure Broken (part rest : List UInt8) : Prop where
  ne_nil : part ≠ []
  no_character : ∀ c, ¬ String.utf8EncodeChar c <+: part ++ rest
  starts_or_single : Starts part ∨ part.length = 1
  longest : ∀ more, more <+: part ++ rest → Starts more → more.length ≤ part.length

/-- The text of bytes, with U+FFFD for each part that is broken. -/
inductive Replaced : List UInt8 → List Char → Prop where
  | nil : Replaced [] []
  | character (c : Char) {rest : List UInt8} {text : List Char} (h : Replaced rest text) :
      Replaced (String.utf8EncodeChar c ++ rest) (c :: text)
  | broken {part rest : List UInt8} {text : List Char} (hpart : Broken part rest)
      (h : Replaced rest text) : Replaced (part ++ rest) ('\uFFFD' :: text)

/-- At one place only one part is broken. -/
theorem Broken.unique {part part' rest rest' : List UInt8} (h : Broken part rest)
    (h' : Broken part' rest') (heq : part ++ rest = part' ++ rest') :
    part = part' ∧ rest = rest' := by
  have hle : ∀ {p p' r r' : List UInt8}, Broken p r → Broken p' r' → p ++ r = p' ++ r' →
      p.length ≤ p'.length := by
    intro p p' r r' hp hp' hsame
    rcases hp.starts_or_single with hstarts | hsingle
    · exact hp'.longest p (hsame ▸ List.prefix_append p r) hstarts
    · rw [hsingle]
      exact List.length_pos_of_ne_nil hp'.ne_nil
  exact List.append_inj heq (Nat.le_antisymm (hle h h' heq) (hle h' h heq.symm))

/-! ## What may follow a lead byte -/

/-- The bytes may follow a lead byte that announces `n` of them, the first one within bounds. -/
inductive Follows : Nat → UInt8 → UInt8 → List UInt8 → Prop where
  | nil (n : Nat) (low high : UInt8) : Follows n low high []
  | cons {n : Nat} {low high b : UInt8} {rest : List UInt8} (hlow : low ≤ b) (hhigh : b ≤ high)
      (h : Follows n 0x80 0xBF rest) : Follows (n + 1) low high (b :: rest)

section

variable {bits n : Nat} {low high : UInt8} {bytes left : List UInt8}

theorem Follows.of_append {more : List UInt8} (h : Follows n low high (bytes ++ more)) :
    Follows n low high bytes := by
  induction bytes generalizing n low high with
  | nil => exact .nil n low high
  | cons b bytes ih =>
    cases h with
    | cons hlow hhigh h => exact .cons hlow hhigh (ih h)

/-- Further bytes bring them to the number that is announced. -/
theorem Follows.exists_full (h : Follows n low high bytes) (hbounds : low ≤ high) :
    ∃ more, Follows n low high (bytes ++ more) ∧ (bytes ++ more).length = n := by
  induction h with
  | nil n low high =>
    induction n generalizing low high with
    | zero => exact ⟨[], .nil 0 low high, rfl⟩
    | succ n ih =>
      obtain ⟨more, hmore, hlength⟩ := ih 0x80 0xBF (by decide)
      exact ⟨low :: more, .cons (UInt8.le_refl low) hbounds hmore, congrArg (· + 1) hlength⟩
  | cons hlow hhigh _ ih =>
    obtain ⟨more, hmore, hlength⟩ := ih (by decide)
    exact ⟨more, .cons hlow hhigh hmore, congrArg (· + 1) hlength⟩

/-- All that are announced are read, if they may follow and nothing else does. -/
theorem exists_tails_iff : (∃ v, tails bits n low high bytes = (some v, [])) ↔
    Follows n low high bytes ∧ bytes.length = n := by
  induction n generalizing bits low high bytes with
  | zero =>
    simp only [tails_zero_eq_iff, List.length_eq_zero_iff]
    constructor
    · rintro ⟨v, -, rfl⟩
      exact ⟨.nil 0 low high, rfl⟩
    · rintro ⟨-, rfl⟩
      exact ⟨bits, rfl, rfl⟩
  | succ n ih =>
    simp only [tails_succ_eq_iff]
    constructor
    · rintro ⟨v, b, rest, rfl, hlow, hhigh, htails⟩
      obtain ⟨hfollows, hlength⟩ := ih.mp ⟨v, htails⟩
      exact ⟨.cons hlow hhigh hfollows, congrArg (· + 1) hlength⟩
    · rintro ⟨hfollows, hlength⟩
      cases hfollows with
      | nil => cases hlength
      | @cons _ _ _ b rest hlow hhigh hfollows =>
        obtain ⟨v, htails⟩ := ih.mpr ⟨hfollows, Nat.succ.inj hlength⟩
        exact ⟨v, b, rest, rfl, hlow, hhigh, htails⟩

/-- If not all are there, those in front of the first wrong one are taken. -/
theorem exists_taken (h : tails bits n low high bytes = (none, left)) :
    ∃ taken, bytes = taken ++ left ∧ Follows n low high taken ∧
      ∀ b rest, left = b :: rest → ¬ Follows n low high (taken ++ [b]) := by
  induction bytes generalizing bits n low high with
  | nil =>
    cases n with
    | zero => cases h
    | succ n =>
      cases h
      exact ⟨[], rfl, .nil _ low high, nofun⟩
  | cons b bytes ih =>
    cases n with
    | zero => cases h
    | succ n =>
      rw [tails] at h
      split at h
      · next hb =>
        obtain ⟨taken, rfl, hfollows, hwrong⟩ := ih h
        refine ⟨b :: taken, rfl, .cons hb.1 hb.2 hfollows, ?_⟩
        rintro b' rest hleft (_ | ⟨_, _, hmore⟩)
        exact hwrong b' rest hleft hmore
      · next hb =>
        cases h
        refine ⟨[], rfl, .nil _ low high, ?_⟩
        rintro _ _ ⟨⟩ (_ | ⟨hlow, hhigh, _⟩)
        exact hb ⟨hlow, hhigh⟩

end

/-- Bounds stay in order if only one of them is changed. -/
theorem bound_le_bound {p q : Prop} [Decidable p] [Decidable q] {low high low' high' : UInt8}
    (hone : p → ¬q) (hle : low ≤ high) (hlow : low' ≤ high) (hhigh : low ≤ high') :
    (if p then low' else low) ≤ if q then high' else high := by
  by_cases hp : p
  · rwa [if_pos hp, if_neg (hone hp)]
  · rw [if_neg hp]
    split
    · exact hhigh
    · exact hle

theorem Lead.low_le_high {b : UInt8} {lead : Lead} (h : Lead.of? b = some lead) :
    lead.low ≤ lead.high := by
  have htails : (0x80 : UInt8) ≤ 0xBF := by decide
  rcases Lead.of?_eq_some_iff.mp h with ⟨-, rfl⟩ | ⟨-, -, rfl⟩ | ⟨-, -, rfl⟩ | ⟨-, -, rfl⟩
  · exact htails
  · exact htails
  · exact bound_le_bound (by omega) htails (by decide) (by decide)
  · exact bound_le_bound (by omega) htails (by decide) (by decide)

/-- A character begins with a lead byte and bytes that may follow it. -/
theorem starts_cons_iff {b : UInt8} {bytes : List UInt8} : Starts (b :: bytes) ↔
    ∃ lead, Lead.of? b = some lead ∧ Follows lead.tails lead.low lead.high bytes := by
  constructor
  · rintro ⟨c, more, hc⟩
    have hfirst : first b (bytes ++ more) = (.char c, []) :=
      first_eq_char_iff.mpr (by rw [List.append_nil, ← hc]; rfl)
    obtain ⟨lead, v, hlead, htails, -⟩ := first_eq_char_iff_tails.mp hfirst
    exact ⟨lead, hlead, (exists_tails_iff.mp ⟨v, htails⟩).1.of_append⟩
  · rintro ⟨lead, hlead, hfollows⟩
    obtain ⟨more, hfull⟩ := hfollows.exists_full (Lead.low_le_high hlead)
    obtain ⟨v, htails⟩ := exists_tails_iff.mpr hfull
    have hfirst : first b (bytes ++ more) = (.char (Char.ofNat v), []) :=
      first_eq_char_iff_tails.mpr ⟨lead, v, hlead, htails, rfl⟩
    refine ⟨Char.ofNat v, more, ?_⟩
    have hc := first_eq_char_iff.mp hfirst
    rwa [List.append_nil] at hc

/-! ## Reading on behind a broken part -/

/-- No longer part of the bytes begins like a character than what has been taken. -/
theorem length_le_of_starts {b : UInt8} {taken left more : List UInt8} {lead : Lead}
    (hlead : Lead.of? b = some lead)
    (hwrong : ∀ b' rest, left = b' :: rest →
      ¬ Follows lead.tails lead.low lead.high (taken ++ [b']))
    (hmore : more <+: b :: (taken ++ left)) (hstarts : Starts more) :
    more.length ≤ (b :: taken).length := by
  cases more with
  | nil => exact Nat.zero_le _
  | cons b' more =>
    obtain ⟨rfl, htail⟩ := List.cons_prefix_cons.mp hmore
    obtain ⟨lead', hlead', hfollows⟩ := starts_cons_iff.mp hstarts
    cases hlead.symm.trans hlead'
    by_contra hlong
    -- it would hold the first wrong byte
    have hlt : taken.length < more.length := by
      simp only [List.length_cons] at hlong
      omega
    obtain ⟨beyond, rfl⟩ := List.prefix_of_prefix_length_le (List.prefix_append taken left) htail
      (Nat.le_of_lt hlt)
    cases beyond with
    | nil => simp at hlt
    | cons wrong beyond =>
      obtain ⟨rest, hrest⟩ := (List.prefix_append_right_inj taken).mp htail
      refine hwrong wrong (beyond ++ rest) hrest.symm ?_
      rw [List.append_cons] at hfollows
      exact hfollows.of_append

theorem broken_of_first {b : UInt8} {rest left : List UInt8}
    (h : first b rest = (.broken, left)) : ∃ part, b :: rest = part ++ left ∧ Broken part left := by
  have hno : ∀ c, ¬ String.utf8EncodeChar c <+: b :: rest := by
    rintro c ⟨more, hmore⟩
    rw [first_eq_char_iff.mpr hmore.symm] at h
    cases h
  unfold first at h
  split at h
  · next hlead =>
    -- no character begins with this byte
    cases h
    refine ⟨[b], rfl, List.cons_ne_nil b [], hno, .inr rfl, ?_⟩
    intro more hmore hstarts
    cases more with
    | nil => exact Nat.zero_le _
    | cons b' more =>
      obtain ⟨rfl, -⟩ := List.cons_prefix_cons.mp hmore
      obtain ⟨lead, hlead', -⟩ := starts_cons_iff.mp hstarts
      rw [hlead] at hlead'
      cases hlead'
  · next lead hlead =>
    split at h
    · cases h
    · next htails =>
      cases h
      obtain ⟨taken, rfl, hfollows, hwrong⟩ := exists_taken htails
      exact ⟨b :: taken, rfl, List.cons_ne_nil b taken, hno,
        .inl (starts_cons_iff.mpr ⟨lead, hlead, hfollows⟩),
        fun more => length_le_of_starts hlead hwrong⟩

/-- What the reader takes for broken is a broken part. -/
theorem first_eq_broken_iff {b : UInt8} {rest left : List UInt8} :
    first b rest = (.broken, left) ↔ ∃ part, b :: rest = part ++ left ∧ Broken part left := by
  refine ⟨broken_of_first, ?_⟩
  rintro ⟨part, hpart, hbroken⟩
  rcases hfirst : first b rest with ⟨c | _, left'⟩
  · -- no character is there
    refine absurd ?_ (hbroken.no_character c)
    rw [← hpart, first_eq_char_iff.mp hfirst]
    exact List.prefix_append _ left'
  · obtain ⟨part', hpart', hbroken'⟩ := broken_of_first hfirst
    rw [(hbroken'.unique hbroken (hpart'.symm.trans hpart)).2]

theorem replaced_decodeLossy (bytes : List UInt8) : Replaced bytes (decodeLossy bytes) := by
  -- along the pieces, each of which leaves fewer bytes
  induction bytes using pieces.induct with
  | case1 =>
    rw [decodeLossy, pieces]
    exact .nil
  | case2 b rest _ ih =>
    rw [decodeLossy, pieces, List.map_cons]
    rcases hfirst : first b rest with ⟨_ | _, left⟩
    · rw [hfirst] at ih
      rw [first_eq_char_iff.mp hfirst]
      exact .character _ ih
    · rw [hfirst] at ih
      obtain ⟨part, hpart, hbroken⟩ := broken_of_first hfirst
      rw [hpart]
      exact .broken hbroken ih

/-- Bytes are decoded as the text in which each broken part of them is replaced. -/
theorem decodeLossy_eq_iff {bytes : List UInt8} {text : List Char} :
    decodeLossy bytes = text ↔ Replaced bytes text := by
  constructor
  · rintro rfl
    exact replaced_decodeLossy bytes
  · intro h
    induction h with
    | nil => rw [decodeLossy, pieces, List.map_nil]
    | character c _ ih =>
      rw [decodeLossy, pieces_append, List.map_cons]
      exact congrArg _ ih
    | @broken part rest text hpart _ ih =>
      obtain ⟨b, more, rfl⟩ := List.exists_cons_of_ne_nil hpart.ne_nil
      have hfirst : first b (more ++ rest) = (.broken, rest) :=
        first_eq_broken_iff.mpr ⟨b :: more, rfl, hpart⟩
      rw [List.cons_append, decodeLossy, pieces, hfirst, List.map_cons]
      exact congrArg _ ih

end Herald.Text.Utf8
