import Herald.Proofs.Utf8Text
import Herald.Slack.Client

/-!
# The query of a request

`Text.Percent.readPairs` reads the pairs of a query by the rules for forms: fields end at `&`, a
name ends at the first `=`, a plus is a space and an escape is a byte.

* `readPairs_formPairs`: pairs are read as they were written, whatever characters they hold.
* `Url.readPairs_addPairs`: they stand behind the pairs that the address has had before.
-/

namespace Herald

namespace Text.Percent

/-- The text of a name or a value in a form. -/
def formDecode (field : List Char) : List Char :=
  Utf8.decodeLossy (decode (field.map fun c => if c = '+' then ' ' else c))

/-- The pairs of a form. Empty fields do not count. -/
def readPairs (form : List Char) : List (String × String) :=
  ((splitWhere (· = '&') form).filter (!·.isEmpty)).map fun field =>
    (String.ofList (formDecode (field.takeWhile (· ≠ '='))),
      String.ofList (formDecode ((field.dropWhile (· ≠ '=')).drop 1)))

/-! ## Names and values -/

/-- The characters that have a meaning of their own in a form. -/
def formMarks : List Char := ['%', '+', '&', '=']

theorem hexValue?_hexDigit :
    ∀ n < 16, hexValue? (hexDigit n) = some n ∧ hexDigit n ∉ formMarks := by
  decide

theorem isFormPlain_spec : ∀ n < 256, isFormPlain (UInt8.ofNat n) = true →
    Char.ofNat n ∉ formMarks ∧ String.utf8EncodeChar (Char.ofNat n) = [UInt8.ofNat n] := by
  decide +kernel

/-- What a byte is written as. -/
def formByte (b : UInt8) : List Char :=
  if b = 0x20 then ['+'] else if isFormPlain b then [Char.ofNat b.toNat] else escape b

theorem formEncode_eq (text : List Char) :
    formEncode text = (Utf8.encode text).flatMap formByte := rfl

theorem formByte_cases (b : UInt8) :
    (b = 0x20 ∧ formByte b = ['+']) ∨
    (∃ c, formByte b = [c] ∧ c ∉ formMarks ∧ String.utf8EncodeChar c = [b]) ∨
    ∃ high low, formByte b = ['%', high, low] ∧ high ∉ formMarks ∧ low ∉ formMarks ∧
      hexValue? high = some (b.toNat / 16) ∧ hexValue? low = some (b.toNat % 16) := by
  have hb : b.toNat < 256 := b.toNat_lt
  by_cases hspace : b = 0x20
  · exact .inl ⟨hspace, by rw [formByte, if_pos hspace]⟩
  · by_cases hplain : isFormPlain b = true
    · have hspec := isFormPlain_spec b.toNat hb
      rw [UInt8.ofNat_toNat] at hspec
      obtain ⟨hmarks, hencode⟩ := hspec hplain
      exact .inr (.inl ⟨_, by rw [formByte, if_neg hspace, if_pos hplain], hmarks, hencode⟩)
    · obtain ⟨hhigh, hhigh'⟩ := hexValue?_hexDigit (b.toNat / 16) (by omega)
      obtain ⟨hlow, hlow'⟩ := hexValue?_hexDigit (b.toNat % 16) (by omega)
      exact .inr (.inr ⟨_, _, by rw [formByte, if_neg hspace, if_neg hplain, escape], hhigh', hlow',
        hhigh, hlow⟩)

theorem ne_of_not_mem_formMarks {c : Char} (h : c ∉ formMarks) :
    c ≠ '%' ∧ c ≠ '+' ∧ c ≠ '&' ∧ c ≠ '=' := by
  simpa [formMarks] using h

theorem decode_plain {c : Char} (hc : c ≠ '%') (rest : List Char) :
    decode (c :: rest) = String.utf8EncodeChar c ++ decode rest := by
  rw [decode]
  exact fun _ _ _ h => absurd h hc

theorem decode_escape {high low : Char} {b : UInt8}
    (hhigh : hexValue? high = some (b.toNat / 16)) (hlow : hexValue? low = some (b.toNat % 16))
    (rest : List Char) : decode ('%' :: high :: low :: rest) = b :: decode rest := by
  have hb : 16 * (b.toNat / 16) + b.toNat % 16 = b.toNat := by omega
  simp only [decode, hhigh, hlow, hb, UInt8.ofNat_toNat]

/-- The bytes of a field are read back, one after another. -/
theorem decode_formBytes (bytes : List UInt8) :
    decode ((bytes.flatMap formByte).map fun c => if c = '+' then ' ' else c) = bytes := by
  induction bytes with
  | nil => rfl
  | cons b bytes ih =>
    rw [List.flatMap_cons, List.map_append]
    rcases formByte_cases b with
      ⟨rfl, h⟩ | ⟨c, h, hc, hencode⟩ | ⟨high, low, h, hhigh', hlow', hhigh, hlow⟩
    · rw [h]
      exact (decode_plain (by decide) _).trans (congrArg _ ih)
    · obtain ⟨hpercent, hplus, -⟩ := ne_of_not_mem_formMarks hc
      rw [h, List.map_cons, if_neg hplus, List.map_nil, List.singleton_append,
        decode_plain hpercent, ih, hencode]
      rfl
    · obtain ⟨-, hhighPlus, -⟩ := ne_of_not_mem_formMarks hhigh'
      obtain ⟨-, hlowPlus, -⟩ := ne_of_not_mem_formMarks hlow'
      rw [h]
      simp only [List.map_cons, List.map_nil, if_neg hhighPlus, if_neg hlowPlus, List.cons_append,
        List.nil_append]
      rw [if_neg (by decide), decode_escape hhigh hlow, ih]

theorem formDecode_formEncode (text : List Char) : formDecode (formEncode text) = text := by
  rw [formDecode, formEncode_eq, decode_formBytes, Utf8.decodeLossy_encode]

/-- No field holds what ends a name or a field. -/
theorem not_mem_formEncode {mark : Char} (hmark : mark = '&' ∨ mark = '=') (text : List Char) :
    mark ∉ formEncode text := by
  intro h
  obtain ⟨b, -, hb⟩ := List.mem_flatMap.mp ((formEncode_eq text) ▸ h)
  have hmem : mark ∈ formMarks := by
    rcases hmark with rfl | rfl <;> decide
  have hne : mark ≠ '+' ∧ mark ≠ '%' := by
    rcases hmark with rfl | rfl <;> decide
  rcases formByte_cases b with ⟨-, h⟩ | ⟨c, h, hc, -⟩ | ⟨high, low, h, hhigh, hlow, -⟩
  · rw [h] at hb
    exact hne.1 (List.mem_singleton.mp hb)
  · rw [h] at hb
    exact hc (List.mem_singleton.mp hb ▸ hmem)
  · rw [h] at hb
    simp only [List.mem_cons, List.not_mem_nil, or_false] at hb
    rcases hb with rfl | rfl | rfl
    · exact hne.2 rfl
    · exact hhigh hmem
    · exact hlow hmem

/-! ## Pairs -/

/-- A pair as it is written. -/
def formField (pair : String × String) : List Char :=
  formEncode pair.1.toList ++ '=' :: formEncode pair.2.toList

theorem formPairs_eq (pairs : List (String × String)) :
    formPairs pairs = ['&'].intercalate (pairs.map formField) := rfl

theorem not_mem_formField (pair : String × String) : '&' ∉ formField pair := by
  intro h
  rcases List.mem_append.mp h with h | h
  · exact not_mem_formEncode (.inl rfl) _ h
  · rcases List.mem_cons.mp h with h | h
    · cases h
    · exact not_mem_formEncode (.inl rfl) _ h

theorem formField_cut (pair : String × String) :
    (formField pair).takeWhile (· ≠ '=') = formEncode pair.1.toList ∧
      ((formField pair).dropWhile (· ≠ '=')).drop 1 = formEncode pair.2.toList := by
  have hname : ∀ c ∈ formEncode pair.1.toList, decide (c ≠ '=') = true := by
    intro c hc
    refine decide_eq_true ?_
    rintro rfl
    exact not_mem_formEncode (.inr rfl) _ hc
  rw [formField, List.takeWhile_append_of_pos hname, List.dropWhile_append_of_pos hname]
  simp

/-- Pairs are read as they were written. -/
theorem readPairs_formPairs (pairs : List (String × String)) :
    readPairs (formPairs pairs) = pairs := by
  by_cases hnil : pairs = []
  · subst hnil
    rfl
  · have hne : pairs.map formField ≠ [] := by
      simpa using hnil
    have hparts : ∀ part ∈ pairs.map formField, '&' ∉ part := by
      intro part hpart
      obtain ⟨pair, -, rfl⟩ := List.mem_map.mp hpart
      exact not_mem_formField pair
    have hfields : ∀ part ∈ pairs.map formField, (!part.isEmpty) = true := by
      intro part hpart
      obtain ⟨pair, -, rfl⟩ := List.mem_map.mp hpart
      simp [formField]
    rw [readPairs, formPairs_eq, splitWhere_intercalate hne hparts,
      List.filter_eq_self.mpr hfields, List.map_map]
    refine (List.map_congr_left ?_).trans (List.map_id pairs)
    intro pair _
    obtain ⟨hname, hvalue⟩ := formField_cut pair
    simp only [Function.comp, hname, hvalue, formDecode_formEncode, String.ofList_toList, id]

theorem readPairs_append (old new : List Char) :
    readPairs (old ++ '&' :: new) = readPairs old ++ readPairs new := by
  rw [readPairs, splitWhere_append (by decide), List.filter_append, List.map_append]
  rfl

end Text.Percent

open Text.Percent (readPairs formPairs)

/-- Pairs that are added to a query are read behind those that it has had. -/
theorem Url.readPairs_addPairs (url : Url) (pairs : List (String × String)) :
    readPairs ((url.addPairs pairs).query.getD []) = readPairs (url.query.getD []) ++ pairs := by
  have hquery : (url.addPairs pairs).query.getD [] =
      if (url.query.getD []).isEmpty || (formPairs pairs).isEmpty then
        url.query.getD [] ++ formPairs pairs
      else url.query.getD [] ++ '&' :: formPairs pairs := by
    simp only [addPairs]
    split <;> rename_i h <;> split <;> simp_all
  have hnew := Text.Percent.readPairs_formPairs pairs
  rw [hquery]
  split
  · next h =>
    rw [Bool.or_eq_true, List.isEmpty_iff, List.isEmpty_iff] at h
    rcases h with h | h
    · rw [h, List.nil_append, hnew]
      rfl
    · rw [h] at hnew ⊢
      rw [List.append_nil, ← hnew]
      exact (List.append_nil _).symm
  · rw [Text.Percent.readPairs_append, hnew]

end Herald
