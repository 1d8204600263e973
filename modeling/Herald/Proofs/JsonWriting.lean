import Herald.Json.Writer
import Herald.Proofs.JsonReading

/-!
# Written JSON

The text that is written for a value is one of its texts in the grammar, so reading it gives the
value back.

* `spellsChar_writeChar`: whatever a character is written as spells it, escaped or not.
* `spells_array` and `spells_object` go from the values inside to the one around them.
-/

namespace Herald.Json

/-! ## Strings -/

theorem hexValue?_lowerHexDigit : ∀ n < 16, Text.hexValue? (lowerHexDigit n) = some n := by
  decide

/-- The escape of a control character spells it. -/
theorem spellsChar_control {c : Char} (h : c < ' ') :
    SpellsChar ['\\', 'u', '0', '0', lowerHexDigit (c.toNat / 16), lowerHexDigit (c.toNat % 16)] c := by
  have hlt : c.toNat < 0x20 := h
  have hunit : SpellsUnit ['0', '0', lowerHexDigit (c.toNat / 16), lowerHexDigit (c.toNat % 16)]
      (16 * (16 * (16 * 0 + 0) + c.toNat / 16) + c.toNat % 16) :=
    .mk rfl rfl (hexValue?_lowerHexDigit _ (by omega)) (hexValue?_lowerHexDigit _ (by omega))
  have hvalue : 16 * (16 * (16 * 0 + 0) + c.toNat / 16) + c.toNat % 16 = c.toNat := by omega
  rw [hvalue] at hunit
  have hchar := SpellsChar.unit hunit (.inl (by omega))
  rwa [Char.ofNat_toNat] at hchar

/-- Whatever a character is written as spells it. -/
theorem spellsChar_writeChar (c : Char) : SpellsChar (writeChar c) c := by
  have hshort : ∀ {letter d : Char}, c = d → (letter, d) ∈ shortEscapes →
      SpellsChar ['\\', letter] c := by
    rintro letter _ rfl h
    exact .short h
  unfold writeChar
  -- the escapes of one letter come first
  iterate 7
    split
    · next h => exact hshort h (by decide)
  split
  · next h => exact spellsChar_control h
  · next hquote hslash _ _ _ _ _ hcontrol => exact .plain hquote hslash hcontrol

theorem spellsChars_writeChars (cs : List Char) : SpellsChars (cs.flatMap writeChar) cs := by
  induction cs with
  | nil => exact .nil
  | cons c cs ih => exact .cons (spellsChar_writeChar c) ih

/-- Any string is spelled by what it is written as. -/
theorem spells_string (depth : Nat) (s : String) : Spells depth (write (.string s)) (.string s) := by
  have hstring := SpellsScalar.string (spellsChars_writeChars s.toList)
  rw [String.ofList_toList] at hstring
  exact spells_of_scalar hstring depth

theorem spells_bool (depth : Nat) (b : Bool) : Spells depth (write (.bool b)) (.bool b) := by
  cases b with
  | true => exact spells_of_scalar .true depth
  | false => exact spells_of_scalar .false depth

/-! ## Arrays and objects -/

section

variable {depth : Nat}

theorem spells_array {items : List Json} (h : ∀ v ∈ items, Spells depth (write v) v) :
    Spells (depth + 1) (write (.array items)) (.array items) := by
  refine .array ?_
  cases items with
  | nil => exact .nil blank_nil
  | cons first rest =>
    refine .items ?_
    -- the items one after another, without white space
    induction rest generalizing first with
    | nil => simpa [writeItems] using SpellsItems.last blank_nil (h first List.mem_cons_self) blank_nil
    | cons next rest ih =>
      obtain ⟨hfirst, hrest⟩ := List.forall_mem_cons.mp h
      simpa [writeItems] using SpellsItems.cons blank_nil hfirst blank_nil (ih next hrest)

/-- A member is spelled by its name in quotes and its value. -/
theorem spells_member (name : String) {v : Json} (h : Spells depth (write v) v) :
    SpellsMember (Spells depth) (writeString name ++ ':' :: write v) (name, v) := by
  have hmember := SpellsMember.mk (spellsChars_writeChars name.toList) blank_nil blank_nil h
  simpa [writeString] using hmember

theorem spells_object {members : List (String × Json)}
    (h : ∀ member ∈ members, Spells depth (write member.2) member.2) :
    Spells (depth + 1) (write (.object members)) (.object members) := by
  refine .object ?_
  cases members with
  | nil => exact .nil blank_nil
  | cons first rest =>
    refine .items ?_
    induction rest generalizing first with
    | nil =>
      have hmember := spells_member first.1 (h first List.mem_cons_self)
      simpa [writeMembers] using SpellsItems.last blank_nil hmember blank_nil
    | cons next rest ih =>
      obtain ⟨hfirst, hrest⟩ := List.forall_mem_cons.mp h
      have hmember := spells_member first.1 hfirst
      simpa [writeMembers] using SpellsItems.cons blank_nil hmember blank_nil (ih next hrest)

end

/-- A value that is spelled by what it is written as has this for a document. -/
theorem isText_toText {v : Json} (h : Spells depthLimit (write v) v) : IsText v.toText v := by
  refine ⟨[], write v, [], ?_, blank_nil, blank_nil, h⟩
  rw [toText, String.toList_ofList, List.append_nil, List.nil_append]

end Herald.Json
