import Herald.Proofs.JsonText
import Mathlib.Data.List.TakeWhile

/-!
# What the JSON reader accepts

The reader accepts the texts of the grammar and no others: whatever a part reader finds at the start
of a text is spelled there. Together with `Json.ofText?_of_isText` this is `Json.ofText?_eq_some_iff`.
-/

namespace Herald.Json

/-- What the reader of a part finds is spelled in front of what it leaves. -/
def Sound (spells : List Char → α → Prop) (p : PartReader α) : Prop :=
  ∀ {text a rest}, Finds p text a rest → ∃ body, text = body ++ rest ∧ spells body a

/-! ## Strings -/

theorem spells_of_hex4? {cs rest : List Char} {n : Nat} (h : hex4? cs = some (n, rest)) :
    ∃ digits, cs = digits ++ rest ∧ SpellsUnit digits n := by
  unfold hex4? at h
  split at h
  · next a b c d rest' =>
    simp only [List.foldlM_cons, List.foldlM_nil, Option.bind_eq_bind, Option.bind_eq_some_iff,
      Option.map_eq_some_iff] at h
    obtain ⟨m, ⟨_, ⟨w, ha, rfl⟩, _, ⟨x, hb, rfl⟩, _, ⟨y, hc, rfl⟩, _, ⟨z, hd, rfl⟩, ⟨⟩⟩, ⟨⟩⟩ := h
    exact ⟨[a, b, c, d], rfl, by simpa using SpellsUnit.mk ha hb hc hd⟩
  · cases h

theorem spells_of_unicodeEscape? {cs rest : List Char} {c : Char}
    (h : unicodeEscape? cs = some (c, rest)) :
    ∃ escaped, cs = escaped ++ rest ∧ SpellsChar ('\\' :: 'u' :: escaped) c := by
  unfold unicodeEscape? at h
  obtain ⟨⟨unit, left⟩, hunit, hleft⟩ := Option.bind_eq_some_iff.mp h
  obtain ⟨digits, hcs, hdigits⟩ := spells_of_hex4? hunit
  dsimp only at hleft
  split at hleft
  · next hhigh =>
    split at hleft
    · next left =>
      obtain ⟨⟨low, left'⟩, hlow, hleft'⟩ := Option.bind_eq_some_iff.mp hleft
      obtain ⟨digits', hcs', hdigits'⟩ := spells_of_hex4? hlow
      dsimp only at hleft'
      split at hleft'
      · next hrange =>
        obtain ⟨rfl, rfl⟩ := Prod.mk.inj (Option.some.inj hleft')
        refine ⟨digits ++ '\\' :: 'u' :: digits', ?_, .pair hdigits hdigits' hhigh hrange⟩
        rw [hcs, hcs', List.append_assoc]
        rfl
      · cases hleft'
    · cases hleft
  · next hhigh =>
    split at hleft
    · cases hleft
    · next hlow =>
      obtain ⟨rfl, rfl⟩ := Prod.mk.inj (Option.some.inj hleft)
      exact ⟨digits, hcs, .unit hdigits (by omega)⟩

theorem spells_of_escape? {cs rest : List Char} {c : Char} (h : escape? cs = some (c, rest)) :
    ∃ escaped, cs = escaped ++ rest ∧ SpellsChar ('\\' :: escaped) c := by
  unfold escape? at h
  split at h
  case h_9 rest' =>
    obtain ⟨escaped, rfl, hescaped⟩ := spells_of_unicodeEscape? h
    exact ⟨'u' :: escaped, rfl, hescaped⟩
  case h_10 => cases h
  all_goals
    cases h
    exact ⟨[_], rfl, .short (by decide)⟩

theorem spells_of_stringTail {text cs rest : List Char} (h : Finds stringTail text cs rest) :
    ∃ body, text = body ++ '"' :: rest ∧ SpellsChars body cs := by
  obtain ⟨hlength, h⟩ := h
  -- the reader goes on with a shorter text each time, by one character or by an escape
  induction hn : text.length using Nat.strongRecOn generalizing text cs rest with
  | ind n ih =>
    unfold stringTail at h
    split at h
    · cases h
    · cases h
      exact ⟨[], rfl, .nil⟩
    · next text' =>
      split at h
      · cases h
      · next c left hescape =>
        obtain ⟨escaped, rfl, hescaped⟩ := spells_of_escape? hescape
        split at h
        · cases h
        · next cs' rest' hless htail =>
          cases h
          have hshorter : left.length < n := by
            rw [← hn, List.length_cons, List.length_append]
            omega
          obtain ⟨body, rfl, hbody⟩ := ih _ hshorter hless htail rfl
          exact ⟨'\\' :: escaped ++ body, by simp, .cons hescaped hbody⟩
    · next c text' hquote hslash =>
      split at h
      · cases h
      · next hcontrol =>
        split at h
        · cases h
        · next cs' rest' hless htail =>
          cases h
          have hshorter : text'.length < n := by
            rw [← hn, List.length_cons]
            exact Nat.lt_succ_self _
          obtain ⟨body, rfl, hbody⟩ := ih _ hshorter hless htail rfl
          exact ⟨c :: body, rfl, .cons (.plain hquote hslash hcontrol) hbody⟩

/-! ## Numbers -/

theorem isDigits_of_digits1? {cs ds rest : List Char} (h : digits1? cs = some (ds, rest)) :
    cs = ds ++ rest ∧ IsDigits ds := by
  have happend := List.takeWhile_append_dropWhile (p := Char.isDigit) (l := cs)
  unfold digits1? at h
  split at h
  · cases h
  · next d ds' htake =>
    cases h
    rw [htake] at happend
    refine ⟨happend.symm, List.cons_ne_nil _ _, ?_⟩
    rw [← htake]
    exact fun c hc => List.mem_takeWhile_imp hc

theorem isDigits_of_whole? {cs ds rest : List Char} (h : whole? cs = some (ds, rest)) :
    cs = ds ++ rest ∧ IsDigits ds ∧ (ds.head? = some '0' → ds = ['0']) := by
  unfold whole? at h
  obtain ⟨⟨digits, left⟩, hdigits, hleft⟩ := Option.bind_eq_some_iff.mp h
  dsimp only at hleft
  split at hleft
  · cases hleft
  · next hzero =>
    cases hleft
    obtain ⟨hcs, hds⟩ := isDigits_of_digits1? hdigits
    refine ⟨hcs, hds, ?_⟩
    intro hhead
    have hlength : ds.length = 1 := by
      by_contra hne
      exact hzero ⟨hhead, hne⟩
    obtain ⟨d, rfl⟩ := List.length_eq_one_iff.mp hlength
    cases hhead
    rfl

theorem spells_of_fraction? {cs rest : List Char} {fraction : Option (List Char)}
    (h : fraction? cs = some (fraction, rest)) :
    ∃ text, cs = text ++ rest ∧ SpellsFraction text fraction := by
  unfold fraction? at h
  split at h
  · next left =>
    obtain ⟨⟨digits, left'⟩, hdigits, hleft⟩ := Option.map_eq_some_iff.mp h
    cases hleft
    obtain ⟨rfl, hds⟩ := isDigits_of_digits1? hdigits
    exact ⟨'.' :: digits, rfl, .digits hds⟩
  · cases h
    exact ⟨[], rfl, .absent⟩

theorem spells_of_exponent? {cs rest : List Char} {exponent : Option Int}
    (h : exponent? cs = some (exponent, rest)) :
    ∃ text, cs = text ++ rest ∧ SpellsExponent text exponent := by
  unfold exponent? at h
  split at h
  · next e left =>
    split at h
    · next he =>
      -- after the mark comes a sign, or the digits at once
      split at h
      all_goals
        obtain ⟨⟨digits, left'⟩, hdigits, hleft⟩ := Option.map_eq_some_iff.mp h
        cases hleft
        obtain ⟨rfl, hds⟩ := isDigits_of_digits1? hdigits
      · exact ⟨e :: '-' :: digits, rfl, .minus he hds⟩
      · exact ⟨e :: '+' :: digits, rfl, .plus he hds⟩
      · exact ⟨e :: digits, rfl, .bare he hds⟩
    · cases h
      exact ⟨[], rfl, .absent⟩
  · cases h
    exact ⟨[], rfl, .absent⟩

theorem exists_sign (cs : List Char) :
    ∃ sign, cs = sign ++ (minus cs).2 ∧ sign = if (minus cs).1 then ['-'] else [] := by
  unfold minus
  split
  · exact ⟨['-'], rfl, rfl⟩
  · exact ⟨[], rfl, rfl⟩

theorem spells_of_numberParts? {cs rest : List Char} {parts : NumberParts}
    (h : numberParts? cs = some (parts, rest)) :
    ∃ text, cs = text ++ rest ∧ SpellsNumber text parts := by
  obtain ⟨sign, hcs, hsign⟩ := exists_sign cs
  unfold numberParts? at h
  rcases hminus : minus cs with ⟨negative, unsigned⟩
  rw [hminus] at h hcs hsign
  obtain ⟨⟨whole, cs₁⟩, hwhole, h⟩ := Option.bind_eq_some_iff.mp h
  obtain ⟨⟨fraction, cs₂⟩, hfraction, h⟩ := Option.bind_eq_some_iff.mp h
  obtain ⟨⟨exponent, cs₃⟩, hexponent, h⟩ := Option.bind_eq_some_iff.mp h
  cases h
  obtain ⟨hunsigned, hds, hzero⟩ := isDigits_of_whole? hwhole
  obtain ⟨fractionText, hcs₁, hfraction⟩ := spells_of_fraction? hfraction
  obtain ⟨exponentText, hcs₂, hexponent⟩ := spells_of_exponent? hexponent
  refine ⟨sign ++ (whole ++ (fractionText ++ exponentText)), ?_, .mk hsign hds hzero hfraction hexponent⟩
  dsimp only at hunsigned hcs₁ hcs₂ hcs
  rw [hcs, hunsigned, hcs₁, hcs₂]
  simp only [List.append_assoc]

theorem sound_number {text : List Char} {v : Json} {rest : List Char}
    (h : Finds number text v rest) :
    ∃ body parts, text = body ++ rest ∧ SpellsNumber body parts ∧
      ofNumberParts? parts = some v := by
  obtain ⟨hlength, h⟩ := h
  unfold number at h
  split at h
  · cases h
  · next parts left hparts =>
    obtain ⟨v', hv, hleft⟩ := Option.map_eq_some_iff.mp h
    cases hleft
    obtain ⟨body, hbody, hspells⟩ := spells_of_numberParts? hparts
    exact ⟨body, parts, hbody, hspells, hv⟩

/-! ## Lists -/

/-- The white space that is skipped. -/
theorem exists_blank (cs : List Char) : ∃ front, Blank front ∧ cs = front ++ skipSpace cs :=
  ⟨cs.takeWhile isSpace, fun _ hc => List.mem_takeWhile_imp hc,
    List.takeWhile_append_dropWhile.symm⟩

variable {spells : List Char → α → Prop} {item : PartReader α} {close : Char}

theorem spells_of_itemsTail (hsound : Sound spells item) {cs rest : List Char} {as : List α}
    (h : Finds (itemsTail item close) cs as rest) :
    ∃ body, cs = body ++ close :: rest ∧ SpellsItems spells body as := by
  obtain ⟨hlength, h⟩ := h
  -- by the length of the text, which an item and a comma shorten
  induction hn : cs.length using Nat.strongRecOn generalizing cs as rest with
  | ind n ih =>
    unfold itemsTail at h
    split at h
    · cases h
    · next a left hleft hitem =>
      obtain ⟨front, hfront, hcs⟩ := exists_blank cs
      obtain ⟨text, htext, hspells⟩ := hsound ⟨hleft, hitem⟩
      obtain ⟨back, hback, hleft'⟩ := exists_blank left
      -- behind the item stands the end of the list or a comma
      split at h
      · cases h
      · next c more hmore =>
        rw [hmore] at hleft'
        split at h
        · next hclose =>
          cases h
          subst hclose
          refine ⟨front ++ (text ++ back), ?_, .last hfront hspells hback⟩
          rw [hcs, htext, hleft']
          simp only [List.append_assoc]
        · split at h
          · next hcomma =>
            split at h
            · cases h
            · next as' rest' hless htail =>
              cases h
              subst hcomma
              have hshorter : more.length < n := by
                rw [← hn, hcs, htext, hleft']
                simp only [List.length_append, List.length_cons]
                omega
              obtain ⟨body, hbody, hitems⟩ := ih _ hshorter hless htail rfl
              refine ⟨front ++ (text ++ (back ++ ',' :: body)), ?_,
                .cons hfront hspells hback hitems⟩
              rw [hcs, htext, hleft', hbody]
              simp only [List.append_assoc, List.cons_append]
          · cases h

theorem spells_of_items (hsound : Sound spells item) {cs rest : List Char} {as : List α}
    (h : Finds (items item close) cs as rest) :
    ∃ body, cs = body ++ close :: rest ∧ SpellsList spells body as := by
  obtain ⟨hlength, h⟩ := h
  unfold items at h
  split at h
  · cases h
  · next c more hmore =>
    split at h
    · next hclose =>
      cases h
      subst hclose
      obtain ⟨front, hfront, hcs⟩ := exists_blank cs
      rw [hmore] at hcs
      exact ⟨front, hcs, .nil hfront⟩
    · obtain ⟨body, hbody, hitems⟩ := spells_of_itemsTail hsound ⟨hlength, h⟩
      exact ⟨body, hbody, .items hitems⟩

/-! ## Values -/

theorem sound_member {value : PartReader Json} {spells : List Char → Json → Prop}
    (hsound : Sound spells value) : Sound (SpellsMember spells) (member value) := by
  rintro text a rest ⟨hlength, h⟩
  unfold member at h
  split at h
  · next cs =>
    split at h
    · cases h
    · next name left hleft hname =>
      split at h
      · next more hmore =>
        split at h
        · cases h
        · next v rest' hless hvalue =>
          cases h
          obtain ⟨nameText, hcs, hname'⟩ := spells_of_stringTail ⟨hleft, hname⟩
          obtain ⟨front, hfront, hleft'⟩ := exists_blank left
          obtain ⟨back, hback, hmore'⟩ := exists_blank more
          obtain ⟨body, hbody, hspells⟩ := hsound ⟨hless, hvalue⟩
          refine ⟨_, ?_, .mk hname' hfront hback hspells⟩
          rw [hcs, hleft', hmore, hmore', hbody]
          simp only [List.append_assoc, List.cons_append]
      · cases h
  · cases h

theorem spells_of_scalar {text : List Char} {v : Json} (h : SpellsScalar text v) (depth : Nat) :
    Spells depth text v := by
  cases depth with
  | zero => exact h
  | succ depth => exact .scalar h

/-- One level of values, if the levels below are sound. -/
theorem sound_level (depth : Nat) (ih : ∀ d, depth = d + 1 → Sound (Spells d) (value d)) :
    Sound (Spells depth) (value depth) := by
  rintro text v rest ⟨hlength, h⟩
  -- the bound on the length stands in the way of splitting the reader, and is not needed
  have hread : (value depth text).map (fun r => (r.1, r.2.1)) = some (v, rest) := by
    rw [h]
    rfl
  clear h
  unfold value at hread
  split at hread
  · cases hread
    exact ⟨_, rfl, spells_of_scalar .null _⟩
  · cases hread
    exact ⟨_, rfl, spells_of_scalar .true _⟩
  · cases hread
    exact ⟨_, rfl, spells_of_scalar .false _⟩
  · next cs =>
    obtain ⟨_, hmap, hread⟩ := Option.map_eq_some_iff.mp hread
    obtain ⟨⟨s, left, hleft⟩, hstring, rfl⟩ := Option.map_eq_some_iff.mp hmap
    cases hread
    obtain ⟨body, rfl, hbody⟩ := spells_of_stringTail ⟨hleft, hstring⟩
    exact ⟨'"' :: (body ++ ['"']), by simp, spells_of_scalar (.string hbody) _⟩
  · next d cs =>
    obtain ⟨_, hmap, hread⟩ := Option.map_eq_some_iff.mp hread
    obtain ⟨⟨xs, left, hleft⟩, hitems, rfl⟩ := Option.map_eq_some_iff.mp hmap
    cases hread
    obtain ⟨body, rfl, hbody⟩ := spells_of_items (ih d rfl) ⟨hleft, hitems⟩
    exact ⟨'[' :: (body ++ [']']), by simp, .array hbody⟩
  · next d cs =>
    obtain ⟨_, hmap, hread⟩ := Option.map_eq_some_iff.mp hread
    obtain ⟨⟨ms, left, hleft⟩, hitems, rfl⟩ := Option.map_eq_some_iff.mp hmap
    cases hread
    obtain ⟨body, rfl, hbody⟩ := spells_of_items (sound_member (ih d rfl)) ⟨hleft, hitems⟩
    exact ⟨'\x7b' :: (body ++ ['\x7d']), by simp, .object hbody⟩
  · obtain ⟨⟨v', left, hleft⟩, hnumber, hread⟩ := Option.map_eq_some_iff.mp hread
    cases hread
    obtain ⟨body, parts, hbody, hspells, hv⟩ := sound_number ⟨hleft, hnumber⟩
    exact ⟨body, hbody, spells_of_scalar (.number hspells hv) _⟩

theorem sound_value (depth : Nat) : Sound (Spells depth) (value depth) := by
  induction depth with
  | zero => exact sound_level 0 nofun
  | succ depth ih =>
    refine sound_level (depth + 1) ?_
    rintro d ⟨⟩
    exact ih

/-- The reader accepts the documents of the grammar, and gives the value that each of them spells. -/
theorem ofText?_eq_some_iff {text : String} {v : Json} : ofText? text = some v ↔ IsText text v := by
  refine ⟨?_, ofText?_of_isText⟩
  intro h
  rw [ofText?, read?] at h
  -- a value has been read, and nothing but white space is left
  split at h
  · next v' left hleft hvalue =>
    split at h
    · next hend =>
      cases h
      obtain ⟨front, hfront, htext⟩ := exists_blank text.toList
      obtain ⟨body, hbody, hspells⟩ := sound_value depthLimit ⟨hleft, hvalue⟩
      obtain ⟨back, hback, hblank⟩ := exists_blank left
      rw [hend, List.append_nil] at hblank
      rw [hbody, hblank] at htext
      exact ⟨front, body, back, htext, hfront, hback, hspells⟩
    · cases h
  · cases h

/-- A document spells one value. -/
theorem IsText.unique {text : String} {v v' : Json} (h : IsText text v) (h' : IsText text v') :
    v = v' :=
  Option.some.inj ((ofText?_of_isText h).symm.trans (ofText?_of_isText h'))

end Herald.Json
