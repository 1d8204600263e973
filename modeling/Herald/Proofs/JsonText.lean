import Herald.Json.Reader
import Herald.Proofs.FirstPlace

/-!
# The texts of a JSON value

`Json.Spells depth text v` is the grammar of JSON: the text spells the value, and its arrays and
objects nest at most `depth` deep. A number is spelled by any literal that `Json.ofNumberParts?` can
take, so one that no double can hold is spelled by nothing.

The grammar is given by derivations, from the characters of a string upwards, and knows of no reader.
`Json.ofText?_of_isText` says that the reader finds the value of every text of the grammar. It goes
by the same parts: what each part reader does with a text of its part, followed by anything that
cannot belong to it.
-/

namespace Herald.Json

/-! ## The grammar -/

/-- White space alone. -/
def Blank (text : List Char) : Prop :=
  ∀ c ∈ text, isSpace c = true

theorem blank_nil : Blank [] := nofun

/-- One digit or more. -/
def IsDigits (text : List Char) : Prop :=
  text ≠ [] ∧ ∀ c ∈ text, c.isDigit = true

/-- A fraction, which may be absent. -/
inductive SpellsFraction : List Char → Option (List Char) → Prop where
  | absent : SpellsFraction [] none
  | digits {ds : List Char} (h : IsDigits ds) : SpellsFraction ('.' :: ds) (some ds)

/-- An exponent, which may be absent. -/
inductive SpellsExponent : List Char → Option Int → Prop where
  | absent : SpellsExponent [] none
  | bare {e : Char} {ds : List Char} (he : e = 'e' ∨ e = 'E') (h : IsDigits ds) :
      SpellsExponent (e :: ds) (some (Text.ofDigits ds))
  | plus {e : Char} {ds : List Char} (he : e = 'e' ∨ e = 'E') (h : IsDigits ds) :
      SpellsExponent (e :: '+' :: ds) (some (Text.ofDigits ds))
  | minus {e : Char} {ds : List Char} (he : e = 'e' ∨ e = 'E') (h : IsDigits ds) :
      SpellsExponent (e :: '-' :: ds) (some (-(Text.ofDigits ds : Int)))

/-- A number literal. Its whole part has no leading zeros. -/
inductive SpellsNumber : List Char → NumberParts → Prop where
  | mk {sign whole fractionText exponentText : List Char} {negative : Bool}
      {fraction : Option (List Char)} {exponent : Option Int}
      (hsign : sign = if negative then ['-'] else []) (hwhole : IsDigits whole)
      (hzero : whole.head? = some '0' → whole = ['0'])
      (hfraction : SpellsFraction fractionText fraction)
      (hexponent : SpellsExponent exponentText exponent) :
      SpellsNumber (sign ++ (whole ++ (fractionText ++ exponentText)))
        ⟨negative, whole, fraction, exponent⟩

/-- Four hexadecimal digits, and the code unit that they name. -/
inductive SpellsUnit : List Char → Nat → Prop where
  | mk {a b c d : Char} {w x y z : Nat} (ha : Text.hexValue? a = some w)
      (hb : Text.hexValue? b = some x) (hc : Text.hexValue? c = some y)
      (hd : Text.hexValue? d = some z) :
      SpellsUnit [a, b, c, d] (16 * (16 * (16 * w + x) + y) + z)

/-- The escapes of one letter, and the characters that they stand for. -/
def shortEscapes : List (Char × Char) :=
  [('"', '"'), ('\\', '\\'), ('/', '/'), ('b', '\x08'), ('f', '\x0c'), ('n', '\n'), ('r', '\r'),
    ('t', '\t')]

/-- A character of a string. Quotes, backslashes and control characters have to be escaped, every
other one may be. -/
inductive SpellsChar : List Char → Char → Prop where
  | plain {c : Char} (hquote : c ≠ '"') (hslash : c ≠ '\\') (hcontrol : ¬ c < ' ') :
      SpellsChar [c] c
  | short {letter c : Char} (h : (letter, c) ∈ shortEscapes) : SpellsChar ['\\', letter] c
  | unit {digits : List Char} {n : Nat} (h : SpellsUnit digits n)
      (hn : n < 0xD800 ∨ 0xE000 ≤ n) : SpellsChar ('\\' :: 'u' :: digits) (Char.ofNat n)
  | pair {digits digits' : List Char} {high low : Nat} (hhigh : SpellsUnit digits high)
      (hlow : SpellsUnit digits' low) (hh : 0xD800 ≤ high ∧ high < 0xDC00)
      (hl : 0xDC00 ≤ low ∧ low < 0xE000) :
      SpellsChar ('\\' :: 'u' :: (digits ++ '\\' :: 'u' :: digits'))
        (Char.ofNat (0x10000 + 0x400 * (high - 0xD800) + (low - 0xDC00)))

/-- The inside of a string. -/
inductive SpellsChars : List Char → List Char → Prop where
  | nil : SpellsChars [] []
  | cons {text rest : List Char} {c : Char} {cs : List Char} (hc : SpellsChar text c)
      (h : SpellsChars rest cs) : SpellsChars (text ++ rest) (c :: cs)

/-- One item or more, with commas between them and white space around each. -/
inductive SpellsItems (item : List Char → α → Prop) : List Char → List α → Prop where
  | last {front text back : List Char} {a : α} (hfront : Blank front) (h : item text a)
      (hback : Blank back) : SpellsItems item (front ++ (text ++ back)) [a]
  | cons {front text back rest : List Char} {a : α} {as : List α} (hfront : Blank front)
      (h : item text a) (hback : Blank back) (hrest : SpellsItems item rest as) :
      SpellsItems item (front ++ (text ++ (back ++ ',' :: rest))) (a :: as)

/-- Any number of items. -/
inductive SpellsList (item : List Char → α → Prop) : List Char → List α → Prop where
  | nil {text : List Char} (h : Blank text) : SpellsList item text []
  | items {text : List Char} {as : List α} (h : SpellsItems item text as) : SpellsList item text as

/-- A member of an object. -/
inductive SpellsMember (value : List Char → Json → Prop) : List Char → String × Json → Prop where
  | mk {nameText name front back text : List Char} {v : Json} (hname : SpellsChars nameText name)
      (hfront : Blank front) (hback : Blank back) (h : value text v) :
      SpellsMember value ('"' :: (nameText ++ '"' :: (front ++ ':' :: (back ++ text))))
        (String.ofList name, v)

/-- A value that is no array and no object. -/
inductive SpellsScalar : List Char → Json → Prop where
  | null : SpellsScalar ['n', 'u', 'l', 'l'] .null
  | true : SpellsScalar ['t', 'r', 'u', 'e'] (.bool true)
  | false : SpellsScalar ['f', 'a', 'l', 's', 'e'] (.bool false)
  | string {text cs : List Char} (h : SpellsChars text cs) :
      SpellsScalar ('"' :: (text ++ ['"'])) (.string (String.ofList cs))
  | number {text : List Char} {parts : NumberParts} {v : Json} (h : SpellsNumber text parts)
      (hv : ofNumberParts? parts = some v) : SpellsScalar text v

/-- A value whose items or members are spelled by what is `inside`. -/
inductive SpellsValue (inside : List Char → Json → Prop) : List Char → Json → Prop where
  | scalar {text : List Char} {v : Json} (h : SpellsScalar text v) : SpellsValue inside text v
  | array {text : List Char} {items : List Json} (h : SpellsList inside text items) :
      SpellsValue inside ('[' :: (text ++ [']'])) (.array items)
  | object {text : List Char} {members : List (String × Json)}
      (h : SpellsList (SpellsMember inside) text members) :
      SpellsValue inside ('\x7b' :: (text ++ ['\x7d'])) (.object members)

/-- The text spells the value, in which arrays and objects nest at most so deep. -/
def Spells : (depth : Nat) → List Char → Json → Prop
  | 0 => SpellsScalar
  | depth + 1 => SpellsValue (Spells depth)

/-- The text is a document of the value, within the limits of the bot. -/
def IsText (text : String) (v : Json) : Prop :=
  ∃ front body back, text.toList = front ++ (body ++ back) ∧ Blank front ∧ Blank back ∧
    Spells depthLimit body v

/-! ## Plain texts -/

/-- Whether a text has no quotes, backslashes and control characters, which need escapes. -/
def isPlain (s : String) : Bool :=
  s.toList.all fun c => c != '"' && c != '\\' && !decide (c < ' ')

theorem spellsChars_of_isPlain {s : String} (h : isPlain s = true) :
    SpellsChars s.toList s.toList := by
  rw [isPlain] at h
  generalize s.toList = text at h
  induction text with
  | nil => exact .nil
  | cons c cs ih =>
    simp only [List.all_cons, Bool.and_eq_true, bne_iff_ne, Bool.not_eq_true',
      decide_eq_false_iff_not] at h
    obtain ⟨⟨⟨hquote, hslash⟩, hcontrol⟩, hcs⟩ := h
    refine .cons (.plain hquote hslash hcontrol) (ih ?_)
    simpa using hcs

/-- A plain text in quotes. -/
theorem spells_of_isPlain {s : String} (h : isPlain s = true) :
    SpellsScalar ('"' :: (s.toList ++ ['"'])) (.string s) := by
  have hstring := SpellsScalar.string (spellsChars_of_isPlain h)
  rwa [String.ofList_toList] at hstring

/-- A member of a plain name, without white space. -/
theorem spellsMember_of_isPlain {spells : List Char → Json → Prop} {name : String} {text : List Char}
    {v : Json} (hname : isPlain name = true) (h : spells text v) :
    SpellsMember spells ('"' :: (name.toList ++ '"' :: ':' :: text)) (name, v) := by
  have hmember : SpellsMember spells ('"' :: (name.toList ++ '"' :: ([] ++ ':' :: ([] ++ text))))
      (String.ofList name.toList, v) :=
    .mk (spellsChars_of_isPlain hname) blank_nil blank_nil h
  rwa [String.ofList_toList] at hmember

/-! ## White space -/

/-- The text does not begin with white space, nor with anything that ends a value. -/
def Begins (text : List Char) : Prop :=
  ∃ c rest, text = c :: rest ∧ isSpace c = false ∧ c ∉ [',', ']', '\x7d']

/-- Nothing follows, or something that ends a number. -/
def Ends (rest : List Char) : Prop :=
  ∀ c ∈ rest.head?, c.isDigit = false ∧ c ∉ ['.', 'e', 'E']

/-- The reader of a part finds it at the start of a text. -/
def Finds (p : PartReader α) (text : List Char) (a : α) (rest : List Char) : Prop :=
  ∃ h, p text = some (a, ⟨rest, h⟩)

theorem skipSpace_append {front : List Char} (hfront : Blank front) (text : List Char) :
    skipSpace (front ++ text) = skipSpace text := by
  induction front with
  | nil => rfl
  | cons c front ih =>
    obtain ⟨hc, hfront⟩ := List.forall_mem_cons.mp hfront
    rw [List.cons_append, skipSpace, List.dropWhile_cons_of_pos hc]
    exact ih hfront

theorem skipSpace_cons {c : Char} (hc : isSpace c = false) (rest : List Char) :
    skipSpace (c :: rest) = c :: rest :=
  List.dropWhile_cons_of_neg (by rw [hc]; exact Bool.false_ne_true)

theorem skipSpace_of_begins {text : List Char} (h : Begins text) (rest : List Char) :
    skipSpace (text ++ rest) = text ++ rest := by
  obtain ⟨c, tail, rfl, hc, -⟩ := h
  exact skipSpace_cons hc _

/-! ## Strings -/

theorem hex4?_append {digits : List Char} {n : Nat} (h : SpellsUnit digits n) (rest : List Char) :
    hex4? (digits ++ rest) = some (n, rest) := by
  cases h with
  | mk ha hb hc hd => simp [hex4?, ha, hb, hc, hd]

theorem escape?_short {letter c : Char} (h : (letter, c) ∈ shortEscapes) (rest : List Char) :
    escape? (letter :: rest) = some (c, rest) := by
  simp only [shortEscapes, List.mem_cons, Prod.mk.injEq, List.not_mem_nil, or_false] at h
  rcases h with ⟨rfl, rfl⟩ | ⟨rfl, rfl⟩ | ⟨rfl, rfl⟩ | ⟨rfl, rfl⟩ | ⟨rfl, rfl⟩ | ⟨rfl, rfl⟩ |
    ⟨rfl, rfl⟩ | ⟨rfl, rfl⟩ <;> rfl

theorem escape?_unit {digits : List Char} {n : Nat} (h : SpellsUnit digits n)
    (hn : n < 0xD800 ∨ 0xE000 ≤ n) (rest : List Char) :
    escape? ('u' :: (digits ++ rest)) = some (Char.ofNat n, rest) := by
  have hhigh : ¬ (0xD800 ≤ n ∧ n < 0xDC00) := by omega
  have hlow : ¬ (0xDC00 ≤ n ∧ n < 0xE000) := by omega
  simp only [escape?, unicodeEscape?, hex4?_append h, Option.bind_eq_bind, Option.bind_some,
    if_neg hhigh, if_neg hlow]
  rfl

theorem escape?_pair {digits digits' : List Char} {high low : Nat} (hhigh : SpellsUnit digits high)
    (hlow : SpellsUnit digits' low) (hh : 0xD800 ≤ high ∧ high < 0xDC00)
    (hl : 0xDC00 ≤ low ∧ low < 0xE000) (rest : List Char) :
    escape? ('u' :: (digits ++ '\\' :: 'u' :: (digits' ++ rest))) =
      some (Char.ofNat (0x10000 + 0x400 * (high - 0xD800) + (low - 0xDC00)), rest) := by
  simp only [escape?, unicodeEscape?, hex4?_append hhigh, hex4?_append hlow, Option.bind_eq_bind,
    Option.bind_some, if_pos hh, if_pos hl]
  rfl

/-- A character in front of what the reader of a string finds. -/
theorem stringTail_plain {c : Char} (hquote : c ≠ '"') (hslash : c ≠ '\\') (hcontrol : ¬ c < ' ')
    {text cs rest : List Char} (h : Finds stringTail text cs rest) :
    Finds stringTail (c :: text) (c :: cs) rest := by
  obtain ⟨hlength, htext⟩ := h
  refine ⟨Nat.lt_succ_of_lt hlength, ?_⟩
  rw [stringTail]
  · simp only [if_neg hcontrol, htext]
  · exact hquote
  · exact hslash

/-- An escape in front of it. -/
theorem stringTail_escape (escaped : List Char) {text cs rest : List Char} {c : Char}
    (hescape : escape? (escaped ++ text) = some (c, text)) (h : Finds stringTail text cs rest) :
    Finds stringTail ('\\' :: (escaped ++ text)) (c :: cs) rest := by
  obtain ⟨hlength, htext⟩ := h
  refine ⟨by simp only [List.length_cons, List.length_append]; omega, ?_⟩
  rw [stringTail]
  split
  · next hnone =>
    rw [hnone] at hescape
    cases hescape
  · next c' left hsome =>
    rw [hsome] at hescape
    cases hescape
    simp only [htext]

theorem stringTail_finds {text cs : List Char} (h : SpellsChars text cs) (rest : List Char) :
    Finds stringTail (text ++ '"' :: rest) cs rest := by
  -- one step of the reader for each character that is spelled
  induction h with
  | nil =>
    rw [List.nil_append]
    exact ⟨Nat.lt_succ_self _, by rw [stringTail]⟩
  | cons hc _ ih =>
    rw [List.append_assoc]
    cases hc with
    | plain hquote hslash hcontrol => exact stringTail_plain hquote hslash hcontrol ih
    | @short letter c hshort => exact stringTail_escape [letter] (escape?_short hshort _) ih
    | @unit digits n hunit hn => exact stringTail_escape ('u' :: digits) (escape?_unit hunit hn _) ih
    | @pair digits digits' high low hhigh hlow hh hl =>
      refine stringTail_escape ('u' :: (digits ++ '\\' :: 'u' :: digits')) ?_ ih
      have hpair := escape?_pair hhigh hlow hh hl
      simpa using hpair _

/-! ## Numbers -/

theorem digits1?_append {ds rest : List Char} (h : IsDigits ds)
    (hrest : ∀ c ∈ rest.head?, c.isDigit = false) : digits1? (ds ++ rest) = some (ds, rest) := by
  have htake := Text.takeWhile_run h.2 hrest
  have hdrop := Text.dropWhile_run h.2 hrest
  obtain ⟨d, ds, rfl⟩ := List.exists_cons_of_ne_nil h.1
  simp only [digits1?, htake, hdrop]

theorem exponent?_append {text : List Char} {exponent : Option Int}
    (h : SpellsExponent text exponent) {rest : List Char} (hrest : Ends rest) :
    exponent? (text ++ rest) = some (exponent, rest) := by
  have hdigit : ∀ c ∈ rest.head?, c.isDigit = false := fun c hc => (hrest c hc).1
  cases h with
  | absent =>
    -- what follows a number does not look like an exponent
    cases rest with
    | nil => rfl
    | cons c rest =>
      have hc : ¬ (c = 'e' ∨ c = 'E') := by
        have hends := (hrest c rfl).2
        simp only [List.mem_cons, List.not_mem_nil, or_false, not_or] at hends
        rintro (rfl | rfl)
        · exact hends.2.1 rfl
        · exact hends.2.2 rfl
      simp only [List.nil_append, exponent?, if_neg hc]
  | @bare e ds he hds =>
    have hdigits := digits1?_append hds hdigit
    obtain ⟨d, ds, rfl⟩ := List.exists_cons_of_ne_nil hds.1
    have hd := hds.2 d List.mem_cons_self
    simp only [List.cons_append, exponent?, if_pos he] at hdigits ⊢
    -- the first digit is no sign
    split
    · next heq => cases heq; simp at hd
    · next heq => cases heq; simp at hd
    · rw [hdigits]; rfl
  | plus he hds =>
    simp only [List.cons_append, exponent?, if_pos he, digits1?_append hds hdigit]
    rfl
  | minus he hds =>
    simp only [List.cons_append, exponent?, if_pos he, digits1?_append hds hdigit]
    rfl

theorem fraction?_append {text : List Char} {fraction : Option (List Char)}
    (h : SpellsFraction text fraction) {rest : List Char}
    (hrest : ∀ c ∈ rest.head?, c.isDigit = false ∧ c ≠ '.') :
    fraction? (text ++ rest) = some (fraction, rest) := by
  cases h with
  | absent =>
    rw [List.nil_append]
    unfold fraction?
    split
    · next rest' => exact ((hrest '.' rfl).2 rfl).elim
    · rfl
  | digits hds =>
    simp only [List.cons_append, fraction?, digits1?_append hds fun c hc => (hrest c hc).1]
    rfl

theorem whole?_append {ds : List Char} (h : IsDigits ds) (hzero : ds.head? = some '0' → ds = ['0'])
    {rest : List Char} (hrest : ∀ c ∈ rest.head?, c.isDigit = false) :
    whole? (ds ++ rest) = some (ds, rest) := by
  have hleading : ¬ (ds.head? = some '0' ∧ ds.length ≠ 1) := by
    rintro ⟨hhead, hlength⟩
    rw [hzero hhead] at hlength
    exact hlength rfl
  simp only [whole?, digits1?_append h hrest, Option.bind_eq_bind, Option.bind_some,
    if_neg hleading]

theorem ends_of_exponent {text : List Char} {exponent : Option Int}
    (h : SpellsExponent text exponent) {rest : List Char} (hrest : Ends rest) :
    ∀ c ∈ (text ++ rest).head?, c.isDigit = false ∧ c ≠ '.' := by
  have hmark : ∀ {e : Char}, e = 'e' ∨ e = 'E' → e.isDigit = false ∧ e ≠ '.' := by
    rintro e (rfl | rfl) <;> decide
  intro c hc
  cases h with
  | absent =>
    obtain ⟨hdigit, hmarks⟩ := hrest c hc
    exact ⟨hdigit, fun hdot => hmarks (by rw [hdot]; exact List.mem_cons_self)⟩
  | bare he | plus he | minus he =>
    cases hc
    exact hmark he

theorem ends_of_fraction {text : List Char} {fraction : Option (List Char)}
    (h : SpellsFraction text fraction) {rest : List Char}
    (hrest : ∀ c ∈ rest.head?, c.isDigit = false ∧ c ≠ '.') :
    ∀ c ∈ (text ++ rest).head?, c.isDigit = false := by
  intro c hc
  cases h with
  | absent => exact (hrest c hc).1
  | digits =>
    cases hc
    rfl

theorem minus_append {sign whole : List Char} {negative : Bool}
    (hsign : sign = if negative then ['-'] else []) (hwhole : IsDigits whole) (rest : List Char) :
    minus (sign ++ (whole ++ rest)) = (negative, whole ++ rest) := by
  subst hsign
  cases negative with
  | true => rfl
  | false =>
    obtain ⟨d, ds, rfl⟩ := List.exists_cons_of_ne_nil hwhole.1
    have hd := hwhole.2 d List.mem_cons_self
    simp only [Bool.false_eq_true, if_false, List.nil_append, List.cons_append]
    unfold minus
    split
    · next heq =>
      -- a digit is no sign
      cases heq
      cases hd
    · rfl

theorem numberParts?_append {text : List Char} {parts : NumberParts} (h : SpellsNumber text parts)
    {rest : List Char} (hrest : Ends rest) :
    numberParts? (text ++ rest) = some (parts, rest) := by
  cases h with
  | mk hsign hwhole hzero hfraction hexponent =>
    -- from the back: each part ends where the next one begins
    have hexponent' := ends_of_exponent hexponent hrest
    have hfraction' := ends_of_fraction hfraction hexponent'
    simp only [List.append_assoc, numberParts?, minus_append hsign hwhole,
      whole?_append hwhole hzero hfraction', fraction?_append hfraction hexponent',
      exponent?_append hexponent hrest, Option.bind_eq_bind, Option.bind_some]
    rfl

theorem number_finds {text : List Char} {parts : NumberParts} {v : Json}
    (h : SpellsNumber text parts) (hv : ofNumberParts? parts = some v) {rest : List Char}
    (hrest : Ends rest) : Finds number (text ++ rest) v rest := by
  have hparts := numberParts?_append h hrest
  refine ⟨length_of_numberParts? hparts, ?_⟩
  unfold number
  split
  · next hnone =>
    rw [hparts] at hnone
    cases hnone
  · next parts' rest' hsome =>
    rw [hparts] at hsome
    cases hsome
    rw [hv]
    rfl

/-! ## Lists -/

theorem ends_cons {c : Char} (hc : c.isDigit = false) (hmarks : c ∉ ['.', 'e', 'E'])
    (rest : List Char) : Ends (c :: rest) := by
  rintro _ ⟨⟩
  exact ⟨hc, hmarks⟩

theorem ends_append {back rest : List Char} (hback : Blank back) (hrest : Ends rest) :
    Ends (back ++ rest) := by
  cases back with
  | nil => exact hrest
  | cons c back =>
    have hc := hback c List.mem_cons_self
    simp only [isSpace, Bool.or_eq_true, decide_eq_true_eq] at hc
    rcases hc with ((rfl | rfl) | rfl) | rfl <;> exact ends_cons (by decide) (by decide) _

/-- What is known of the texts of an item and their reader. -/
structure Readable (spells : List Char → α → Prop) (p : PartReader α) : Prop where
  begins : ∀ {text a}, spells text a → Begins text
  finds : ∀ {text a}, spells text a → ∀ {rest}, Ends rest → Finds p (text ++ rest) a rest

variable {spells : List Char → α → Prop} {item : PartReader α} {close : Char}

/-- The last item, up to the closing character. -/
theorem itemsTail_last {cs left rest : List Char} {a : α} (h : Finds item (skipSpace cs) a left)
    (hleft : skipSpace left = close :: rest) : Finds (itemsTail item close) cs [a] rest := by
  obtain ⟨hlength, hitem⟩ := h
  have hle := length_skipSpace_le cs
  have hle' := length_skipSpace_le left
  rw [hleft, List.length_cons] at hle'
  refine ⟨by omega, ?_⟩
  unfold itemsTail
  simp only [hitem]
  split
  · next hnil =>
    rw [hleft] at hnil
    cases hnil
  · next c rest' hcons =>
    rw [hleft] at hcons
    cases hcons
    rw [if_pos rfl]

/-- An item that a comma follows. -/
theorem itemsTail_cons {cs left more rest : List Char} {a : α} {as : List α} (hclose : ',' ≠ close)
    (h : Finds item (skipSpace cs) a left) (hleft : skipSpace left = ',' :: more)
    (hmore : Finds (itemsTail item close) more as rest) :
    Finds (itemsTail item close) cs (a :: as) rest := by
  obtain ⟨hlength, hitem⟩ := h
  obtain ⟨hlength', hitems⟩ := hmore
  have hle := length_skipSpace_le cs
  have hle' := length_skipSpace_le left
  rw [hleft, List.length_cons] at hle'
  refine ⟨by omega, ?_⟩
  rw [itemsTail]
  simp only [hitem]
  split
  · next hnil =>
    rw [hleft] at hnil
    cases hnil
  · next c rest' hcons =>
    rw [hleft] at hcons
    cases hcons
    rw [if_neg hclose, if_pos rfl]
    simp only [hitems]

/-- The reader of an item finds it behind white space. -/
theorem Readable.finds_skipSpace (hreadable : Readable spells item) {front text : List Char} {a : α}
    (hfront : Blank front) (h : spells text a) {rest : List Char} (hrest : Ends rest) :
    Finds item (skipSpace (front ++ (text ++ rest))) a rest := by
  rw [skipSpace_append hfront, skipSpace_of_begins (hreadable.begins h)]
  exact hreadable.finds h hrest

theorem itemsTail_finds (hreadable : Readable spells item) (hclose : close = ']' ∨ close = '\x7d')
    {text : List Char} {as : List α} (h : SpellsItems spells text as) (rest : List Char) :
    Finds (itemsTail item close) (text ++ close :: rest) as rest := by
  have hspace : isSpace close = false := by rcases hclose with rfl | rfl <;> rfl
  have hends : Ends (close :: rest) := by
    rcases hclose with rfl | rfl <;> exact ends_cons (by decide) (by decide) _
  -- white space in front of an item is skipped before it, and behind it after it
  induction h with
  | @last front text back a hfront h hback =>
    rw [List.append_assoc, List.append_assoc]
    refine itemsTail_last (hreadable.finds_skipSpace hfront h (ends_append hback hends)) ?_
    rw [skipSpace_append hback, skipSpace_cons hspace]
  | @cons front text back more a as hfront h hback _ ih =>
    have hcomma : ',' ≠ close := by rcases hclose with rfl | rfl <;> decide
    have hends' : Ends (',' :: (more ++ close :: rest)) := ends_cons (by decide) (by decide) _
    rw [List.append_assoc, List.append_assoc, List.append_assoc, List.cons_append]
    refine itemsTail_cons hcomma (hreadable.finds_skipSpace hfront h (ends_append hback hends')) ?_ ih
    rw [skipSpace_append hback, skipSpace_cons rfl]

/-- The first item does not look like the end of the list. -/
theorem exists_first (hreadable : Readable spells item) {text : List Char} {as : List α}
    (h : SpellsItems spells text as) (rest : List Char) :
    ∃ c more, skipSpace (text ++ rest) = c :: more ∧ c ∉ [',', ']', '\x7d'] := by
  have hfirst : ∃ front body more a, text = front ++ (body ++ more) ∧ Blank front ∧
      spells body a := by
    cases h with
    | last hfront h hback => exact ⟨_, _, _, _, rfl, hfront, h⟩
    | cons hfront h hback hrest => exact ⟨_, _, _, _, rfl, hfront, h⟩
  obtain ⟨front, body, more, a, rfl, hfront, hbody⟩ := hfirst
  have hbegins := hreadable.begins hbody
  rw [List.append_assoc, List.append_assoc, skipSpace_append hfront, skipSpace_of_begins hbegins]
  obtain ⟨c, tail, rfl, -, hc⟩ := hbegins
  exact ⟨c, _, rfl, hc⟩

theorem items_finds (hreadable : Readable spells item) (hclose : close = ']' ∨ close = '\x7d')
    {text : List Char} {as : List α} (h : SpellsList spells text as) (rest : List Char) :
    Finds (items item close) (text ++ close :: rest) as rest := by
  have hspace : isSpace close = false := by rcases hclose with rfl | rfl <;> rfl
  cases h with
  | nil hblank =>
    -- the closing character comes first
    have hskip : skipSpace (text ++ close :: rest) = close :: rest := by
      rw [skipSpace_append hblank, skipSpace_cons hspace]
    refine ⟨by rw [List.length_append, List.length_cons]; omega, ?_⟩
    unfold items
    split
    · next hnil =>
      rw [hskip] at hnil
      cases hnil
    · next c rest' hcons =>
      rw [hskip] at hcons
      cases hcons
      rw [if_pos rfl]
  | items h =>
    obtain ⟨hlength, htail⟩ := itemsTail_finds hreadable hclose h rest
    refine ⟨hlength, ?_⟩
    obtain ⟨c, more, hskip, hfirst⟩ := exists_first hreadable h (close :: rest)
    have hc : c ≠ close := by
      rintro rfl
      rcases hclose with rfl | rfl <;> exact hfirst (by decide)
    unfold items
    split
    · next hnil =>
      rw [hskip] at hnil
      cases hnil
    · next c' rest' hcons =>
      rw [hskip] at hcons
      cases hcons
      rw [if_neg hc, htail]

/-! ## Values -/

theorem member_of_parts {value : PartReader Json} {cs name left more rest : List Char} {v : Json}
    (hname : Finds stringTail cs name left) (hleft : skipSpace left = ':' :: more)
    (hvalue : Finds value (skipSpace more) v rest) :
    Finds (member value) ('"' :: cs) (String.ofList name, v) rest := by
  obtain ⟨hlength, hname⟩ := hname
  obtain ⟨hlength', hvalue⟩ := hvalue
  have hle := length_skipSpace_le left
  have hle' := length_skipSpace_le more
  rw [hleft, List.length_cons] at hle
  refine ⟨by rw [List.length_cons]; omega, ?_⟩
  unfold member
  simp only [hname]
  split
  · next rest' hcolon =>
    rw [hleft] at hcolon
    cases hcolon
    simp only [hvalue]
  · next hnone => exact (hnone _ hleft).elim

theorem member_readable {value : PartReader Json} {spells : List Char → Json → Prop}
    (hreadable : Readable spells value) : Readable (SpellsMember spells) (member value) where
  begins := by
    rintro text a ⟨⟩
    exact ⟨_, _, rfl, rfl, by decide⟩
  finds := by
    rintro text a ⟨hname, hfront, hback, h⟩ rest hrest
    simp only [List.cons_append, List.append_assoc]
    refine member_of_parts (stringTail_finds hname _) ?_ (hreadable.finds_skipSpace hback h hrest)
    rw [skipSpace_append hfront, skipSpace_cons rfl]

/-- A character that may begin a number is none that does not. -/
theorem ne_of_digit {c : Char} (hc : c = '-' ∨ c.isDigit = true) {d : Char} (hminus : d ≠ '-')
    (hdigit : d.isDigit = false) : c ≠ d := by
  rintro rfl
  rcases hc with rfl | hc
  · exact hminus rfl
  · rw [hdigit] at hc
    cases hc

theorem begins_of_digit {c : Char} (hc : c = '-' ∨ c.isDigit = true) (rest : List Char) :
    Begins (c :: rest) := by
  refine ⟨c, rest, rfl, ?_, ?_⟩
  · simp only [isSpace, Bool.or_eq_false_iff, decide_eq_false_iff_not]
    refine ⟨⟨⟨?_, ?_⟩, ?_⟩, ?_⟩ <;> exact ne_of_digit hc (by decide) rfl
  · simp only [List.mem_cons, List.not_mem_nil, or_false, not_or]
    refine ⟨?_, ?_, ?_⟩ <;> exact ne_of_digit hc (by decide) rfl

/-- A number literal begins with a sign or a digit. -/
theorem SpellsNumber.exists_first {text : List Char} {parts : NumberParts}
    (h : SpellsNumber text parts) :
    ∃ c rest, text = c :: rest ∧ (c = '-' ∨ c.isDigit = true) := by
  cases h with
  | @mk _ whole _ _ negative _ _ hsign hwhole _ _ _ =>
    subst hsign
    cases negative with
    | true => exact ⟨_, _, rfl, Or.inl rfl⟩
    | false =>
      obtain ⟨d, ds, rfl⟩ := List.exists_cons_of_ne_nil hwhole.1
      exact ⟨_, _, rfl, Or.inr (hwhole.2 d List.mem_cons_self)⟩

/-- What begins like a number is read as one. -/
theorem value_eq_number (depth : Nat) {c : Char} (hc : c = '-' ∨ c.isDigit = true)
    (rest : List Char) : value depth (c :: rest) = number (c :: rest) := by
  rw [value]
  case x_3 | x_4 | x_5 | x_6 =>
    intro rest' heq
    exact ne_of_digit hc (by decide) rfl (List.cons.inj heq).1
  case x_7 | x_8 =>
    intro depth' rest' _ heq
    exact ne_of_digit hc (by decide) rfl (List.cons.inj heq).1

theorem scalar_readable (depth : Nat) : Readable SpellsScalar (value depth) where
  begins := by
    rintro text v h
    cases h with
    | null | true | false | string => exact ⟨_, _, rfl, rfl, by decide⟩
    | number h hv =>
      obtain ⟨c, rest, rfl, hc⟩ := h.exists_first
      exact begins_of_digit hc rest
  finds := by
    rintro text v h rest hrest
    cases h with
    | null | true | false =>
      refine ⟨by simp only [List.length_append, List.length_cons]; omega, ?_⟩
      unfold value
      rfl
    | string h =>
      obtain ⟨hlength, hstring⟩ := stringTail_finds h rest
      simp only [List.cons_append, List.append_assoc, List.nil_append]
      refine ⟨Nat.lt_succ_of_lt hlength, ?_⟩
      unfold value
      simp only [hstring]
      rfl
    | number h hv =>
      obtain ⟨hlength, hnumber⟩ := number_finds h hv hrest
      obtain ⟨c, tail, rfl, hc⟩ := h.exists_first
      refine ⟨hlength, ?_⟩
      rw [← hnumber]
      exact value_eq_number depth hc _

/-- The reader of values goes as deep as the grammar does. -/
theorem value_readable (depth : Nat) : Readable (Spells depth) (value depth) := by
  induction depth with
  | zero => exact scalar_readable 0
  | succ depth ih =>
    -- the items of a list are values of one level below
    constructor
    · rintro text v h
      cases h with
      | scalar h => exact (scalar_readable (depth + 1)).begins h
      | array h | object h => exact ⟨_, _, rfl, rfl, by decide⟩
    · rintro text v h rest hrest
      cases h with
      | scalar h => exact (scalar_readable (depth + 1)).finds h hrest
      | array h =>
        obtain ⟨hlength, hitems⟩ := items_finds ih (Or.inl rfl) h rest
        simp only [List.cons_append, List.append_assoc, List.nil_append]
        refine ⟨Nat.lt_succ_of_lt hlength, ?_⟩
        rw [value, hitems]
        rfl
      | object h =>
        obtain ⟨hlength, hitems⟩ := items_finds (member_readable ih) (Or.inr rfl) h rest
        simp only [List.cons_append, List.append_assoc, List.nil_append]
        refine ⟨Nat.lt_succ_of_lt hlength, ?_⟩
        rw [value, hitems]
        rfl

/-- The reader finds the value of every document. -/
theorem ofText?_of_isText {text : String} {v : Json} (h : IsText text v) :
    ofText? text = some v := by
  obtain ⟨front, body, back, htext, hfront, hback, hbody⟩ := h
  have hends : Ends back := by
    have hnil : Ends [] := nofun
    have happend := ends_append hback hnil
    rwa [List.append_nil] at happend
  obtain ⟨hlength, hvalue⟩ :=
    (value_readable depthLimit).finds_skipSpace hfront hbody hends
  have hrest : skipSpace back = [] := by
    have happend := skipSpace_append hback []
    rwa [List.append_nil] at happend
  rw [ofText?, read?, htext, hvalue]
  simp only [hrest, if_true]

end Herald.Json
