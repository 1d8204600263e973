import Herald.Json.Number

/-!
# Reading JSON

`Json.read? depth text` reads a document in the standard grammar, strictly, with nothing but
white space around the one value. Arrays and objects may nest `depth` deep. A reader of a part takes a
text and returns what is left of it, which is shorter; that is what ends the loops over items and
members.
-/

namespace Herald.Json

/-- What is left of a text after something has been read from it. -/
abbrev Rest (cs : List Char) :=
  { rest : List Char // rest.length < cs.length }

/-- Reads a part at the start of a text. -/
abbrev PartReader (α : Type) :=
  (cs : List Char) → Option (α × Rest cs)

/-- The white space of JSON. -/
def isSpace (c : Char) : Bool :=
  c = ' ' || c = '\t' || c = '\n' || c = '\r'

/-- A text without the white space at its start. -/
def skipSpace (cs : List Char) : List Char :=
  cs.dropWhile isSpace

theorem length_skipSpace_le (cs : List Char) : (skipSpace cs).length ≤ cs.length :=
  (List.dropWhile_sublist isSpace).length_le

/-- The value of four hexadecimal digits, and what follows them. -/
def hex4? : List Char → Option (Nat × List Char)
  | a :: b :: c :: d :: rest => do
    let n ← [a, b, c, d].foldlM (fun n c => (Text.hexValue? c).map (16 * n + ·)) 0
    return (n, rest)
  | _ => none

/-- The character of an escape by code unit, given what follows `\u`. A high surrogate has to be
followed by the escape of a low one; a surrogate that stands alone is refused. -/
def unicodeEscape? (cs : List Char) : Option (Char × List Char) := do
  let (unit, rest) ← hex4? cs
  if 0xD800 ≤ unit ∧ unit < 0xDC00 then
    match rest with
    | '\\' :: 'u' :: rest =>
      let (low, rest) ← hex4? rest
      if 0xDC00 ≤ low ∧ low < 0xE000 then
        return (Char.ofNat (0x10000 + 0x400 * (unit - 0xD800) + (low - 0xDC00)), rest)
      else none
    | _ => none
  else if 0xDC00 ≤ unit ∧ unit < 0xE000 then none
  else return (Char.ofNat unit, rest)

/-- The character of an escape, given what follows the backslash. -/
def escape? : List Char → Option (Char × List Char)
  | '"' :: rest => some ('"', rest)
  | '\\' :: rest => some ('\\', rest)
  | '/' :: rest => some ('/', rest)
  | 'b' :: rest => some ('\x08', rest)
  | 'f' :: rest => some ('\x0c', rest)
  | 'n' :: rest => some ('\n', rest)
  | 'r' :: rest => some ('\r', rest)
  | 't' :: rest => some ('\t', rest)
  | 'u' :: rest => unicodeEscape? rest
  | _ => none

theorem length_of_hex4? {cs rest : List Char} {n : Nat} (h : hex4? cs = some (n, rest)) :
    rest.length < cs.length := by
  unfold hex4? at h
  split at h
  · obtain ⟨n', -, h⟩ := Option.bind_eq_some_iff.1 h
    simp only [pure, Option.some.injEq, Prod.mk.injEq] at h
    simp [← h.2]; omega
  · cases h

theorem length_of_unicodeEscape? {cs rest : List Char} {c : Char}
    (h : unicodeEscape? cs = some (c, rest)) : rest.length < cs.length := by
  unfold unicodeEscape? at h
  obtain ⟨⟨unit, r⟩, hr, h⟩ := Option.bind_eq_some_iff.1 h
  have hr := length_of_hex4? hr
  dsimp only at h
  split at h
  · split at h
    · obtain ⟨⟨low, r'⟩, hr', h⟩ := Option.bind_eq_some_iff.1 h
      have hr' := length_of_hex4? hr'
      dsimp only at h
      split at h
      · simp_all; omega
      · cases h
    · cases h
  · split at h
    · cases h
    · simp_all

theorem length_of_escape? {cs rest : List Char} {c : Char} (h : escape? cs = some (c, rest)) :
    rest.length < cs.length := by
  unfold escape? at h
  split at h
  case h_9 => exact Nat.lt_trans (length_of_unicodeEscape? h) (by simp)
  case h_10 => cases h
  all_goals
    obtain ⟨rfl, rfl⟩ := Prod.mk.inj (Option.some.inj h)
    simp

/-- Reads the characters of a string up to the closing quote. Control characters are refused. -/
def stringTail : PartReader (List Char)
  | [] => none
  | '"' :: rest => some ([], ⟨rest, by simp⟩)
  | '\\' :: rest =>
    match h : escape? rest with
    | none => none
    | some (c, left) =>
      have hl := length_of_escape? h
      match stringTail left with
      | none => none
      | some (cs, ⟨rest', h'⟩) => some (c :: cs, ⟨rest', by simp; omega⟩)
  | c :: rest =>
    if c < ' ' then none
    else
      match stringTail rest with
      | none => none
      | some (cs, ⟨rest', h'⟩) => some (c :: cs, ⟨rest', by simp; omega⟩)
  termination_by cs => cs.length
  decreasing_by all_goals simp only [List.length_cons]; omega

/-- Reads items separated by commas up to a closing character. -/
def itemsTail (item : PartReader α) (close : Char) : PartReader (List α) := fun cs =>
  match item (skipSpace cs) with
  | none => none
  | some (a, ⟨left, hl⟩) =>
    have hs := length_skipSpace_le cs
    match h : skipSpace left with
    | [] => none
    | c :: rest =>
      have hr : rest.length + 1 ≤ left.length := by
        have := length_skipSpace_le left; simp_all
      if c = close then some ([a], ⟨rest, by omega⟩)
      else if c = ',' then
        match itemsTail item close rest with
        | none => none
        | some (as, ⟨rest', h'⟩) => some (a :: as, ⟨rest', by omega⟩)
      else none
  termination_by cs => cs.length

/-- Reads items separated by commas, perhaps none, up to a closing character. -/
def items (item : PartReader α) (close : Char) : PartReader (List α) := fun cs =>
  match h : skipSpace cs with
  | [] => none
  | c :: rest =>
    if c = close then
      some ([], ⟨rest, Nat.lt_of_lt_of_le (by simp [h]) (length_skipSpace_le cs)⟩)
    else itemsTail item close cs

/-- Reads a member: a quoted name, a colon and a value. -/
def member (value : PartReader Json) : PartReader (String × Json)
  | '"' :: cs =>
    match stringTail cs with
    | none => none
    | some (name, ⟨left, hl⟩) =>
      match h : skipSpace left with
      | ':' :: rest =>
        have hr : rest.length + 1 ≤ left.length := by
          have := length_skipSpace_le left; simp_all
        have hs := length_skipSpace_le rest
        match value (skipSpace rest) with
        | none => none
        | some (v, ⟨rest', h'⟩) => some ((String.ofList name, v), ⟨rest', by simp; omega⟩)
      | _ => none
  | _ => none

/-- Reads a number. -/
def number : PartReader Json := fun cs =>
  match h : numberParts? cs with
  | none => none
  | some (parts, rest) => (ofNumberParts? parts).map (·, ⟨rest, length_of_numberParts? h⟩)

/-- Reads a value in which arrays and objects nest at most `depth` deep. -/
def value : (depth : Nat) → PartReader Json
  | _, 'n' :: 'u' :: 'l' :: 'l' :: rest => some (.null, ⟨rest, by simp; omega⟩)
  | _, 't' :: 'r' :: 'u' :: 'e' :: rest => some (.bool true, ⟨rest, by simp; omega⟩)
  | _, 'f' :: 'a' :: 'l' :: 's' :: 'e' :: rest => some (.bool false, ⟨rest, by simp; omega⟩)
  | _, '"' :: cs =>
    (stringTail cs).map fun (s, ⟨rest, h⟩) => (.string (String.ofList s), ⟨rest, by simp; omega⟩)
  | depth + 1, '[' :: cs =>
    (items (value depth) ']' cs).map fun (xs, ⟨rest, h⟩) => (.array xs, ⟨rest, by simp; omega⟩)
  | depth + 1, '{' :: cs =>
    (items (member (value depth)) '}' cs).map fun (ms, ⟨rest, h⟩) =>
      (.object ms, ⟨rest, by simp; omega⟩)
  | _, cs => number cs

/-- Reads a document whose arrays and objects nest at most `depth` deep. -/
def read? (depth : Nat) (text : List Char) : Option Json :=
  match value depth (skipSpace text) with
  | some (v, ⟨rest, _⟩) => if skipSpace rest = [] then some v else none
  | none => none

/-- How deep the documents nest that the bot accepts. -/
def depthLimit : Nat := 127

/-- Reads a document from a text. -/
def ofText? (text : String) : Option Json :=
  read? depthLimit text.toList

end Herald.Json
