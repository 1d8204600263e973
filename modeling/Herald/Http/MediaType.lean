/-!
# Media types

A response tells what its body is by a type, a subtype and parameters, as in
`text/html; charset="utf-8"`. The names are tokens, and the value of a parameter is a token or stands in
quotes. Spaces are allowed in front of a parameter and behind a value in quotes, and nowhere else
inside. Main fact: reading a value leaves less of the text (`length_of_value?`).
-/

namespace Herald.Http

/-- What the body of a response is. -/
structure MediaType where
  type : String
  subtype : String
  parameters : List (String × String)
  deriving Repr, DecidableEq

namespace MediaType

/-- A character of a name or of a value without quotes. -/
def isToken (c : Char) : Bool :=
  c.isAlphanum || "!#$%&'*+-.^_`|~".toList.contains c

/-- A character that may stand in quotes. -/
def isQuotable (c : Char) : Bool :=
  ' ' ≤ c && c ≤ '~'

/-- Reads a value up to the closing quote. It has at least one character, which may be a quote. -/
def quoted? : List Char → Option (List Char × List Char)
  | [] => none
  | c :: rest =>
    let value := c :: rest.takeWhile (· ≠ '"')
    match rest.dropWhile (· ≠ '"') with
    | [] => none
    | _ :: behind => if value.all isQuotable then some (value, behind) else none

/-- Reads a value and the semicolon behind it; the last value has none. -/
def value? : List Char → Option (List Char × List Char)
  | '"' :: text => do
    let (value, behind) ← quoted? text
    match behind.dropWhile (· = ' ') with
    | [] => some (value, [])
    | c :: rest => if c = ';' then some (value, rest) else none
  | text =>
    let value := text.takeWhile isToken
    match text.dropWhile isToken with
    | [] => some (value, [])
    | c :: rest => if c = ';' ∧ !value.isEmpty then some (value, rest) else none

theorem length_of_quoted? {text value rest : List Char} (h : quoted? text = some (value, rest)) :
    rest.length < text.length := by
  cases text with
  | nil => cases h
  | cons c cs =>
    have hs := (List.dropWhile_sublist (fun c => decide (c ≠ '"')) (l := cs)).length_le
    simp only [quoted?] at h
    split at h
    · cases h
    · next hd =>
      rw [hd] at hs
      split at h
      · obtain ⟨-, rfl⟩ := Prod.mk.inj (Option.some.inj h)
        exact Nat.lt_of_succ_le (Nat.le_succ_of_le hs)
      · cases h

/-- Reading a value leaves less of the text, or nothing. -/
theorem length_of_value? {text value rest : List Char} (h : value? text = some (value, rest)) :
    rest.length ≤ text.length := by
  unfold value? at h
  split at h
  · next cs =>
    obtain ⟨⟨v, behind⟩, hq, h⟩ := Option.bind_eq_some_iff.1 h
    have hq := length_of_quoted? hq
    have hs := (List.dropWhile_sublist (fun c => decide (c = ' ')) (l := behind)).length_le
    dsimp only at h
    split at h
    · obtain ⟨-, rfl⟩ := Prod.mk.inj (Option.some.inj h)
      exact Nat.zero_le _
    · next hd =>
      rw [hd, List.length_cons] at hs
      split at h
      · obtain ⟨-, rfl⟩ := Prod.mk.inj (Option.some.inj h)
        rw [List.length_cons]
        omega
      · cases h
  · have hs := (List.dropWhile_sublist isToken (l := text)).length_le
    dsimp only at h
    split at h
    · obtain ⟨-, rfl⟩ := Prod.mk.inj (Option.some.inj h)
      exact Nat.zero_le _
    · next hd =>
      rw [hd, List.length_cons] at hs
      split at h
      · obtain ⟨-, rfl⟩ := Prod.mk.inj (Option.some.inj h)
        omega
      · cases h

/-- Reads parameters up to the end of the text. -/
def parameters? (text : List Char) : Option (List (String × String)) :=
  let inner := text.dropWhile (· = ' ')
  let name := inner.takeWhile isToken
  if inner.isEmpty then some []
  else if name.isEmpty then none
  else
    match hn : inner.dropWhile isToken with
    | '=' :: rest =>
      match hv : value? rest with
      | none => none
      | some (value, behind) =>
        have : behind.length < text.length := by
          have h₁ : inner.length ≤ text.length := (List.dropWhile_sublist _).length_le
          have h₂ := (List.dropWhile_sublist isToken (l := inner)).length_le
          have h₃ := length_of_value? hv
          rw [hn, List.length_cons] at h₂
          omega
        (parameters? behind).map ((String.ofList name, String.ofList value) :: ·)
    | _ => none
  termination_by text.length

/-- A text without the spaces and tabs around it. -/
def trimmed (text : List Char) : List Char :=
  let isBlank (c : Char) : Bool := c = ' ' || c = '\t'
  ((text.dropWhile isBlank).reverse.dropWhile isBlank).reverse

/-- Reads a media type. -/
def parse? (text : String) : Option MediaType :=
  let text := trimmed text.toList
  let type := text.takeWhile isToken
  match text.dropWhile isToken with
  | [] => none
  | c :: rest =>
    if c = '/' ∧ !type.isEmpty then
      let subtype := rest.takeWhile isToken
      let named (parameters : List (String × String)) : MediaType :=
        ⟨String.ofList type, String.ofList subtype, parameters⟩
      match rest.dropWhile isToken with
      | [] => some (named [])
      | c :: rest => if c = ';' ∧ !subtype.isEmpty then (parameters? rest).map named else none
    else none

/-- The label of the character set that a media type names first. -/
def charset? (m : MediaType) : Option String :=
  (m.parameters.find? fun (name, _) => name.toLower = "charset").map (·.2)

end MediaType

end Herald.Http
