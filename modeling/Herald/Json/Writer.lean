import Herald.Json.Basic

/-!
# Writing JSON

`Json.toText` writes a value without white space. Quotes, backslashes and control characters are
escaped; every other character stands for itself.
-/

namespace Herald.Json

/-- The digit for a value below sixteen, in lower case. -/
def lowerHexDigit (n : Nat) : Char :=
  Char.ofNat (if n < 10 then 48 + n else 87 + n)

/-- A character as it is written inside a string. -/
def writeChar (c : Char) : List Char :=
  if c = '"' then ['\\', '"']
  else if c = '\\' then ['\\', '\\']
  else if c = '\n' then ['\\', 'n']
  else if c = '\r' then ['\\', 'r']
  else if c = '\t' then ['\\', 't']
  else if c = '\x08' then ['\\', 'b']
  else if c = '\x0c' then ['\\', 'f']
  else if c < ' ' then
    ['\\', 'u', '0', '0', lowerHexDigit (c.toNat / 16), lowerHexDigit (c.toNat % 16)]
  else [c]

/-- A text in quotes. -/
def writeString (s : String) : List Char :=
  '"' :: s.toList.flatMap writeChar ++ ['"']

/-- A number literal from its parts. -/
def writeNumber (parts : NumberParts) : List Char :=
  (if parts.negative then ['-'] else []) ++ parts.whole ++
    (match parts.fraction with
      | some digits => '.' :: digits
      | none => []) ++
    (match parts.exponent with
      | some n => 'e' :: (toString n).toList
      | none => [])

mutual

/-- A value as text. -/
def write : Json → List Char
  | .null => "null".toList
  | .bool b => if b then "true".toList else "false".toList
  | .integer n => (toString n).toList
  | .decimal parts => writeNumber parts
  | .string s => writeString s
  | .array items => '[' :: writeItems items ++ [']']
  | .object members => '{' :: writeMembers members ++ ['}']

/-- The items of an array, separated by commas. -/
def writeItems : List Json → List Char
  | [] => []
  | [item] => write item
  | item :: rest => write item ++ ',' :: writeItems rest

/-- The members of an object, separated by commas. -/
def writeMembers : List (String × Json) → List Char
  | [] => []
  | [(name, value)] => writeString name ++ ':' :: write value
  | (name, value) :: rest => writeString name ++ ':' :: write value ++ ',' :: writeMembers rest

end

/-- A value as text, without white space. -/
def toText (value : Json) : String :=
  String.ofList (write value)

end Herald.Json
