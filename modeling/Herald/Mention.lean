/-!
# Mentions

A mention is `<@id>` or `<@id|label>`, where the id is `U` or `W` and eight or more capital letters
and digits, and the label is free of `>`. In a text the first mention counts.
-/

namespace Herald.Mention

/-- A character of an id behind its first letter. -/
def isIdChar (c : Char) : Bool :=
  ('A' ≤ c && c ≤ 'Z') || ('0' ≤ c && c ≤ '9')

/-- Whether a text closes a mention: at once, or after a label. -/
def closes : List Char → Bool
  | '>' :: _ => true
  | '|' :: rest => rest.contains '>'
  | _ => false

/-- The id of a mention at the start of a text. -/
def atStart? : List Char → Option (List Char)
  | '<' :: '@' :: c :: rest =>
    let run := rest.takeWhile isIdChar
    if (c = 'U' ∨ c = 'W') ∧ 8 ≤ run.length ∧ closes (rest.dropWhile isIdChar) then some (c :: run)
    else none
  | _ => none

/-- The id of the first mention in a text. -/
def first? : List Char → Option (List Char)
  | [] => none
  | c :: rest => (atStart? (c :: rest)).or (first? rest)

/-- The user that a text mentions first. -/
def user? (text : String) : Option String :=
  (first? text.toList).map String.ofList

end Herald.Mention
