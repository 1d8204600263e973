import Herald.Text.Digits
import Herald.Text.Occurrence
import Herald.Text.Split

/-!
# The command language

A command is a message of the form `$ <name> [<argument>...] [-c <count>]`, which may follow the
words of a reminder. Reading goes in four steps:

1. `trim` drops one period at the end and squeezes runs of spaces; `tokenize` splits at spaces;
2. `stripReminder` drops the words of a reminder at the start;
3. the trigger has to come next;
4. `extractCount` takes out the flag and the count that follows it.

`Command.spelling` is the canonical text of a command.
-/

namespace Herald

/-- A command for the bot. -/
structure Command where
  /-- The text that it was read from. -/
  input : String
  name : String
  args : List String
  /-- How often to run it, at least once. -/
  runs : UInt32
  deriving Repr, DecidableEq

namespace Command

/-- The word that a command starts with. -/
def trigger : String := "$"

/-- A token that holds this text somewhere is the flag before a count. -/
def countFlag : String := "-c"

/-- The text without one period at its end. -/
def dropPeriod (text : List Char) : List Char :=
  if text.getLast? = some '.' then text.dropLast else text

/-- The text with one space for every run of spaces; told whether a space came just before. -/
def squeeze : (afterSpace : Bool) → List Char → List Char
  | _, [] => []
  | afterSpace, c :: rest =>
    if c = ' ' then
      if afterSpace then squeeze true rest else ' ' :: squeeze true rest
    else c :: squeeze false rest

/-- Drops one period at the end and squeezes runs of spaces. -/
def trim (raw : String) : String :=
  String.ofList (squeeze false (dropPeriod raw.toList))

/-- The words of a text, which are separated by spaces. -/
def tokenize (raw : String) : List String :=
  (Text.splitWhere (· = ' ') (trim raw).toList).map String.ofList

/-- Drops the words of a reminder at the start. -/
def stripReminder : List String → List String
  | "Reminder:" :: rest => rest
  | "リマインダー" :: ":" :: rest => rest
  | tokens => tokens

/-- Whether a token is the flag before a count. -/
def isCountFlag (token : String) : Bool :=
  Text.occurs countFlag.toList token.toList

/-- The digits that a count starts with, after one plus sign if there is one. -/
def countDigits (text : List Char) : List Char :=
  match text with
  | '+' :: rest => rest.takeWhile Char.isDigit
  | text => text.takeWhile Char.isDigit

/-- The count that a token gives: the number at its start if that is positive and a word can hold it,
and otherwise 1. -/
def countOf : Option String → UInt32
  | none => 1
  | some token => ((Text.wordOfDigits? (countDigits token.toList)).filter (1 ≤ ·)).getD 1

/-- Takes out the first flag and the count behind it, unless nothing would be left. -/
def extractCount (tokens : List String) : List String × UInt32 :=
  let before := tokens.takeWhile (!isCountFlag ·)
  match tokens.dropWhile (!isCountFlag ·) with
  | [] => (tokens, 1)
  | _ :: behind =>
    let rest := before ++ behind.drop 1
    (if rest.isEmpty then tokens else rest, countOf behind.head?)

/-- Reads the command of a text from its tokens behind the trigger. -/
def ofTokens (input : String) (tokens : List String) : Option Command :=
  if tokens.isEmpty then none
  else
    match extractCount tokens with
    | (name :: args, runs) => some ⟨input, name, args, runs⟩
    | ([], _) => none

/-- Reads a command; a text that is none is not for the bot. -/
def parse (raw : String) : Option Command :=
  match stripReminder (tokenize raw) with
  | first :: rest => if first = trigger then ofTokens raw rest else none
  | [] => none

/-- The canonical text of a command: the count first, then the name and the arguments, and a
period. -/
def spelling (c : Command) : String :=
  trigger ++ " " ++ countFlag ++ " " ++ toString c.runs.toNat ++ " " ++
    " ".intercalate (c.name :: c.args) ++ "."

end Command

end Herald
