import Herald.Calendar
import Herald.Toml.Basic
import Herald.Text.Digits
import Herald.Text.Occurrence

/-!
# Reading the parts of TOML

A reader takes the text from its state and fails without a reason. The only loop is `many`, which
goes on while each step takes something from the text. The scalar values follow TOML 1.0: strings
of four kinds, whole numbers in four bases within 64 bits, floats, and dates whose parts are in
range, with leap years.
-/

namespace Herald.Toml

/-- Reads a part of a text. -/
abbrev Reader := StateT (List Char) Option

namespace Reader

/-- Reads one character of a class. -/
def satisfy (p : Char → Bool) : Reader Char
  | c :: rest => if p c then some (c, rest) else none
  | [] => none

/-- Reads one given character. -/
def exactly (c : Char) : Reader Unit := do
  let _ ← satisfy (· = c)

/-- Reads a given word. -/
def word (w : String) : Reader Unit := fun cs =>
  (Text.afterPrefix? w.toList cs).map ((), ·)

/-- Reads all characters of a class that come next. -/
def charsWhile (p : Char → Bool) : Reader (List Char) := fun cs =>
  some (cs.takeWhile p, cs.dropWhile p)

/-- Reads all characters of a class that come next, at least one. -/
def chars1 (p : Char → Bool) : Reader (List Char) := do
  let cs ← charsWhile p
  if cs.isEmpty then failure else return cs

/-- Reads a part if it is there. -/
def maybe (r : Reader α) : Reader (Option α) :=
  (some <$> r) <|> pure none

/-- Succeeds at the end of the text. -/
def ended : Reader Unit := fun cs =>
  if cs.isEmpty then some ((), []) else none

/-- Reads parts for as long as there is one and it takes something from the text. -/
def many (r : Reader α) : Reader (List α) := fun cs =>
  match r cs with
  | none => some ([], cs)
  | some (a, rest) =>
    if rest.length < cs.length then
      (many r rest).map fun (as, rest) => (a :: as, rest)
    else some ([a], rest)
  termination_by cs => cs.length

/-- Reads a part and tells how it is spelled. -/
def spelled (r : Reader α) : Reader String := fun cs =>
  (r cs).map fun (_, rest) => (String.ofList (cs.take (cs.length - rest.length)), rest)

/-- Reads parts with a separator between them, at least one. -/
def separated1 (r : Reader α) (separator : Reader Unit) : Reader (List α) := do
  let a ← r
  let as ← many (do separator; r)
  return a :: as

end Reader

open Reader

/-- Spaces and tabs. -/
def blanks : Reader Unit := do
  let _ ← charsWhile fun c => c = ' ' || c = '\t'

/-- The end of a line. -/
def newline : Reader Unit :=
  exactly '\n' <|> (do exactly '\r'; exactly '\n')

/-- A character that may stand in a comment: no control character but the tab. -/
def isPlain (c : Char) : Bool :=
  c = '\t' || (' ' ≤ c && c ≠ '\x7f')

/-- A comment, up to the end of its line. -/
def comment : Reader Unit := do
  exactly '#'
  let _ ← charsWhile isPlain

/-- Anything that may stand between the items of an array. -/
def gap : Reader Unit := do
  let _ ← many ((do let _ ← satisfy fun c => c = ' ' || c = '\t') <|> newline <|> (do comment; newline))

/-- The value of a digit in a base up to sixteen. -/
def digitIn (base : Nat) : Reader Nat := fun cs => do
  let (c, rest) ← satisfy Char.isAlphanum cs
  let n := if c.isDigit then c.toNat - 48 else c.toLower.toNat - 87
  if n < base then some (n, rest) else none

/-- The number that digits of a base denote. -/
def ofDigits (base : Nat) (digits : List Nat) : Nat :=
  digits.foldl (fun n d => base * n + d) 0

/-- A character given by a fixed count of hexadecimal digits. -/
def codePoint (count : Nat) : Reader Char := do
  let digits ← (List.replicate count ()).mapM fun _ => digitIn 16
  let n := ofDigits 16 digits
  if n.isValidChar then return Char.ofNat n else failure

/-- A backslash and what it stands for. -/
def escaped : Reader Char := do
  exactly '\\'
  match ← satisfy fun _ => true with
  | 'b' => return '\x08'
  | 't' => return '\t'
  | 'n' => return '\n'
  | 'f' => return '\x0c'
  | 'r' => return '\r'
  | '"' => return '"'
  | '\\' => return '\\'
  | 'u' => codePoint 4
  | 'U' => codePoint 8
  | _ => failure

/-- A string on one line in which a backslash escapes. -/
def basicString : Reader String := do
  exactly '"'
  let parts ← many (chars1 (fun c => isPlain c && c ≠ '"' && c ≠ '\\') <|> (do return [← escaped]))
  exactly '"'
  return String.ofList parts.flatten

/-- A string on one line that is taken as it stands. -/
def literalString : Reader String := do
  exactly '\''
  let cs ← charsWhile fun c => isPlain c && c ≠ '\''
  exactly '\''
  return String.ofList cs

/-- A row of one or two quotes inside a text that three quotes end. -/
def innerQuotes (quote : Char) : Reader (List Char) := fun cs =>
  match cs.takeWhile (· = quote) with
  | [a] => some ([a], cs.drop 1)
  | [a, b] => some ([a, b], cs.drop 2)
  | _ => none

/-- The closing three quotes, with one or two more before them that belong to the text. -/
def closingQuotes (quote : Char) : Reader (List Char) := fun cs =>
  let quotes := cs.takeWhile (· = quote)
  if 3 ≤ quotes.length ∧ quotes.length ≤ 5 then some (quotes.drop 3, cs.drop quotes.length) else none

/-- A backslash at the end of a line, which takes the blanks and line ends after it away. -/
def joinedLine : Reader (List Char) := do
  exactly '\\'
  blanks
  newline
  let _ ← many ((do let _ ← satisfy fun c => c = ' ' || c = '\t') <|> newline)
  return []

/-- The end of a line inside a text, which always counts as one line feed. -/
def innerNewline : Reader (List Char) := do
  newline
  return ['\n']

/-- A string over several lines, made of parts of the given kinds. -/
def longString (quote : Char) (part : Reader (List Char)) : Reader String := do
  word (String.ofList [quote, quote, quote])
  let _ ← maybe newline
  let parts ← many part
  let last ← closingQuotes quote
  return String.ofList (parts.flatten ++ last)

/-- A string over several lines in which a backslash escapes. -/
def longBasicString : Reader String :=
  longString '"' <|
    chars1 (fun c => isPlain c && c ≠ '"' && c ≠ '\\')
      <|> joinedLine <|> (do return [← escaped]) <|> innerNewline <|> innerQuotes '"'

/-- A string over several lines that is taken as it stands. -/
def longLiteralString : Reader String :=
  longString '\'' <|
    chars1 (fun c => isPlain c && c ≠ '\'') <|> innerNewline <|> innerQuotes '\''

/-- A string of any kind. -/
def anyString : Reader String :=
  longBasicString <|> basicString <|> longLiteralString <|> literalString

/-- Digits, with single underscores between them. -/
def digitsIn (base : Nat) : Reader (List Nat) := do
  let d ← digitIn base
  let ds ← many (digitIn base <|> (do exactly '_'; digitIn base))
  return d :: ds

/-- A sign, if there is one: whether it is a minus. -/
def sign : Reader Bool :=
  (do exactly '-'; return true) <|> (do exactly '+'; return false) <|> pure false

/-- The digits of a decimal number without leading zeros. -/
def decimalDigits : Reader (List Nat) := do
  let digits ← digitsIn 10 <|> pure []
  match digits with
  | [] => failure
  | 0 :: _ :: _ => failure
  | digits => return digits

/-- A whole number, within the signed 64-bit range. -/
def wholeNumber : Reader Int := do
  let n : Int ←
    (do word "0x"; return ofDigits 16 (← digitsIn 16))
      <|> (do word "0o"; return ofDigits 8 (← digitsIn 8))
      <|> (do word "0b"; return ofDigits 2 (← digitsIn 2))
      <|> (do
        let negative ← sign
        let n := ofDigits 10 (← decimalDigits)
        return if negative then -(n : Int) else n)
  if Int64.minValue.toInt ≤ n ∧ n ≤ Int64.maxValue.toInt then return n else failure

/-- Whether a number given by decimal digits and a power of ten is too large for a double. -/
def exceedsDouble (digits : List Nat) (power : Int) : Bool :=
  let n := ofDigits 10 digits
  if n = 0 ∨ power ≤ -(digits.length : Int) then false
  else if 400 < power then true
  else if power < 0 then Text.infinityBound * Nat.pow 10 power.natAbs ≤ n
  else Text.infinityBound ≤ n * Nat.pow 10 power.natAbs

/-- A float: a decimal number with a fraction, an exponent or both, or one of the special ones. A
positive number that is too large for a double is refused. -/
def floatNumber : Reader Unit := ordinary <|> special
where
  /-- A number given by digits. -/
  ordinary : Reader Unit := do
    let negative ← sign
    let whole ← decimalDigits
    let fraction ← maybe (do exactly '.'; digitsIn 10)
    let exponent ← maybe do
      let _ ← satisfy fun c => c = 'e' || c = 'E'
      let negative ← sign
      let n := ofDigits 10 (← digitsIn 10)
      return if negative then -(n : Int) else n
    if fraction.isNone && exponent.isNone then failure
    let behind := fraction.getD []
    if !negative && exceedsDouble (whole ++ behind) (exponent.getD 0 - behind.length) then failure
  /-- An infinity, or what is no number. -/
  special : Reader Unit := do
    let _ ← sign
    word "inf" <|> word "nan"

/-- A number of two digits within bounds. -/
def twoDigits (low high : Nat) : Reader Nat := do
  let n := 10 * (← digitIn 10) + (← digitIn 10)
  if low ≤ n ∧ n ≤ high then return n else failure

/-- A day of the calendar. -/
def date : Reader Unit := do
  let year := ofDigits 10 (← (List.replicate 4 ()).mapM fun _ => digitIn 10)
  exactly '-'
  let month ← twoDigits 1 12
  exactly '-'
  let _ ← twoDigits 1 (Date.daysInMonth year month)

/-- A time of the day. -/
def time : Reader Unit := do
  let _ ← twoDigits 0 23
  exactly ':'
  let _ ← twoDigits 0 59
  exactly ':'
  let _ ← twoDigits 0 60
  let _ ← maybe do
    exactly '.'
    let _ ← digitIn 10
    many (digitIn 10)

/-- How far a time is from universal time. -/
def offset : Reader Unit :=
  (do let _ ← satisfy fun c => c = 'Z' || c = 'z') <|> do
    let _ ← satisfy fun c => c = '+' || c = '-'
    let _ ← twoDigits 0 23
    exactly ':'
    let _ ← twoDigits 0 59

/-- A date, a time, or both. -/
def dateTime : Reader Unit :=
  (do
    date
    let _ ← maybe do
      let _ ← satisfy fun c => c = 'T' || c = 't' || c = ' '
      time
      maybe offset)
  <|> time

/-- A value that is neither an array nor a table. -/
def scalar : Reader Toml :=
  (.string <$> anyString)
    <|> (.datetime <$> spelled dateTime)
    <|> (.float <$> spelled floatNumber)
    <|> (.integer <$> wholeNumber)
    <|> (do word "true"; return .boolean true)
    <|> (do word "false"; return .boolean false)

/-- A key without quotes, or in quotes of either kind. -/
def simpleKey : Reader String :=
  (String.ofList <$> chars1 fun c => c.isAlphanum || c = '_' || c = '-')
    <|> basicString <|> literalString

/-- How deep arrays and tables may nest, and of how many parts a key has fewer. -/
def nestingLimit : Nat := 80

/-- A path of keys joined by points. -/
def keyPath : Reader (List String) := do
  let path ← separated1 (do blanks; let k ← simpleKey; blanks; return k) (exactly '.')
  if path.length < nestingLimit then return path else failure

/-- An array of values, in which a comma may follow the last one. -/
def arrayOf (value : Reader Toml) : Reader Toml := do
  exactly '['
  let item : Reader Toml := do gap; let v ← value; gap; return v
  let items ← separated1 item (exactly ',') <|> pure []
  if !items.isEmpty then
    let _ ← maybe (exactly ',')
  gap
  exactly ']'
  return .array items

/-- A path of keys and the value that is set there. -/
def pairOf (value : Reader Toml) : Reader (List String × Toml) := do
  let path ← keyPath
  exactly '='
  blanks
  let v ← value
  blanks
  return (path, v)

/-- The pairs of a table written in braces. -/
def bracedPairs (value : Reader Toml) : Reader (List (List String × Toml)) := do
  exactly '{'
  let pairs ← separated1 (pairOf value) (exactly ',') <|> pure []
  blanks
  exactly '}'
  return pairs

end Herald.Toml
