import Herald.Text.Occurrence
import Herald.Text.Percent
import Herald.Url.Name

/-!
# Hosts of URLs

A host is an address in brackets, four numbers, or a name. Escapes in a name are resolved, and it is
brought to its one spelling. A name whose last label is a number has to be an address.
-/

namespace Herald.Url

/-- Whether a character may stand in a name. -/
def isNameChar (c : Char) : Bool :=
  0x20 < c.toNat && c.toNat ≠ 0x7F && !("%#/:<>?@[\\]^|\"`\x7b\x7d".toList.contains c)

/-- A number of an address: decimal, or with a mark octal or hexadecimal. -/
def addressNumber? (text : List Char) : Option Nat :=
  match text with
  | [] => none
  | '0' :: x :: rest =>
    if x = 'x' ∨ x = 'X' then digits? 16 rest else digits? 8 (x :: rest)
  | text => digits? 10 text
where
  /-- The value of digits of a base; none count as zero. -/
  digits? (base : Nat) (text : List Char) : Option Nat :=
    text.foldlM (fun n c => do
      let d ← Text.hexValue? c
      if d < base then some (base * n + d) else none) 0

/-- The labels of a name without the empty one that a point at the end makes. -/
def namedLabels (name : List Char) : List (List Char) :=
  let labels := Text.splitWhere (· = '.') name
  if labels.getLast? = some [] ∧ labels.length ≠ 1 then labels.dropLast else labels

/-- Whether the last label of a name is a number. -/
def endsInNumber (name : List Char) : Bool :=
  match (namedLabels name).getLast? with
  | none => false
  | some [] => false
  | some label => label.all Char.isDigit || (
      match label with
      | '0' :: x :: rest =>
        (x = 'x' || x = 'X') && rest.all fun c => (Text.hexValue? c).isSome
      | _ => false)

/-- The address that a name of one to four numbers stands for: the last one fills what is left. -/
def ipv4? (name : List Char) : Option (List Char) := do
  let numbers ← (namedLabels name).mapM addressNumber?
  let last ← numbers.getLast?
  let front := numbers.dropLast
  if 4 < numbers.length ∨ front.any (255 < ·) ∨ Nat.pow 256 (5 - numbers.length) ≤ last then none
  else
    let high := front.foldl (fun n byte => 256 * n + byte) 0 * Nat.pow 256 (4 - front.length)
    let n := high + last
    let byte (i : Nat) := (toString (n / Nat.pow 256 (3 - i) % 256)).toList
    return ['.'].intercalate ((List.range 4).map byte)

/-- One group of an address in brackets: up to four hexadecimal digits. -/
def ipv6Group? (text : List Char) : Option Nat :=
  if text.isEmpty ∨ 4 < text.length then none
  else text.foldlM (fun n c => (Text.hexValue? c).map (16 * n + ·)) 0

/-- The two groups that four decimal numbers count as. -/
def dottedGroups? (text : List Char) : Option (List Nat) := do
  let numbers ← (Text.splitWhere (· = '.') text).mapM fun n =>
    if n.isEmpty ∨ !n.all Char.isDigit ∨ (n.head? = some '0' ∧ n.length ≠ 1) then none
    else addressNumber? n
  match numbers with
  | [a, b, c, d] =>
    if numbers.all (· ≤ 255) then some [256 * a + b, 256 * c + d] else none
  | _ => none

/-- The groups of a text without a gap. Four decimal numbers may stand at the end of the address. -/
def ipv6Row? (isEnd : Bool) (text : List Char) : Option (List Nat) :=
  let parts := Text.splitWhere (· = ':') text
  if text.isEmpty then some []
  else do
    let last := parts.getLast?.getD []
    let groups ← parts.dropLast.mapM ipv6Group?
    if isEnd && last.contains '.' then return groups ++ (← dottedGroups? last)
    else return groups ++ [← ipv6Group? last]

/-- The eight groups of an address in brackets. A gap stands for one zero group or more. -/
def ipv6Groups? (text : List Char) : Option (List Nat) := do
  match Text.splitAround [':', ':'] text with
  | none =>
    let groups ← ipv6Row? true text
    if groups.length = 8 then return groups else none
  | some (before, behind) =>
    let before ← ipv6Row? false before
    let behind ← ipv6Row? true behind
    if before.length + behind.length < 8 then
      return before ++ List.replicate (8 - before.length - behind.length) 0 ++ behind
    else none

/-- The first longest row of zero groups that is longer than one: where it starts and its
length. -/
def zeroRun (groups : List Nat) : Option (Nat × Nat) :=
  let runs := (List.range groups.length).map fun i => (i, ((groups.drop i).takeWhile (· = 0)).length)
  runs.foldl (fun best run =>
    match best with
    | none => if 1 < run.2 then some run else none
    | some b => if b.2 < run.2 then some run else best) none

/-- An address in brackets, in its shortest spelling. -/
def ipv6Text (groups : List Nat) : List Char :=
  let hex (gs : List Nat) := [':'].intercalate (gs.map fun n => Nat.toDigits 16 n)
  match zeroRun groups with
  | none => '[' :: hex groups ++ [']']
  | some (start, length) =>
    '[' :: hex (groups.take start) ++ [':', ':'] ++ hex (groups.drop (start + length)) ++ [']']

/-- The one spelling of a host, absent if it is none. -/
def hostText? (text : List Char) : Option (List Char) :=
  match text with
  | '[' :: rest =>
    if rest.getLast? = some ']' then (ipv6Groups? rest.dropLast).map ipv6Text else none
  | text => do
    let decoded ← Text.Utf8.decode? (Text.Percent.decode text)
    let name ← Name.ofText? decoded
    if name.isEmpty ∨ !name.all isNameChar then none
    else if endsInNumber name then ipv4? name
    else some name

end Herald.Url
