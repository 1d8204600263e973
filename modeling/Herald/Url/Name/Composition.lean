import Herald.Text.Split
import Herald.Url.Name.Table.Composite
import Herald.Url.Name.Table.MarkClass

/-!
# Composition of characters

A letter with marks can be written in several ways: as one character, or as a letter and marks, which
may come in any order if they stand at different places of it. The one spelling takes everything apart,
puts the marks in the order of their classes, and joins what can be joined.
-/

namespace Herald.Url.Name

/-- The class of a mark; zero for a character that stands for itself. -/
def markClass (c : Char) : Nat :=
  ((markClasses.find? fun (_, ranges) => ranges.holds c).map (·.1)).getD 0

/-- A character that stands for two others. -/
structure Composite where
  first : Char
  second : Char
  whole : Char
  deriving Repr, DecidableEq

/-- The composites of the rows. -/
def composites : List Composite :=
  compositeRows.flatMap fun (mark, words) =>
    (Text.splitWhere (· = ' ') words.toList).filterMap fun
      | [first, whole] => some ⟨first, Char.ofNat mark, whole⟩
      | _ => none

/-- The numbers of the first Korean syllable, and of the letters that begin, continue and end one. -/
def syllables : Nat × Nat × Nat × Nat := (0xAC00, 0x1100, 0x1161, 0x11A7)

/-- The two parts of a Korean syllable: a syllable without an end and the end, or the two letters of
a syllable without one. There are 21 letters that continue, and 27 that end. -/
def splitSyllable? (c : Char) : Option (Char × Char) :=
  let (syllable, lead, vowel, tail) := syllables
  if syllable ≤ c.toNat ∧ c.toNat < syllable + 19 * 21 * 28 then
    let n := c.toNat - syllable
    if n % 28 = 0 then some (Char.ofNat (lead + n / (21 * 28)), Char.ofNat (vowel + n / 28 % 21))
    else some (Char.ofNat (c.toNat - n % 28), Char.ofNat (tail + n % 28))
  else none

/-- The Korean syllable of two parts. -/
def joinSyllable? (a b : Char) : Option Char :=
  let (syllable, lead, vowel, tail) := syllables
  let (a, b) := (a.toNat, b.toNat)
  if lead ≤ a ∧ a < lead + 19 ∧ vowel ≤ b ∧ b < vowel + 21 then
    some (Char.ofNat (syllable + ((a - lead) * 21 + (b - vowel)) * 28))
  else if syllable ≤ a ∧ a < syllable + 19 * 21 * 28 ∧ (a - syllable) % 28 = 0
      ∧ tail < b ∧ b < tail + 28 then
    some (Char.ofNat (a + (b - tail)))
  else none

/-- The two characters that a character stands for. -/
def split? (c : Char) : Option (Char × Char) :=
  (splitSyllable? c).or ((composites.find? (·.whole = c)).map fun p => (p.first, p.second))

/-- The character that stands for two. -/
def join? (a b : Char) : Option Char :=
  (joinSyllable? a b).or
    ((composites.find? fun p => p.first = a && p.second = b).map (·.whole))

/-- Takes a character apart, and the first part of it again, up to `depth` times. -/
def apart : (depth : Nat) → Char → List Char
  | 0, c => [c]
  | depth + 1, c =>
    match split? c with
    | some (first, second) => apart depth first ++ [second]
    | none => [c]

/-- How often a character can be taken apart: a letter bears three marks at most. -/
def apartLimit : Nat := 3

/-- Puts a character in front of others, behind the marks of smaller classes if it is a mark. -/
def insertMark (c : Char) : List Char → List Char
  | [] => [c]
  | d :: rest =>
    if 0 < markClass d ∧ markClass d < markClass c then d :: insertMark c rest else c :: d :: rest

/-- Joins what can be joined to the character `base`, behind which stand marks that cannot. A mark
behind one of its own class cannot be joined, nor a character behind any mark. -/
def joinOn (base : Char) (marks : List Char) : List Char → List Char
  | [] => base :: marks
  | c :: rest =>
    let isFree : Bool := match marks.getLast? with
      | some m => markClass m < markClass c
      | none => true
    match if isFree then join? base c else none with
    | some whole => joinOn whole marks rest
    | none =>
      if markClass c = 0 then base :: marks ++ joinOn c [] rest
      else joinOn base (marks ++ [c]) rest

/-- The one spelling of a folded text. -/
def composed (text : List Char) : List Char :=
  match (text.flatMap (apart apartLimit)).foldr insertMark [] with
  | [] => []
  | c :: rest => joinOn c [] rest

end Herald.Url.Name
