import Herald.Url.Name.Composition
import Herald.Url.Name.Table.Joining
import Herald.Url.Name.Table.Mark

/-!
# Joiners

Two characters without width tell whether their neighbours are joined. They may stand only where that
can be seen: behind a mark that cuts off a vowel, and the one that keeps letters apart also between
two letters that would join.
-/

namespace Herald.Url.Name

/-- Keeps its neighbours apart. -/
def nonJoiner : Char := '\u200c'

/-- Joins its neighbours. -/
def joiner : Char := '\u200d'

/-- The class of the marks that cut off the vowel of a letter. -/
def vowelCutClass : Nat := 9

/-- Whether the first letter of a text, behind its marks, is in one of two sets. -/
def startsWithLetter (a b : Ranges) (text : List Char) : Bool :=
  (text.dropWhile thinMarks.holds).head?.any fun c => a.holds c || b.holds c

/-- Whether a joiner can be seen, given what stands before it, from the nearest character on, and
what stands behind it. -/
def isSeen (c : Char) (before behind : List Char) : Bool :=
  before.head?.any (markClass · = vowelCutClass)
    || (c = nonJoiner && startsWithLetter bothJoining leftJoining before
      && startsWithLetter bothJoining rightJoining behind)

/-- Whether every joiner of a text can be seen, told what stands before the text from the nearest
character on. -/
def joinersSeen (before : List Char) : List Char → Bool
  | [] => true
  | c :: rest =>
    (if c = nonJoiner ∨ c = joiner then isSeen c before rest else true)
      && joinersSeen (c :: before) rest

end Herald.Url.Name
