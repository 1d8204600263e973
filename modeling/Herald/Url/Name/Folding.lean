import Herald.Text.Split
import Herald.Url.Name.Table.Allowed
import Herald.Url.Name.Table.Folding

/-!
# Folding names

Names that differ only in the size of letters or in variants of characters are one name. Folding
replaces each character by the ones that stand for it in the one spelling, leaves out those that do
not count, and refuses those that no name may hold.
-/

namespace Herald.Url.Name

/-- The word for a character in the rows, if there is one. -/
def word? (c : Char) : Option (List Char) := do
  let (start, words) ← (foldingRows.takeWhile (·.1 ≤ c.toNat)).getLast?
  (Text.splitWhere (· = ' ') words.toList)[c.toNat - start]?

/-- What stands for a character in the one spelling; absent if no name may hold it. -/
def foldChar? (c : Char) : Option (List Char) :=
  if ignoredRanges.holds c then some []
  else match word? c with
    | some word => some word
    | none => if allowedRanges.holds c then some [c] else none

/-- The folded text of a name. -/
def folded? (name : List Char) : Option (List Char) :=
  (name.mapM foldChar?).map List.flatten

end Herald.Url.Name
