import Herald.Text.Occurrence
import Herald.Url.Name.Direction
import Herald.Url.Name.Folding
import Herald.Url.Name.Joiner
import Herald.Url.Punycode

/-!
# Names of hosts

A name is a row of labels. It is folded and composed to its one spelling, and each label that holds
more than ASCII is written in Punycode behind a mark. A label that comes in Punycode has to
be the written form of a label in its one spelling.
-/

namespace Herald.Url.Name

/-- What stands in front of a label in Punycode. -/
def punycodeMark : List Char := "xn--".toList

/-- How long a label outside ASCII may be. -/
def labelLimit : Nat := 1000

/-- A label as it is read and as it is written. -/
structure Label where
  shown : List Char
  written : List Char
  deriving Repr, DecidableEq

/-- Whether a text is all ASCII. -/
def isAscii (text : List Char) : Bool :=
  text.all (·.toNat < 128)

/-- Whether a label in its one spelling may stand in a name: no mark stands in front of its first
character, and its joiners can be seen. -/
def isProper (label : List Char) : Bool :=
  !(label.head?.any fun c => thinMarks.holds c || wideMarks.holds c) && joinersSeen [] label

/-- The label that Punycode stands for. -/
def Label.ofPunycode? (code : List Char) : Option Label := do
  let shown ← Punycode.decode? code
  let canonical ← (folded? shown).map composed
  if isAscii shown ∨ canonical ≠ shown ∨ punycodeMark.isPrefixOf shown ∨ !isProper shown then none
  else return ⟨shown, punycodeMark ++ code⟩

/-- The label of a text in its one spelling. -/
def Label.ofText? (text : List Char) : Option Label :=
  match Text.afterPrefix? punycodeMark text with
  | some code => if code.length ≤ 2 * labelLimit then ofPunycode? code else none
  | none =>
    if isAscii text then some ⟨text, text⟩
    else if text.length ≤ labelLimit ∧ isProper text then
      some ⟨text, punycodeMark ++ Punycode.encode text⟩
    else none

/-- A name as it is written; absent if a label of it cannot stand in a name. -/
def ofText? (text : List Char) : Option (List Char) := do
  let labels ← (Text.splitWhere (· = '.') (composed (← folded? text))).mapM Label.ofText?
  if labels.any (turns ·.shown) ∧ !labels.all fun l => l.shown.isEmpty || keepsDirection l.shown then
    none
  else return ['.'].intercalate (labels.map (·.written))

end Herald.Url.Name
