import Herald.Url.Name.Table.Direction
import Herald.Url.Name.Table.Mark

/-!
# Direction of labels

A label that mixes directions cannot be read back from how it looks. So in a name that holds
something read from right to left, every label has to keep one direction.
-/

namespace Herald.Url.Name

/-- How a character is read. -/
inductive Direction where
  | leftToRight
  | rightToLeft
  /-- In a number in Arabic writing. -/
  | arabicNumber
  | digit
  /-- As the character in front of it. -/
  | mark
  /-- As the characters around it. -/
  | neutral
  deriving Repr, DecidableEq

/-- How a character is read. -/
def Direction.ofChar (c : Char) : Direction :=
  if thinMarks.holds c then .mark
  else if rightwardRanges.holds c then .rightToLeft
  else if arabicNumberRanges.holds c then .arabicNumber
  else if digitRanges.holds c then .digit
  else if neutralRanges.holds c then .neutral
  else .leftToRight

/-- Whether a label holds something that is read from right to left. -/
def turns (label : List Char) : Bool :=
  label.any fun c => [.rightToLeft, .arabicNumber].contains (Direction.ofChar c)

/-- Whether a label keeps one direction: it begins with a letter of it, ends with a letter of it or
a digit, and holds no letter of the other. From right to left it holds one kind of digits only. -/
def keepsDirection (label : List Char) : Bool :=
  let directions := label.map Direction.ofChar
  let last := (directions.reverse.dropWhile (· = .mark)).headD .neutral
  match directions with
  | .rightToLeft :: _ =>
    !directions.contains .leftToRight && [.rightToLeft, .arabicNumber, .digit].contains last
      && !(directions.contains .digit && directions.contains .arabicNumber)
  | .leftToRight :: _ => !turns label && [.leftToRight, .digit].contains last
  | _ => false

end Herald.Url.Name
