import Herald.Failure
import Herald.Text.Blank
import Herald.Text.Utf8

/-!
# The text generator

A text is generated by a program that is given a name and writes to its output. The attempt
succeeds if the program wrote nothing to its error stream and ended with the code zero; an error
text comes before the code. Bytes that are no text are replaced.
-/

namespace Herald.Generator

/-- How a program ended. -/
inductive Exit where
  | code (n : Int)
  | signal
  deriving Repr, DecidableEq

/-- The code of an end, minus one for a signal. -/
def Exit.number : Exit → Int
  | code n => n
  | signal => -1

/-- What became of running a program. -/
inductive Outcome where
  /-- It could not be started. -/
  | unstartable
  /-- It had not ended when its time was up. -/
  | overran
  | finished (output errors : List UInt8) (exit : Exit)
  deriving Repr, DecidableEq

/-- The text that an outcome gives. -/
def text (command target : String) (timeoutSeconds : UInt64) : Outcome → Except Failure String
  | .unstartable => .error (.outside (.executing command))
  | .overran => .error (.of (.generatorTimeout command target timeoutSeconds))
  | .finished output errors exit =>
    if errors ≠ [] then
      let complaint := Text.trimEnd (Text.Utf8.decodeLossy errors)
      .error (.of (.generatorComplained command (String.ofList complaint)))
    else if exit ≠ .code 0 then .error (.of (.generatorExited command exit.number))
    else .ok (String.ofList (Text.Utf8.decodeLossy output))

/-- Whether a program can be given such a name and argument at all: neither holds the character
zero. -/
def canStart (command target : String) : Bool :=
  !(command.toList.contains '\x00') && !(target.toList.contains '\x00')

end Herald.Generator
