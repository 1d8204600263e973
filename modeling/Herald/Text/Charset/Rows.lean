/-!
# Rows of characters

A set of many characters is a table of rows. A row ends after its last character, and U+FFFD stands
where a place inside a row has none.
-/

namespace Herald.Text.Charset

/-- The mark of a place without a character. -/
def missing : Char := '\uFFFD'

/-- Rows of characters with their numbers. -/
abbrev Rows := List (Nat × String)

/-- The character at a place of a row. -/
def Rows.char? (rows : Rows) (row column : Nat) : Option Char := do
  let c ← (← rows.lookup row).toList[column]?
  if c = missing then none else some c

end Herald.Text.Charset
