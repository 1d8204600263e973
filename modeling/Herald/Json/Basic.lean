/-!
# JSON values

Members of an object keep their order and may repeat a name, so that a reader of records can
refuse repeated fields and `lastWins` can keep the last of them. A number is a whole number in the
64-bit range or else the digits it was spelled with.
-/

namespace Herald

/-- The parts of a number literal: the digits before the point, those behind it, and the
exponent. -/
structure NumberParts where
  negative : Bool
  whole : List Char
  fraction : Option (List Char)
  exponent : Option Int
  deriving Repr, DecidableEq

/-- A JSON value. -/
inductive Json where
  | null
  | bool (b : Bool)
  /-- A whole number that fits 64 bits, signed or unsigned, spelled without point or exponent. -/
  | integer (n : Int)
  /-- Any other number. -/
  | decimal (parts : NumberParts)
  | string (s : String)
  | array (items : List Json)
  | object (members : List (String × Json))
  deriving Repr, Inhabited, BEq

namespace Json

/-- The last member of a name. -/
def last? (name : String) (members : List (String × Json)) : Option Json :=
  members.foldl (fun found (n, v) => if n = name then some v else found) none

/-- The members without those that a later one of the same name replaces. -/
def dropShadowed : List (String × Json) → List (String × Json)
  | [] => []
  | (name, value) :: rest =>
    if rest.any (·.1 = name) then dropShadowed rest else (name, value) :: dropShadowed rest

mutual

/-- The value in which the last member of a name replaces those before it, at every depth. -/
def lastWins : Json → Json
  | .array items => .array (lastWinsItems items)
  | .object members => .object (dropShadowed (lastWinsMembers members))
  | value => value

/-- `lastWins` on each item. -/
def lastWinsItems : List Json → List Json
  | [] => []
  | item :: rest => lastWins item :: lastWinsItems rest

/-- `lastWins` on the value of each member. -/
def lastWinsMembers : List (String × Json) → List (String × Json)
  | [] => []
  | (name, value) :: rest => (name, lastWins value) :: lastWinsMembers rest

end

end Json

end Herald
