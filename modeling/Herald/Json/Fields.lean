import Herald.Json.Basic

/-!
# Records in JSON

A record comes as an object of its fields or as an array of their values in the order of the
record. `fields?` brings both to one form: a list that holds, for each field of the record, its
value if it is there. A field that is given twice is refused, and so is an array with more items
than the record has fields; further members of an object are passed over.

A tagged record also holds the name of its kind, as a member of its own or as the first item;
`untag?` takes it off.
-/

namespace Herald.Json

/-- The one member of a name, if there is one; refused if there are two. -/
def member? (members : List (String × Json)) (name : String) : Option (Option Json) :=
  match members.filter (·.1 = name) with
  | [] => some none
  | [(_, value)] => some (some value)
  | _ => none

/-- The values of the fields of a record, in the record's order. -/
def fields? (names : List String) : Json → Option (List (Option Json))
  | .object members => names.mapM (member? members)
  | .array items =>
    if items.length ≤ names.length then
      some (items.map some ++ List.replicate (names.length - items.length) none)
    else none
  | _ => none

/-- The tag of a tagged record, and the record without it. -/
def untag? (name : String) : Json → Option (Json × Json)
  | .object members => do
    let tag ← (← member? members name)
    return (tag, .object (members.filter (·.1 ≠ name)))
  | .array (tag :: items) => some (tag, .array items)
  | _ => none

/-- The text of a string. -/
def string? : Json → Option String
  | .string s => some s
  | _ => none

/-- The texts of a list of strings. -/
def strings? : Json → Option (List String)
  | .array items => items.mapM string?
  | _ => none

/-- The text of a field that may be absent or null. -/
def optionalString? : Option Json → Option (Option String)
  | none => some none
  | some .null => some none
  | some (.string s) => some (some s)
  | some _ => none

/-- The value of a field as `read` gives it, or a default if it is absent. -/
def orDefault (read : Json → Option α) (default : α) : Option Json → Option α
  | none => some default
  | some value => read value

/-- A whole number in the signed 64-bit range. -/
def int64? : Json → Option Int64
  | .integer n =>
    if Int64.minValue.toInt ≤ n ∧ n ≤ Int64.maxValue.toInt then some (Int64.ofInt n) else none
  | _ => none

end Herald.Json
