/-!
# TOML values

A document is a table. Floats and dates stay as they are spelled: the settings of the bot hold
none, so all that matters about them is that they are well formed.
-/

namespace Herald

/-- A TOML value. -/
inductive Toml where
  | string (s : String)
  | integer (n : Int)
  | float (literal : String)
  | boolean (b : Bool)
  | datetime (literal : String)
  | array (items : List Toml)
  | table (entries : List (String × Toml))
  deriving Repr, Inhabited

namespace Toml

/-- The values of the fields of a record, in the record's order. A record is a table or an array
of its first values; a date is a record that has none of the fields. -/
def fields? (names : List String) : Toml → Option (List (Option Toml))
  | .table entries => some (names.map fun name => (entries.find? (·.1 = name)).map (·.2))
  | .array items =>
    let known := items.take names.length
    some (known.map some ++ List.replicate (names.length - known.length) none)
  | .datetime _ => some (names.map fun _ => none)
  | _ => none

/-- The text of a string. -/
def string? : Toml → Option String
  | .string s => some s
  | _ => none

/-- A whole number that is not negative. -/
def nat? : Toml → Option Nat
  | .integer (.ofNat n) => some n
  | _ => none

/-- A whole number of the unsigned 64-bit range. -/
def uint64? (value : Toml) : Option UInt64 := do
  let n ← value.nat?
  if n < UInt64.size then some (UInt64.ofNat n) else none

/-- A whole number of the unsigned 32-bit range. -/
def uint32? (value : Toml) : Option UInt32 := do
  let n ← value.nat?
  if n < UInt32.size then some (UInt32.ofNat n) else none

end Toml

end Herald
