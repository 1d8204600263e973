import Herald.Toml.Reader

/-!
# TOML documents

A document is a row of statements: a header opens a table or a further table of an array, and a
pair sets a value in the table opened last. A table remembers its origin, which decides who may
still add to it:

- a table that a header or braces wrote out is `explicit`, and nobody may open it again;
- one that a longer header passed through is `implied`, and one header may still open it;
- one that a path of keys passed through is `dotted`, and further paths may add to it.
-/

namespace Herald.Toml

/-- How a table came about. -/
inductive Origin where
  | explicit
  | implied
  | dotted
  deriving Repr, DecidableEq

/-- A value, a table that may still grow, or the tables that an array of tables has so far. -/
inductive Node where
  | value (v : Toml)
  | table (origin : Origin) (entries : List (String × Node))
  | tables (elements : List (List (String × Node)))

/-- The entries of a table that may still grow. -/
abbrev Entries := List (String × Node)

namespace Entries

/-- The node under a key. -/
def get? (entries : Entries) (key : String) : Option Node :=
  (entries.find? (·.1 = key)).map (·.2)

/-- Puts a node under a key, in the place of the one that is there. -/
def set (entries : Entries) (key : String) (node : Node) : Entries :=
  if entries.any (·.1 = key) then entries.map fun e => if e.1 = key then (key, node) else e
  else entries ++ [(key, node)]

end Entries

/-- A change to a table, told its origin; the change may be refused. -/
abbrev Change := Origin → Entries → Option Entries

/-- Changes the table at the end of a path. Missing tables on the way are made with the origin
`via`; a path of keys may not enter a table that was written out. -/
def changeAt (via : Origin) (change : Change) : List String → Change
  | [], origin, entries => change origin entries
  | key :: path, _, entries =>
    match entries.get? key with
    | none => do
      let inner ← changeAt via change path via []
      return entries.set key (.table via inner)
    | some (.table origin inner) =>
      if via = .dotted ∧ origin = .explicit then none
      else do
        let inner ← changeAt via change path origin inner
        return entries.set key (.table origin inner)
    | some (.tables elements) =>
      match elements.getLast? with
      | none => none
      | some last => do
        let last ← changeAt via change path .explicit last
        return entries.set key (.tables (elements.dropLast ++ [last]))
    | some (.value _) => none

/-- Opens the table under a key. -/
def openTable (key : String) : Change := fun _ entries =>
  match entries.get? key with
  | none => some (entries.set key (.table .explicit []))
  | some (.table .implied inner) => some (entries.set key (.table .explicit inner))
  | some _ => none

/-- Opens a further table of the array under a key. -/
def openElement (key : String) : Change := fun _ entries =>
  match entries.get? key with
  | none => some (entries.set key (.tables [[]]))
  | some (.tables elements) => some (entries.set key (.tables (elements ++ [[]])))
  | some _ => none

/-- Sets a value under a key that is not in use. A path of keys has to end in a table that only
paths made, and a key alone in one that no path made. -/
def setValue (viaPath : Bool) (key : String) (v : Toml) : Change := fun origin entries =>
  if (origin = .dotted) = viaPath ∧ (entries.get? key).isNone then
    some (entries.set key (.value v))
  else none

/-- Splits a path into the way to a table and the last key. -/
def splitPath (path : List String) : Option (List String × String) :=
  path.getLast?.map (path.dropLast, ·)

/-- Sets a value at the end of a path of keys. -/
def setAt (path : List String) (v : Toml) : Change := fun origin entries => do
  let (way, key) ← splitPath path
  changeAt .dotted (setValue (!way.isEmpty) key v) way origin entries

mutual

/-- The value of a node. -/
def Node.toToml : Node → Toml
  | .value v => v
  | .table _ entries => .table (entriesToToml entries)
  | .tables elements => .array (elementsToToml elements)

/-- The values of the entries of a table. -/
def entriesToToml : List (String × Node) → List (String × Toml)
  | [] => []
  | (key, node) :: rest => (key, node.toToml) :: entriesToToml rest

/-- The values of the tables of an array. -/
def elementsToToml : List (List (String × Node)) → List Toml
  | [] => []
  | entries :: rest => .table (entriesToToml entries) :: elementsToToml rest

end

/-- A table written in braces. -/
def braced (value : Reader Toml) : Reader Toml := do
  let pairs ← bracedPairs value
  let entries? := pairs.foldlM (fun entries (path, v) => setAt path v .explicit entries) []
  match entries? with
  | some entries => return .table (entriesToToml entries)
  | none => failure

/-- A value in which arrays and braces nest at most `depth` deep. -/
def value : (depth : Nat) → Reader Toml
  | 0 => scalar
  | depth + 1 => scalar <|> arrayOf (value depth) <|> braced (value depth)

/-- One line of a document that says something. -/
inductive Statement where
  | table (path : List String)
  | element (path : List String)
  | pair (path : List String) (v : Toml)

/-- Reads one statement. -/
def statement : Reader Statement :=
  (do Reader.word "[["; let path ← keyPath; Reader.word "]]"; return .element path)
    <|> (do Reader.word "["; let path ← keyPath; Reader.word "]"; return .table path)
    <|> (do let (path, v) ← pairOf (value (nestingLimit - 1)); return .pair path v)

/-- Reads one line without its end. -/
def line : Reader (Option Statement) := do
  blanks
  let s ← Reader.maybe statement
  blanks
  let _ ← Reader.maybe comment
  return s

/-- Reads the statements of a document, which may start with a byte order mark. -/
def statements : Reader (List Statement) := do
  let _ ← Reader.maybe (Reader.exactly '\uFEFF')
  let lines ← Reader.many (do let s ← line; newline; return s)
  let last ← line
  Reader.ended
  return (lines ++ [last]).filterMap id

/-- A document under construction: all tables so far and the path to the one opened last. -/
structure Draft where
  root : Entries := []
  current : List String := []

/-- Takes in one statement. -/
def Draft.push (draft : Draft) : Statement → Option Draft
  | .table path => do
    let (way, key) ← splitPath path
    return ⟨← changeAt .implied (openTable key) way .explicit draft.root, path⟩
  | .element path => do
    let (way, key) ← splitPath path
    return ⟨← changeAt .implied (openElement key) way .explicit draft.root, path⟩
  | .pair path v => do
    return ⟨← changeAt .implied (setAt path v) draft.current .explicit draft.root, draft.current⟩

/-- Reads a document. -/
def ofText? (text : String) : Option Toml := do
  let (statements, _) ← statements.run text.toList
  let draft ← statements.foldlM Draft.push {}
  return .table (entriesToToml draft.root)

end Herald.Toml
