import Herald.Action.Ojichat
import Herald.Action.Stats

/-!
# The table of commands

Actions are registered under their names; the last one registered under a name is the one it
resolves to, and keeps the place of the first in the listing. A name without an action resolves to
the built-in help, whose text lists the actions of the table. The text is made when an action is
registered, and not when it is asked for.
-/

namespace Herald

namespace CommandTable

/-- The name of the built-in help. -/
def helpName : String := "help"

/-- What the built-in help does, as it says itself. -/
def helpDescription : String := "show this message"

/-- The line of an action in the help text. -/
def helpLine (action : Action) : String :=
  "  $ " ++ action.usage ++ "\t" ++ action.description

/-- The help text: a line for each action, then the help itself and what the bot does unasked. -/
def listing (actions : List Action) : String :=
  "\n".intercalate <|
    "active skills:" :: actions.map helpLine ++
      ["  $ " ++ helpName ++ "\t" ++ helpDescription, "passive skills:", "  - notify emoji event",
        "  - notify channel event"]

end CommandTable

/-- The actions by name, the order in which the names came, and what the built-in help says. -/
structure CommandTable where
  /-- One action for each name. -/
  actions : List Action
  /-- The names, each in the place where it was first registered. -/
  order : List String
  /-- The text of the built-in help. -/
  helpText : String

namespace CommandTable

/-- The action registered under a name. -/
def find? (table : CommandTable) (name : String) : Option Action :=
  table.actions.find? (·.name = name)

/-- The actions that the help lists: all but one registered as the help itself. -/
def listed (table : CommandTable) : List Action :=
  (table.order.filter (· ≠ helpName)).filterMap table.find?

/-- Makes the help text anew. -/
def refreshHelp (table : CommandTable) : CommandTable :=
  { table with helpText := listing table.listed }

/-- Puts an action in the place of the one that has its name, or else behind all others. -/
def put (action : Action) (actions : List Action) : List Action :=
  if actions.any (·.name = action.name) then
    actions.map fun a => if a.name = action.name then action else a
  else actions ++ [action]

/-- Registers an action under its name. A name that is new comes last in the order. -/
def register (table : CommandTable) (action : Action) : CommandTable :=
  refreshHelp { table with
    actions := put action table.actions
    order := if (table.find? action.name).isNone then table.order ++ [action.name]
      else table.order }

/-- The built-in help. -/
def help (table : CommandTable) : Action where
  name := helpName
  description := helpDescription
  run _ m := pure (m.reply table.helpText)

/-- The action that a name stands for. -/
def resolve (table : CommandTable) (name : String) : Action :=
  (table.find? name).getD table.help

/-- The names in the order of the listing, with the help at the end. -/
def names (table : CommandTable) : List String :=
  table.order.filter (· ≠ helpName) ++ [helpName]

/-- The table without actions. -/
def empty : CommandTable where
  actions := []
  order := []
  helpText := listing []

/-- The table of the built-in actions. -/
def builtIn : CommandTable :=
  [Action.ojichat, Action.stats, Action.version].foldl register empty

end CommandTable

end Herald
