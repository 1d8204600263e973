import Herald.Failure
import Herald.Json.Fields

/-!
# The workspace

What the bot learns of the workspace it lives in: users, channels, messages, and who it is itself.
Users and channels come as JSON records. The identity is published once: the first one stays.
-/

namespace Herald

/-- A member of the workspace. -/
structure User where
  id : String
  name : String
  deriving Repr, DecidableEq, Inhabited

/-- A channel, when it was created and by whom, and who is in it. -/
structure Channel where
  id : String
  name : String
  created : Int64 := 0
  creator : String := ""
  members : List String := []
  deriving DecidableEq, Inhabited

/-- Who the bot is, as the platform reports it when a session starts. -/
structure Identity where
  id : String
  name : String
  deriving Repr, DecidableEq, Inhabited

/-- A message that a user typed. -/
structure Incoming where
  sender : String
  channel : String
  text : String
  deriving Repr, DecidableEq, Inhabited

namespace User

/-- Reads a user: `id` and `name`. -/
def ofJson? (value : Json) : Option User := do
  match ← value.fields? ["id", "name"] with
  | [some id, some name] => return ⟨← id.string?, ← name.string?⟩
  | _ => none

end User

namespace Channel

/-- Reads a channel. Only `id` and `name` have to be there. -/
def ofJson? (value : Json) : Option Channel := do
  match ← value.fields? ["id", "name", "created", "creator", "members"] with
  | [some id, some name, created, creator, members] =>
    return {
      id := ← id.string?
      name := ← name.string?
      created := ← Json.orDefault Json.int64? 0 created
      creator := ← Json.orDefault Json.string? "" creator
      members := ← Json.orDefault Json.strings? [] members }
  | _ => none

end Channel

namespace Identity

/-- Reads an identity: `id` and `name`. -/
def ofJson? (value : Json) : Option Identity :=
  (User.ofJson? value).map fun user => ⟨user.id, user.name⟩

/-- The identity to hold once another one is published: the first one stays. -/
def publish (held : Option Identity) (new : Identity) : Option Identity :=
  held.or (some new)

/-- The identity held, or the failure that there is none yet. -/
def require (held : Option Identity) : Except Failure Identity :=
  match held with
  | some identity => .ok identity
  | none => .error (.of .identityNotReady)

@[simp] theorem publish_some (first new : Identity) : publish (some first) new = some first := rfl

@[simp] theorem publish_none (new : Identity) : publish none new = some new := rfl

end Identity

end Herald
