import Herald.Action.Basic
import Herald.Mention
import Herald.Text.Occurrence

/-!
# The action `ojichat`

A text about a member of the channel is generated and posted under the name of a persona. The
member is the one that the first argument mentions, the sender of the message for the argument
`me`, and otherwise anyone in the channel but the bot. Before posting, the first occurrence of the
name becomes a link and the first 裸 is censored.
-/

namespace Herald.Action.Ojichat

/-- Whom the text is about. -/
inductive Target where
  | user (id : String)
  | anyone
  deriving Repr, DecidableEq

/-- Whom the arguments ask for, in a message by `sender`. Only the first one counts. -/
def target (args : List String) (sender : String) : Target :=
  match args with
  | [] => .anyone
  | arg :: _ =>
    match Mention.user? arg with
    | some id => .user id
    | none => if arg = "me" then .user sender else .anyone

/-- Anyone in a channel but the bot. -/
def anyMember (channel : Channel) : Attempt String := do
  let me ← Attempt.identity
  match channel.members.filter (· ≠ me.id) with
  | [] => Attempt.fail (.nobodyToPick channel.name)
  | first :: rest => Attempt.pick first rest

/-- The id of the target in a channel. -/
def targetId (channel : Channel) : Target → Attempt String
  | .user id => pure id
  | .anyone => anyMember channel

/-- The text with its first 裸 censored. -/
def censor (text : List Char) : List Char :=
  Text.replaceFirst ['裸'] "<CENSORED #8>".toList text

/-- The text with the first occurrence of a name turned into a link. -/
def link (name text : List Char) : List Char :=
  if name.isEmpty then text else Text.replaceFirst name (" @".toList ++ name ++ [' ']) text

/-- The text to post about someone of a name. -/
def decorate (generated name : String) : String :=
  String.ofList (censor (link name.toList generated.toList))

/-- The name that the texts are posted under. -/
def personaName : String := "おぢさん"

/-- The icon that the texts are posted with. -/
def personaIcon : String := ":brain:"

/-- Makes the reply. -/
def run (args : List String) (m : Incoming) : Attempt Message := do
  let channel ← Attempt.channel m.channel
  let id ← targetId channel (target args m.sender)
  let user ← (Attempt.user id).within .fetchingTarget
  let generated ← Attempt.generate user.name
  return (m.reply (decorate generated user.name)).withPersona personaName personaIcon

end Ojichat

/-- A text about a member of the channel, under the name of a persona. -/
def ojichat : Action where
  name := "ojichat"
  usage := "ojichat [@target/me]"
  description := "call ojichat:heart: for random/@target/you"
  run := Ojichat.run

end Herald.Action
