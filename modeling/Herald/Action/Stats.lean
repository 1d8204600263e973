import Herald.Action.Basic
import Herald.Calendar

/-!
# The actions `stats` and `version`

`stats` shows the name of the channel, how many members it has, and when and by whom it was
created; `version` shows the version of the bot.
-/

namespace Herald

/-- The version of the bot. -/
def version : String := "0.1.0"

namespace Action

namespace Stats

/-- The day of a moment, given in seconds from the start of 1970. -/
def createdText (seconds : Int64) : String :=
  match Date.ofSeconds? seconds with
  | some date => date.text
  | none => "unknown"

/-- The creator of a channel, by name. -/
def creatorText (channel : Channel) : Attempt String :=
  if channel.creator.isEmpty then pure "unknown"
  else do
    let user ← Attempt.user channel.creator
    return "@" ++ user.name

/-- The text about a channel. -/
def text (channel : Channel) (creator : String) : String :=
  ":bar_chart: #" ++ channel.name ++ "\n  members: " ++ toString channel.members.length ++
    "\n  created: " ++ createdText channel.created ++ " by " ++ creator

/-- Makes the reply. -/
def run (_args : List String) (m : Incoming) : Attempt Message := do
  let channel ← Attempt.channel m.channel
  let creator ← creatorText channel
  return m.reply (text channel creator)

end Stats

/-- What the channel is. -/
def stats : Action where
  name := "stats"
  description := "show statistics of this channel"
  run := Stats.run

/-- Which version of the bot answers. -/
def version : Action where
  name := "version"
  description := "show version"
  run _ m := pure (m.reply Herald.version)

end Action

end Herald
