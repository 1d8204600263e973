import Herald.Action.Table
import Herald.Command
import Herald.Notice
import Herald.Schedule

/-!
# The bot

The bot answers messages that are commands and tells of events. `handle` is the work for one
message, `notify` the work for one event, and `route` decides which of them an event calls for, if
any. Each event is a job of its own.
-/

namespace Herald

/-- What stays the same for as long as the bot runs. -/
structure Bot where
  announce : String
  schedule : Schedule
  table : CommandTable := .builtIn

namespace Bot

/-- Posting and pausing as queries of a job. -/
def outlet : Outlet Job where
  post m := Job.query (.post m)
  pause ms := Job.query (.pause ms)

/-- Runs the command of a message, if it is one. -/
def handle (bot : Bot) (m : Incoming) : Job (Option RunReport) :=
  match Command.parse m.text with
  | none => .done none
  | some command =>
    let action := bot.table.resolve command.name
    some <$> bot.schedule.run outlet action.name (action.run command.args m).run command.runs

/-- Posts messages one after another, whatever becomes of those before. -/
def postAll : List Message → Job Unit
  | [] => .done ()
  | m :: rest => do
    let _ ← Job.query (.post m)
    postAll rest

/-- Posts the notices about an event, if they can be made. -/
def notify (bot : Bot) (event : Event) : Job Unit := do
  match ← (Notice.render bot.announce event).run with
  | .ok messages => postAll messages
  | .error _ => .done ()

/-- The job that an event calls for. -/
def route (bot : Bot) : Event → Option (Job Unit)
  | .message m => m.typed?.map fun incoming => do
    let _ ← bot.handle incoming
  | .other => none
  | event => some (bot.notify event)

end Bot

end Herald
