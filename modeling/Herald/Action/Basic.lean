import Herald.Job

/-!
# Actions

An action answers a command with one message. It has a name, a line of usage and a description for
the help text.
-/

namespace Herald

/-- What a command does. -/
structure Action where
  name : String
  usage : String := name
  description : String
  /-- Makes the reply to a message, given the arguments of the command. -/
  run : (args : List String) → (m : Incoming) → Attempt Message

/-- A reply in the channel that a message came from. -/
def Incoming.reply (m : Incoming) (text : String) : Message :=
  { channel := m.channel, text }

end Herald
