import Herald.Startup
import Herald.System

/-!
# The command line

The program takes the path of its configuration as its only argument. Token and channel may come
from the environment. A failure to start is reported, and otherwise the program goes through its
life. It has no network of its own: a request is not answered and a stream does not open, which its
life goes on after.
-/

namespace Herald.CommandLine

/-- What there is at a path. -/
def readConfigFile (path : String) : IO ConfigFile := do
  try
    let content ← IO.FS.readBinFile path
    return .bytes content.toList
  catch
    | .noFileOrDirectory .. => return .absent
    | _ => return .unreadable

/-- The environment of the program. -/
def readEnvironment : IO Environment :=
  return ⟨← IO.getEnv "SLACK_TOKEN", ← IO.getEnv "SLACK_CHANNEL"⟩

/-- What becomes of a request without a network. -/
def unanswered (method : Slack.Method) : Except Failure α :=
  .error (.outside (.sending method.name))

/-- Meets the demands of a life without a network. -/
partial def live (program : Program) (s : System) : IO Unit := do
  let tell := s.tell program.bot
  match s.lifecycle.demand program.bot with
  | .connect => live program (tell (.connected (unanswered .connect)))
  | .post _ => live program (tell (.posted (unanswered .postMessage)))
  | .openStream _ => live program (tell (.opened false))
  | .listen => live program (tell .ended)
  | .rest ms =>
    IO.sleep ms.toUInt32
    live program (tell .rested)

end Herald.CommandLine

open Herald in
/-- Starts the program. -/
def main (args : List String) : IO UInt32 := do
  let path := args.head?.getD Program.defaultPath
  let file ← CommandLine.readConfigFile path
  match Program.load path file (← CommandLine.readEnvironment) with
  | .error f =>
    IO.eprintln ("Error: " ++ f.message)
    return 1
  | .ok program =>
    CommandLine.live program {}
    return 0
