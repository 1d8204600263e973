import Herald.Agenda
import Herald.Lifecycle
import Herald.Listener

/-!
# The running bot

The running bot is its place in its life and the agenda of its jobs. News moves its life on and may
start a job; what arrives on the stream is news, or a ping to be answered. The jobs work beside it, one
at a time.
-/

namespace Herald

/-- The bot as it runs. -/
structure System where
  lifecycle : Lifecycle := {}
  agenda : Agenda := {}

namespace System

/-- Tells the bot the news; a job that they call for starts. -/
def tell (bot : Bot) (s : System) (news : News) : System :=
  match s.lifecycle.step bot news with
  | (lifecycle, some job) => ⟨lifecycle, s.agenda.start job⟩
  | (lifecycle, none) => ⟨lifecycle, s.agenda⟩

/-- Whether the bot listens to the stream. -/
def isListening (s : System) : Bool :=
  s.lifecycle.phase = .listening

/-- Takes in what arrives on the stream, and tells the payload to answer a ping with. After the end of
the stream nothing is taken in. -/
def hear (bot : Bot) (s : System) (receipt : Listener.Receipt) : System × Option (List UInt8) :=
  if s.isListening then
    match Listener.react receipt with
    | .skip => (s, none)
    | .stop => (s.tell bot .ended, none)
    | .answer payload => (s, some payload)
    | .forward event => (s.tell bot (.event event), none)
  else (s, none)

/-- Takes in what arrives on the stream one after another: all payloads to answer with. -/
def hearAll (bot : Bot) (s : System) : List Listener.Receipt → System × List (List UInt8)
  | [] => (s, [])
  | receipt :: rest =>
    let (s, answer) := s.hear bot receipt
    let (s, answers) := s.hearAll bot rest
    (s, answer.toList ++ answers)

/-- Answers as `answer` does, but who the bot is by what is held. -/
def withIdentity (held : Option Identity) (answer : (q : Query) → σ → q.Answer × σ) :
    (q : Query) → σ → q.Answer × σ
  | .identity, s => (held, s)
  | q, s => answer q s

/-- Wakes the next job, if one wakes by a moment, and runs it until it is done or pauses. A job learns
who the bot is from the bot itself, and all else from whoever answers. -/
def work (answer : (now : Nat) → (q : Query) → σ → q.Answer × σ) (limit : Nat) (s : System)
    (world : σ) : Option (System × σ) :=
  let told (now : Nat) := withIdentity s.lifecycle.identity (answer now)
  (s.agenda.step told limit world).map fun (agenda, world) => ({ s with agenda }, world)

/-- Lets time pass up to a moment. -/
def advanceTo (s : System) (moment : Nat) : System :=
  { s with agenda := s.agenda.advanceTo moment }

end System

end Herald
