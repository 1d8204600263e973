import Herald.Bot
import Herald.Slack.Answer

/-!
# The life of the bot

The bot goes through sessions for as long as it runs. It asks for one, greets the announce channel,
opens the stream and listens to it until it ends; then it rests and asks for the next one. A failure
of any of these leads on to the rest. The identity of the first session is kept for good, and the
jobs that events call for run beside all this.

`Phase` is what the bot waits for. `Lifecycle.demand` says what it asks of the world to get there, and
`Lifecycle.step` what it makes of the news: the next phase, and a job if one is called for.
-/

namespace Herald

/-- What the bot waits for. -/
inductive Phase where
  /-- The answer to its request for a session. -/
  | connecting
  /-- Its greeting to be posted. -/
  | greeting (session : Slack.Session)
  /-- The stream to be opened. -/
  | opening (url : String)
  /-- The next event. -/
  | listening
  /-- The end of its rest. -/
  | resting
  deriving Repr, DecidableEq

/-- What can happen while the bot waits. -/
inductive News where
  | connected (answer : Except Failure Slack.Session)
  | posted (answer : Except Failure Unit)
  | opened (success : Bool)
  | event (e : Event)
  /-- The stream has ended, and every event from it has been told. -/
  | ended
  | rested

/-- What the bot asks of the world. The news that it waits for answers it. -/
inductive Demand where
  | connect
  | post (m : Message)
  | openStream (url : String)
  | listen
  | rest (ms : UInt64)
  deriving Repr, DecidableEq

/-- Where the bot is in its life, and who it is as far as it knows. -/
structure Lifecycle where
  phase : Phase := .connecting
  identity : Option Identity := none
  deriving Repr, DecidableEq

/-- The rest before the next session, in milliseconds. -/
def restTime : UInt64 := 5000

namespace Lifecycle

/-- What the bot makes of the news. News that it does not wait for change nothing. -/
def step (bot : Bot) (l : Lifecycle) (news : News) : Lifecycle × Option (Job Unit) :=
  match l.phase, news with
  | .connecting, .connected (.ok session) =>
    (⟨.greeting session, Identity.publish l.identity session.me⟩, none)
  | .connecting, .connected (.error _) => ({ l with phase := .resting }, none)
  | .greeting session, .posted _ => ({ l with phase := .opening session.url }, none)
  | .opening _, .opened true => ({ l with phase := .listening }, none)
  | .opening _, .opened false => ({ l with phase := .resting }, none)
  | .listening, .event e => (l, bot.route e)
  | .listening, .ended => ({ l with phase := .resting }, none)
  | .resting, .rested => ({ l with phase := .connecting }, none)
  | _, _ => (l, none)

/-- What the bot asks of the world before it goes on. -/
def demand (bot : Bot) (l : Lifecycle) : Demand :=
  match l.phase with
  | .connecting => .connect
  | .greeting session => .post (Notice.greeting bot.announce session.me)
  | .opening url => .openStream url
  | .listening => .listen
  | .resting => .rest restTime

end Lifecycle

end Herald
