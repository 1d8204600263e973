import Herald.Proofs.Interleaving
import Herald.Proofs.Relay

/-!
# The life of the bot and all around it

A `Life` is the bot at some moment of its life, with the listener of its session, the tasks of the
events routed so far and a chronicle of what it asked of the world and what it was told. In a
`Life.Step` time passes, the world answers, the listener or the router goes on, or any one of the
tasks asks its next query; the outcomes of all of these are free. A rest lasts as long as it says,
and everything else takes as long as it likes.

`Lifecycle.Turn` is the table of what the bot makes of news, and `Life.Step.change` says once and for
all what a step does to the chronicle.
-/

namespace Herald

/-! ## The chronicle -/

/-- What goes on between the bot and the world. -/
inductive Happening where
  | asked (d : Demand)
  | told (news : News)
  /-- The listener puts an event into the buffer. -/
  | forwarded (event : Event)

/-- What has happened, and when. -/
abbrev Chronicle := List (Nat × Happening)

namespace Chronicle

/-- A request for a session. -/
def isConnect : Nat × Happening → Bool
  | (_, .asked .connect) => true
  | _ => false

/-- The session that has been opened. -/
def session? : Nat × Happening → Option Slack.Session
  | (_, .told (.connected (.ok session))) => some session
  | _ => none

/-- The message that the bot asks to be posted. -/
def post? : Nat × Happening → Option Message
  | (_, .asked (.post m)) => some m
  | _ => none

/-- The address at which the bot asks for a stream. -/
def open? : Nat × Happening → Option String
  | (_, .asked (.openStream url)) => some url
  | _ => none

/-- The event that the listener forwards. -/
def forwarded? : Nat × Happening → Option Event
  | (_, .forwarded event) => some event
  | _ => none

/-- The event that the router takes. -/
def routed? : Nat × Happening → Option Event
  | (_, .told (.event event)) => some event
  | _ => none

/-- What happens before the next request for a session. -/
def untilConnect (l : Chronicle) : Chronicle :=
  l.takeWhile (!isConnect ·)

end Chronicle

/-! ## What the bot makes of news -/

/-- The news that the bot waits for in a phase, the phase that follows and what it then asks for. -/
inductive Lifecycle.Turn (bot : Bot) : Phase → News → Phase → Demand → Prop where
  | connected (session : Slack.Session) :
      Turn bot .connecting (.connected (.ok session)) (.greeting session)
        (.post (Notice.greeting bot.announce session.me))
  | refused (f : Failure) : Turn bot .connecting (.connected (.error f)) .resting (.rest restTime)
  | posted (session : Slack.Session) (answer : Except Failure Unit) :
      Turn bot (.greeting session) (.posted answer) (.opening session.url)
        (.openStream session.url)
  | opened (url : String) : Turn bot (.opening url) (.opened true) .listening .listen
  | unopened (url : String) : Turn bot (.opening url) (.opened false) .resting (.rest restTime)
  | event (event : Event) : Turn bot .listening (.event event) .listening .listen
  | ended : Turn bot .listening .ended .resting (.rest restTime)
  | rested : Turn bot .resting .rested .connecting .connect

/-- The table is that of the bot. -/
theorem Lifecycle.Turn.step {bot : Bot} {l : Lifecycle} {news : News} {phase : Phase}
    {demand : Demand} (h : Turn bot l.phase news phase demand) :
    (l.step bot news).1.phase = phase ∧ (l.step bot news).1.demand bot = demand := by
  obtain ⟨before, identity⟩ := l
  cases h <;> exact ⟨rfl, rfl⟩

/-! ## Lives -/

/-- The bot at some moment of its life, and what has been up to then. -/
structure Life where
  now : Nat := 0
  lifecycle : Lifecycle := {}
  /-- Since when the bot waits for what it waits for. -/
  since : Nat := 0
  /-- The listener of the session, while the bot listens. -/
  relay : Relay := .start []
  tasks : List Task := []
  /-- The exchanges of all tasks. -/
  history : History := []
  chronicle : Chronicle := [(0, .asked .connect)]

namespace Life

/-- The task that news call for. -/
def started (bot : Bot) (p : Life) : News → List Task
  | .event event => ((p.lifecycle.step bot (.event event)).2.map (⟨event, ·⟩)).toList
  | _ => []

/-- The bot is told news, and at once asks for what it wants next. -/
def tell (bot : Bot) (p : Life) (news : News) : Life :=
  { p with
    lifecycle := (p.lifecycle.step bot news).1
    since := p.now
    tasks := p.tasks ++ p.started bot news
    chronicle := p.chronicle ++ [(p.now, .told news),
      (p.now, .asked ((p.lifecycle.step bot news).1.demand bot))] }

/-- What a task has asked, and what it was told. -/
def exchangesOf (p : Life) (i : Nat) : List Exchange :=
  p.history.of i

/-- A failure that the world reports: to miss the identity is for the bot alone. -/
def IsWorldly : Except Failure α → Prop
  | .ok _ => True
  | .error f => f.cause ≠ .identityNotReady

/-- The answers that a query may get: who the bot is comes from the bot, all else is free. -/
def MayAnswer (held : Option Identity) : (q : Query) → q.Answer → Prop
  | .identity, a => a = held
  | .channel _, a => IsWorldly a
  | .user _, a => IsWorldly a
  | .start _, soon => ∀ a, soon = some a → IsWorldly a
  | .await _, a => IsWorldly a
  | .race _ _, first => first.elim IsWorldly IsWorldly
  | .pick _ _, _ => True
  | .generate _, a => IsWorldly a
  | .post _, a => IsWorldly a
  | .pause _, _ => True

/-- One step of the bot, of its listener, of one of its tasks, or of the time. -/
inductive Step (bot : Bot) : Life → Life → Prop where
  /-- Time passes, but a rest is not overslept. -/
  | wait {p : Life} {moment : Nat} (hnow : p.now ≤ moment)
      (hrest : p.lifecycle.phase = .resting → moment ≤ p.since + restTime.toNat) :
      Step bot p { p with now := moment }
  | connected {p : Life} (hphase : p.lifecycle.phase = .connecting)
      (answer : Except Failure Slack.Session) : Step bot p (p.tell bot (.connected answer))
  | posted {p : Life} {session : Slack.Session} (hphase : p.lifecycle.phase = .greeting session)
      (answer : Except Failure Unit) : Step bot p (p.tell bot (.posted answer))
  /-- The stream opens, whatever is to arrive on it. -/
  | opened {p : Life} {url : String} (hphase : p.lifecycle.phase = .opening url)
      (socket : List Listener.Receipt) :
      Step bot p ({ p with relay := .start socket }.tell bot (.opened true))
  | unopened {p : Life} {url : String} (hphase : p.lifecycle.phase = .opening url) :
      Step bot p (p.tell bot (.opened false))
  | read {p : Life} {relay : Relay} (hphase : p.lifecycle.phase = .listening)
      (h : p.relay.Step .read relay) : Step bot p { p with relay := relay }
  | forward {p : Life} {relay : Relay} {event : Event} (hphase : p.lifecycle.phase = .listening)
      (h : p.relay.Step (.send event) relay) :
      Step bot p { p with
        relay := relay, chronicle := p.chronicle ++ [(p.now, .forwarded event)] }
  | route {p : Life} {relay : Relay} {event : Event} (hphase : p.lifecycle.phase = .listening)
      (h : p.relay.Step (.receive event) relay) :
      Step bot p ({ p with relay := relay }.tell bot (.event event))
  /-- The listener breaks down. -/
  | crash {p : Life} (hphase : p.lifecycle.phase = .listening) :
      Step bot p { p with relay := { p.relay with stage := .ended } }
  /-- The session is over once the listener has ended and the buffer is empty. -/
  | ended {p : Life} (hphase : p.lifecycle.phase = .listening) (h : p.relay.Finished) :
      Step bot p (p.tell bot .ended)
  | rested {p : Life} (hphase : p.lifecycle.phase = .resting)
      (hnow : p.now = p.since + restTime.toNat) : Step bot p (p.tell bot .rested)
  | ask {p : Life} {i : Nat} {event : Event} {q : Query} {resume : q.Answer → Job Unit}
      {a : q.Answer} (htask : p.tasks[i]? = some ⟨event, .ask q resume⟩)
      (ha : MayAnswer p.lifecycle.identity q a) :
      Step bot p { p with
        tasks := p.tasks.set i ⟨event, resume a⟩
        history := p.history ++ [(i, ⟨q, a⟩)] }

/-- Any number of steps. -/
abbrev Run (bot : Bot) : Life → Life → Prop :=
  Relation.ReflTransGen (Step bot)

/-! ## Hearing of an event -/

/-- The next event that arrives is routed at once. -/
def hear (bot : Bot) (p : Life) (event : Event) : Life :=
  { p with
    relay := { p.relay with
      socket := p.relay.socket.tail, stage := .reading, buffer := []
      received := p.relay.received ++ [event] }
    chronicle := p.chronicle ++ [(p.now, .forwarded event)] : Life }.tell bot (.event event)

theorem run_hear (bot : Bot) {p : Life} {r : Listener.Receipt} {rest : List Listener.Receipt}
    {event : Event} (hphase : p.lifecycle.phase = .listening) (hstage : p.relay.stage = .reading)
    (hbuffer : p.relay.buffer = []) (hsocket : p.relay.socket = r :: rest)
    (hreact : Listener.react r = .forward event) : Run bot p (p.hear bot event) := by
  have hlook : p.relay.look r rest = { p.relay with socket := rest, stage := .sending event } := by
    rw [Relay.look, hreact]
  have hread : Step bot p { p with relay := p.relay.look r rest } :=
    .read hphase (.read hstage hsocket)
  rw [hlook] at hread
  have hroom : p.relay.buffer.length < Relay.capacity := by
    rw [hbuffer]
    decide
  have htaken : p.relay.buffer ++ [event] = event :: [] := by rw [hbuffer]; rfl
  have hrun := (Relation.ReflTransGen.single hread).tail (.forward hphase (.send rfl hroom))
    |>.tail (.route hphase (.receive htaken))
  have htail : p.relay.socket.tail = rest := by rw [hsocket]; rfl
  rw [hear, htail]
  exact hrun

/-! ## What a step does -/

/-- What a step does to the place in life and to the chronicle: nothing, or the listener forwards an
event, or the bot takes a turn. -/
inductive Change (bot : Bot) (p q : Life) : Prop where
  | quiet (hchronicle : q.chronicle = p.chronicle) (hlifecycle : q.lifecycle = p.lifecycle)
      (hsince : q.since = p.since) (hnow : p.now ≤ q.now)
      (hrest : p.lifecycle.phase = .resting →
        q.now = p.now ∨ q.now ≤ p.since + restTime.toNat)
  | forwarded (event : Event) (hphase : p.lifecycle.phase = .listening)
      (hchronicle : q.chronicle = p.chronicle ++ [(p.now, .forwarded event)])
      (hlifecycle : q.lifecycle = p.lifecycle) (hsince : q.since = p.since) (hnow : q.now = p.now)
  | told (news : News) (phase : Phase) (demand : Demand)
      (hturn : Lifecycle.Turn bot p.lifecycle.phase news phase demand)
      (hphase : q.lifecycle.phase = phase)
      (hchronicle : q.chronicle = p.chronicle ++ [(p.now, .told news), (p.now, .asked demand)])
      (hsince : q.since = p.now) (hnow : q.now = p.now)
      (hrested : news = .rested → p.now = p.since + restTime.toNat)

variable {bot : Bot} {p q : Life}

/-- A turn that the bot takes, whatever has become of the listener. -/
theorem change_tell {before phase : Phase} {news : News} {demand : Demand}
    (hbefore : p.lifecycle.phase = before) (hturn : Lifecycle.Turn bot before news phase demand)
    (relay : Relay) (hrested : news = .rested → p.now = p.since + restTime.toNat) :
    Change bot p ({ p with relay := relay }.tell bot news) := by
  subst hbefore
  obtain ⟨hphase, hdemand⟩ := hturn.step
  refine .told news phase demand hturn hphase ?_ rfl rfl hrested
  rw [← hdemand]
  rfl

theorem Step.change (h : Step bot p q) : Change bot p q := by
  cases h with
  | wait hnow hrest => exact .quiet rfl rfl rfl hnow fun hphase => .inr (hrest hphase)
  | connected hphase answer =>
    cases answer with
    | ok session =>
      exact change_tell hphase (.connected session) p.relay nofun
    | error f => exact change_tell hphase (.refused f) p.relay nofun
  | posted hphase answer =>
    exact change_tell hphase (.posted _ answer) p.relay nofun
  | opened hphase socket => exact change_tell hphase (.opened _) _ nofun
  | unopened hphase => exact change_tell hphase (.unopened _) p.relay nofun
  | read hphase h => exact .quiet rfl rfl rfl (Nat.le_refl _) fun _ => .inl rfl
  | forward hphase h => exact .forwarded _ hphase rfl rfl rfl rfl
  | route hphase h => exact change_tell hphase (.event _) _ nofun
  | crash hphase => exact .quiet rfl rfl rfl (Nat.le_refl _) fun _ => .inl rfl
  | ended hphase h => exact change_tell hphase .ended p.relay nofun
  | rested hphase hnow => exact change_tell hphase .rested p.relay fun _ => hnow
  | ask htask ha => exact .quiet rfl rfl rfl (Nat.le_refl _) fun _ => .inl rfl

end Life

end Herald
