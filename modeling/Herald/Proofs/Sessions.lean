import Herald.Proofs.Life

/-!
# The order of sessions

Whatever the world answers, the chronicle of a life keeps an order: a session that is opened is greeted
before all else, a request that is refused leads to a rest alone, no failure ends the life, what has
been forwarded is routed before the next request, and the next request comes exactly one rest after
the end of the last session.

* `Lifecycle.Turns` are the turns that the bot takes from one phase to another, one after another, with
  the chronicle of them. A run adds turns at the end (`Life.Tidy`), and the rules are read off the
  turns that follow an entry (`Lifecycle.Turns.of_told`, `Lifecycle.Turns.of_connect`).
* `Life.Backlog`: what has been forwarded and not been routed is in the buffer.
* `Life.exists_run_connect`: from any moment on, another session can be asked for.
* `Life.run_orderly` puts this together.
-/

namespace Herald

/-- News that end a session, or the attempt at one. -/
def News.isEnd : News → Bool
  | .connected (.error _) => true
  | .opened false => true
  | .ended => true
  | _ => false

namespace Chronicle

/-- The messages that the bot asks to be posted before its next request for a session. -/
def posts (l : Chronicle) : List Message :=
  (untilConnect l).filterMap post?

/-- The addresses at which it asks for a stream before its next request for a session. -/
def opens (l : Chronicle) : List String :=
  (untilConnect l).filterMap open?

/-- When the bot asks for a session next. -/
def nextConnect? (l : Chronicle) : Option Nat :=
  (l.find? isConnect).map (·.1)

end Chronicle

open Chronicle

/-! ## Turns -/

namespace Lifecycle

/-- Only the end of a rest leads to a request for a session. -/
theorem Turn.of_connect {bot : Bot} {before phase : Phase} {news : News}
    (h : Turn bot before news phase .connect) : news = .rested ∧ before = .resting := by
  cases h
  exact ⟨rfl, rfl⟩

/-- News that end a session lead to a rest. -/
theorem Turn.of_isEnd {bot : Bot} {before phase : Phase} {news : News} {demand : Demand}
    (h : Turn bot before news phase demand) (hend : news.isEnd = true) :
    phase = .resting ∧ demand = .rest restTime := by
  cases h <;> first | exact ⟨rfl, rfl⟩ | cases hend

/-- The turns that the bot takes from a phase, in which it has been since some time, to another. While
it listens, events are forwarded in between. -/
inductive Turns (bot : Bot) : Phase → Nat → Chronicle → Phase → Nat → Prop where
  | nil {phase : Phase} {since : Nat} : Turns bot phase since [] phase since
  | forwarded {since since' t : Nat} {event : Event} {l : Chronicle} {last : Phase}
      (h : Turns bot .listening since l last since') :
      Turns bot .listening since ((t, .forwarded event) :: l) last since'
  | told {before phase last : Phase} {since t since' : Nat} {news : News} {demand : Demand}
      {l : Chronicle} (hturn : Turn bot before news phase demand) (hle : since ≤ t)
      (hrested : news = .rested → t = since + restTime.toNat)
      (h : Turns bot phase t l last since') :
      Turns bot before since ((t, .told news) :: (t, .asked demand) :: l) last since'

namespace Turns

variable {bot : Bot} {first middle last : Phase} {since since₁ since' t : Nat}
  {l before after : Chronicle}

theorem append {l' : Chronicle} (h : Turns bot first since l middle since₁)
    (h' : Turns bot middle since₁ l' last since') : Turns bot first since (l ++ l') last since' := by
  induction h with
  | nil => exact h'
  | forwarded _ ih => exact .forwarded (ih h')
  | told hturn hle hrested _ ih => exact .told hturn hle hrested (ih h')

/-- After news the bot at once asks for what the turn says, and goes on from there. -/
theorem of_told {news : News} (h : Turns bot first since l last since')
    (hsplit : l = before ++ (t, .told news) :: after) :
    ∃ old phase demand rest, Turn bot old news phase demand ∧ after = (t, .asked demand) :: rest ∧
      Turns bot phase t rest last since' := by
  induction h generalizing before with
  | nil => simp at hsplit
  | forwarded h ih =>
    cases before with
    | nil => cases hsplit
    | cons entry before => exact ih (List.cons.inj hsplit).2
  | told hturn hle hrested h ih =>
    -- a turn makes two entries: the news are the first, and never the second
    rcases before with _ | ⟨entry, _ | ⟨entry', before⟩⟩
    · cases hsplit
      exact ⟨_, _, _, _, hturn, rfl, h⟩
    · cases hsplit
    · exact ih (List.cons.inj (List.cons.inj hsplit).2).2

/-- After a request for a session the bot waits for the answer. -/
theorem of_connect (h : Turns bot first since l last since')
    (hsplit : l = before ++ (t, .asked .connect) :: after) :
    since + restTime.toNat ≤ t ∧ Turns bot .connecting t after last since' := by
  induction h generalizing before with
  | nil => simp at hsplit
  | forwarded h ih =>
    cases before with
    | nil => cases hsplit
    | cons entry before => exact ih (List.cons.inj hsplit).2
  | told hturn hle hrested h ih =>
    rcases before with _ | ⟨entry, _ | ⟨entry', before⟩⟩
    · cases hsplit
    · -- the request is made in this turn, which ends a rest
      cases hsplit
      cases hturn
      exact ⟨Nat.le_of_eq (hrested rfl).symm, h⟩
    · obtain ⟨hlater, hafter⟩ := ih (List.cons.inj (List.cons.inj hsplit).2).2
      exact ⟨Nat.le_trans (Nat.add_le_add_right hle _) hlater, hafter⟩

/-! ### Up to the next request -/

theorem of_resting (h : Turns bot .resting since l last since') :
    posts l = [] ∧ opens l = [] ∧
      (nextConnect? l = some (since + restTime.toNat) ∨
        nextConnect? l = none ∧ last = .resting ∧ since' = since) := by
  cases h with
  | nil => exact ⟨rfl, rfl, Or.inr ⟨rfl, rfl, rfl⟩⟩
  | told hturn hle hrested h =>
    cases hturn
    exact ⟨rfl, rfl, Or.inl (by rw [← hrested rfl]; rfl)⟩

theorem of_listening (h : Turns bot .listening since l last since') :
    posts l = [] ∧ opens l = [] := by
  generalize hfirst : Phase.listening = first at h
  induction h with
  | nil => exact ⟨rfl, rfl⟩
  | forwarded _ ih => exact ih rfl
  | told hturn _ _ h ih =>
    subst hfirst
    cases hturn with
    | event event => exact ih rfl
    | ended => exact ⟨h.of_resting.1, h.of_resting.2.1⟩

theorem of_opening {url : String} (h : Turns bot (.opening url) since l last since') :
    posts l = [] ∧ opens l = [] := by
  cases h with
  | nil => exact ⟨rfl, rfl⟩
  | told hturn _ _ h =>
    cases hturn with
    | opened => exact h.of_listening
    | unopened => exact ⟨h.of_resting.1, h.of_resting.2.1⟩

theorem of_greeting {session : Slack.Session}
    (h : Turns bot (.greeting session) since l last since') :
    posts l = [] ∧ opens l <+: [session.url] := by
  cases h with
  | nil => exact ⟨rfl, List.nil_prefix⟩
  | told hturn _ _ h =>
    cases hturn with
    | posted session answer =>
      -- the stream is asked for in this turn, and not in a later one
      obtain ⟨hposts, hopens⟩ := h.of_opening
      refine ⟨hposts, ?_⟩
      exact ⟨[], (List.append_nil _).trans (congrArg (session.url :: ·) hopens)⟩

end Turns

end Lifecycle

/-- The events that wait in the buffer, which is there while the bot listens. -/
def Phase.waiting (buffer : List Event) : Phase → List Event
  | .listening => buffer
  | _ => []

namespace Life

open Lifecycle (Turn Turns)

variable {bot : Bot} {p q : Life}

/-! ## The turns of a run -/

/-- The chronicle of a life is that of its turns, and no rest is overslept. -/
structure Tidy (bot : Bot) (p : Life) : Prop where
  since_le : p.since ≤ p.now
  resting : p.lifecycle.phase = .resting → p.now ≤ p.since + restTime.toNat
  turns : ∃ l, p.chronicle = (0, .asked .connect) :: l ∧
    Turns bot .connecting 0 l p.lifecycle.phase p.since

theorem tidy_start (bot : Bot) : Tidy bot {} where
  since_le := Nat.le_refl _
  resting h := by cases h
  turns := ⟨[], rfl, .nil⟩

/-- Turns that are added at the end. -/
theorem Tidy.exists_turns (h : Tidy bot p) {new : Chronicle} {phase : Phase} {since : Nat}
    (hchronicle : q.chronicle = p.chronicle ++ new)
    (hnew : Turns bot p.lifecycle.phase p.since new phase since) :
    ∃ l, q.chronicle = (0, .asked .connect) :: l ∧ Turns bot .connecting 0 l phase since := by
  obtain ⟨l, hl, hturns⟩ := h.turns
  exact ⟨l ++ new, by rw [hchronicle, hl, List.cons_append], hturns.append hnew⟩

/-- Every step keeps a life tidy. -/
theorem Tidy.change (h : Tidy bot p) (hchange : Change bot p q) : Tidy bot q := by
  cases hchange with
  | quiet hchronicle hlifecycle hsince hnow hrest =>
    refine ⟨?_, ?_, ?_⟩
    · rw [hsince]
      exact Nat.le_trans h.since_le hnow
    · intro hphase
      rw [hlifecycle] at hphase
      rw [hsince]
      rcases hrest hphase with hsame | hle
      · rw [hsame]
        exact h.resting hphase
      · exact hle
    · -- no turn is taken
      rw [hchronicle, hlifecycle, hsince]
      exact h.turns
  | forwarded event hphase hchronicle hlifecycle hsince hnow =>
    refine ⟨?_, ?_, ?_⟩
    · rw [hsince, hnow]
      exact h.since_le
    · rw [hlifecycle, hsince, hnow]
      exact h.resting
    · rw [hlifecycle, hsince]
      apply h.exists_turns hchronicle
      rw [hphase]
      exact .forwarded .nil
  | told news phase demand hturn hphase hchronicle hsince hnow hrested =>
    refine ⟨?_, ?_, ?_⟩
    · exact Nat.le_of_eq (hsince.trans hnow.symm)
    · -- a rest that begins now has all of its time before it
      intro _
      rw [hsince, hnow]
      exact Nat.le_add_right _ _
    · rw [hphase, hsince]
      exact h.exists_turns hchronicle (.told hturn h.since_le hrested .nil)

theorem tidy_of_run (hrun : Run bot {} p) : Tidy bot p := by
  induction hrun with
  | refl => exact tidy_start bot
  | tail _ hstep ih => exact ih.change hstep.change

/-- What follows news in the chronicle of a life. -/
theorem Tidy.of_told (h : Tidy bot p) {t : Nat} {news : News} {before after : Chronicle}
    (hsplit : p.chronicle = before ++ (t, .told news) :: after) :
    ∃ old phase demand rest, Turn bot old news phase demand ∧ after = (t, .asked demand) :: rest ∧
      Turns bot phase t rest p.lifecycle.phase p.since := by
  obtain ⟨l, hl, hturns⟩ := h.turns
  rw [hl] at hsplit
  cases before with
  | nil => cases hsplit
  | cons entry before => exact hturns.of_told (List.cons.inj hsplit).2

/-- What follows a request for a session. -/
theorem Tidy.of_connect (h : Tidy bot p) {t : Nat} {before after : Chronicle}
    (hsplit : p.chronicle = before ++ (t, .asked .connect) :: after) :
    Turns bot .connecting t after p.lifecycle.phase p.since := by
  obtain ⟨l, hl, hturns⟩ := h.turns
  rw [hl] at hsplit
  cases before with
  | nil =>
    cases hsplit
    exact hturns
  | cons entry before => exact (hturns.of_connect (List.cons.inj hsplit).2).2

/-! ## The buffer -/

/-- The events that have been forwarded and are still to be routed. -/
def waiting (p : Life) : List Event :=
  p.lifecycle.phase.waiting p.relay.buffer

/-- Nothing that has been forwarded is lost, and nothing of it waits while a session is asked for. -/
structure Backlog (p : Life) : Prop where
  balance : p.chronicle.filterMap forwarded? = p.chronicle.filterMap routed? ++ p.waiting
  drained : ∀ before t after, p.chronicle = before ++ (t, .asked .connect) :: after →
    before.filterMap forwarded? = before.filterMap routed?

theorem backlog_start : Backlog {} where
  balance := rfl
  drained before t after hsplit := by
    cases before with
    | nil => rfl
    | cons entry before => simp at hsplit

/-- A request in a chronicle that has grown is an old one, or is among the new entries. -/
theorem Backlog.drained_append (h : Backlog p) {new : Chronicle}
    (hnew : ∀ front t after, new = front ++ (t, .asked .connect) :: after →
      (p.chronicle ++ front).filterMap forwarded? = (p.chronicle ++ front).filterMap routed?)
    {before after : Chronicle} {t : Nat}
    (hsplit : p.chronicle ++ new = before ++ (t, .asked .connect) :: after) :
    before.filterMap forwarded? = before.filterMap routed? := by
  rcases List.append_eq_append_iff.mp hsplit with ⟨front, rfl, hfront⟩ | ⟨rest, hold, hrest⟩
  · exact hnew front t after hfront
  · cases rest with
    | nil =>
      -- the new entries begin with the request
      have hbefore := hnew [] t after hrest.symm
      rw [hold, List.append_nil, List.append_nil] at hbefore
      exact hbefore
    | cons entry rest =>
      obtain ⟨rfl, -⟩ := List.cons.inj hrest
      exact h.drained before t rest hold

/-- A turn keeps the backlog if what it routes comes from the front of what waits. -/
theorem Backlog.tell (h : Backlog p) {before phase : Phase} {news : News} {demand : Demand}
    (hbefore : p.lifecycle.phase = before) (hturn : Lifecycle.Turn bot before news phase demand)
    (relay : Relay)
    (hwaiting : before.waiting p.relay.buffer =
      (routed? (p.now, .told news)).toList ++ phase.waiting relay.buffer) :
    Backlog ({ p with relay := relay }.tell bot news) := by
  subst hbefore
  obtain ⟨hphase, hdemand⟩ := hturn.step
  have hchronicle : ({ p with relay := relay }.tell bot news).chronicle =
      p.chronicle ++ [(p.now, .told news), (p.now, .asked demand)] := by
    rw [← hdemand]
    rfl
  constructor
  · have hforwarded :
        List.filterMap forwarded? [(p.now, .told news), (p.now, .asked demand)] = [] := rfl
    have hrouted : List.filterMap routed? [(p.now, .told news), (p.now, .asked demand)] =
        (routed? (p.now, .told news)).toList := by
      cases news <;> rfl
    have hstill : ({ p with relay := relay }.tell bot news).waiting =
        phase.waiting relay.buffer := by
      rw [← hphase]
      rfl
    rw [hchronicle, List.filterMap_append, List.filterMap_append, h.balance, hforwarded, hrouted,
      hstill, List.append_nil, List.append_assoc, ← hwaiting]
    rfl
  · intro before t after hsplit
    rw [hchronicle] at hsplit
    refine h.drained_append ?_ hsplit
    rintro front t after hfront
    rcases front with _ | ⟨entry, _ | ⟨entry', front⟩⟩
    · cases hfront
    · -- a request ends a rest, in which nothing waits
      cases hfront
      obtain ⟨rfl, hresting⟩ := hturn.of_connect
      have hnone : p.waiting = [] := by
        rw [waiting, hresting]
        rfl
      rw [List.filterMap_append, List.filterMap_append, h.balance, hnone, List.append_nil]
      rfl
    · simp at hfront

theorem Backlog.step (h : Backlog p) (hstep : Step bot p q) : Backlog q := by
  cases hstep with
  | wait hnow hrest => exact ⟨h.balance, h.drained⟩
  | connected hphase answer =>
    cases answer with
    | ok session => exact h.tell hphase (.connected session) p.relay rfl
    | error f => exact h.tell hphase (.refused f) p.relay rfl
  | posted hphase answer => exact h.tell hphase (.posted _ answer) p.relay rfl
  | opened hphase socket => exact h.tell hphase (.opened _) _ rfl
  | unopened hphase => exact h.tell hphase (.unopened _) p.relay rfl
  | read hphase hread =>
    refine ⟨?_, h.drained⟩
    -- reading leaves the buffer alone
    rw [h.balance, waiting, waiting, hread.buffer_of_read]
  | @forward _ event hphase hsend =>
    constructor
    · have hrouted : List.filterMap routed? [(p.now, .forwarded event)] = [] := rfl
      rw [List.filterMap_append, List.filterMap_append, h.balance, hrouted, List.append_nil, waiting,
        waiting, hsend.buffer_of_send, hphase, List.append_assoc]
      rfl
    · intro before t after hsplit
      refine h.drained_append ?_ hsplit
      intro front t after hfront
      cases front <;> simp at hfront
  | route hphase hreceive => exact h.tell hphase (.event _) _ hreceive.buffer_of_receive
  | crash hphase => exact ⟨h.balance, h.drained⟩
  | ended hphase hfinished => exact h.tell hphase .ended p.relay hfinished.2
  | rested hphase hnow => exact h.tell hphase .rested p.relay rfl
  | ask htask ha => exact ⟨h.balance, h.drained⟩

theorem backlog_of_run (hrun : Run bot {} p) : Backlog p := by
  induction hrun with
  | refl => exact backlog_start
  | tail _ hstep ih => exact ih.step hstep

/-! ## The next session -/

theorem Change.prefix (h : Change bot p q) : p.chronicle <+: q.chronicle := by
  cases h with
  | quiet hchronicle => exact ⟨[], (List.append_nil _).trans hchronicle.symm⟩
  | forwarded event hphase hchronicle => exact ⟨_, hchronicle.symm⟩
  | told news phase demand hturn hphase hchronicle => exact ⟨_, hchronicle.symm⟩

theorem prefix_of_run (hrun : Run bot p q) : p.chronicle <+: q.chronicle := by
  induction hrun with
  | refl => exact List.prefix_rfl
  | tail _ hstep ih => exact ih.trans hstep.change.prefix

/-- Another session is asked for, after all that has been so far. -/
def Reconnects (bot : Bot) (p : Life) : Prop :=
  ∃ q before t, Run bot p q ∧ q.chronicle = before ++ [(t, .asked .connect)] ∧
    p.chronicle <+: before

theorem Reconnects.of_run (hrun : Run bot p q) (h : Reconnects bot q) : Reconnects bot p := by
  obtain ⟨r, before, t, hrun', hchronicle, hprefix⟩ := h
  exact ⟨r, before, t, hrun.trans hrun', hchronicle, (prefix_of_run hrun).trans hprefix⟩

theorem reconnects_of_resting (hphase : p.lifecycle.phase = .resting)
    (hrest : p.now ≤ p.since + restTime.toNat) : Reconnects bot p := by
  refine ⟨_, p.chronicle ++ [(p.since + restTime.toNat, .told .rested)], p.since + restTime.toNat,
    .tail (.single (.wait hrest fun _ => Nat.le_refl _)) (.rested hphase rfl), ?_,
    List.prefix_append _ _⟩
  simp only [tell, Lifecycle.step, hphase, Lifecycle.demand, List.append_assoc, List.cons_append,
    List.nil_append]

/-- The listener and the router can go on as they could on their own. -/
theorem exists_run_of_relay {relay : Relay} (hphase : p.lifecycle.phase = .listening)
    (hrun : Relay.Run p.relay relay) :
    ∃ q, Run bot p q ∧ q.lifecycle.phase = .listening ∧ q.relay = relay := by
  induction hrun with
  | refl => exact ⟨p, .refl, hphase, rfl⟩
  | @tail relay relay' _ hmove ih =>
    obtain ⟨q, hrun, hphase, rfl⟩ := ih
    obtain ⟨act, hstep⟩ := hmove
    -- the bot goes on listening meanwhile
    cases act with
    | read => exact ⟨_, hrun.tail (.read hphase hstep), hphase, rfl⟩
    | send event => exact ⟨_, hrun.tail (.forward hphase hstep), hphase, rfl⟩
    | receive event =>
      refine ⟨_, hrun.tail (.route hphase hstep), ?_, rfl⟩
      simp only [tell, Lifecycle.step, hphase]

/-- A turn into the rest leads to the next request. -/
theorem reconnects_of_end {before : Phase} {news : News}
    (hbefore : p.lifecycle.phase = before)
    (hturn : Lifecycle.Turn bot before news .resting (.rest restTime))
    (hstep : Step bot p (p.tell bot news)) : Reconnects bot p := by
  subst hbefore
  exact .of_run (.single hstep) (reconnects_of_resting hturn.step.1 (Nat.le_add_right _ _))

theorem reconnects_of_opening {url : String} (hphase : p.lifecycle.phase = .opening url) :
    Reconnects bot p :=
  reconnects_of_end hphase (.unopened url) (.unopened hphase)

/-- From any moment on, another session can be asked for. -/
theorem exists_run_connect (hrun : Run bot {} p) : Reconnects bot p := by
  have htidy := tidy_of_run hrun
  cases hphase : p.lifecycle.phase with
  | connecting =>
    exact reconnects_of_end hphase (.refused (.of .identityNotReady)) (.connected hphase _)
  | greeting session =>
    have hopening : (p.tell bot (.posted (.ok ()))).lifecycle.phase = .opening session.url := by
      simp only [tell, Lifecycle.step, hphase]
    exact .of_run (.single (.posted hphase _)) (reconnects_of_opening hopening)
  | opening url => exact reconnects_of_opening hphase
  | listening =>
    -- the listener comes to its end, and the session with it
    obtain ⟨relay, hrelay, hfinished⟩ := p.relay.exists_run_finished
    obtain ⟨q, hrun', hphase', rfl⟩ := exists_run_of_relay hphase hrelay
    exact .of_run hrun' (reconnects_of_end hphase' .ended (.ended hphase' hfinished))
  | resting => exact reconnects_of_resting hphase (htidy.resting hphase)

/-! ## Order -/

/-- The order of a life. -/
structure Orderly (bot : Bot) (p : Life) : Prop where
  /-- A session that has been opened is greeted by its own name at once, before its stream is asked for
  and anything else happens, and nothing else is posted until the next session is asked for. -/
  greeted : ∀ before t session after,
    p.chronicle = before ++ (t, .told (.connected (.ok session))) :: after →
      let greeting : Message :=
        { channel := bot.announce, text := Notice.hello session.me.name Herald.version }
      after.head? = some (t, .asked (.post greeting)) ∧ posts after = [greeting] ∧
        opens after <+: [session.url]
  /-- After a refusal nothing is posted and no stream is asked for. -/
  refused : ∀ before t f after,
    p.chronicle = before ++ (t, .told (.connected (.error f))) :: after →
      posts after = [] ∧ opens after = []
  /-- The stream is asked for whatever has become of the greeting. -/
  opening : ∀ before t answer after,
    p.chronicle = before ++ (t, .told (.posted answer)) :: after →
      ∃ url, after.head? = some (t, .asked (.openStream url))
  /-- After the end of a session, or of the attempt at one, the bot rests. It asks for the next session
  when the rest is over, or the time has not come yet. -/
  rests : ∀ before t news after,
    p.chronicle = before ++ (t, .told news) :: after → news.isEnd = true →
      after.head? = some (t, .asked (.rest restTime)) ∧
        (nextConnect? after = some (t + 5000) ∨ nextConnect? after = none ∧ p.now ≤ t + 5000)
  /-- All that has been forwarded is routed before the next session is asked for. -/
  drained : ∀ before t after, p.chronicle = before ++ (t, .asked .connect) :: after →
    before.filterMap forwarded? = before.filterMap routed?
  /-- Two requests for a session are at least a rest apart. -/
  apart : ∀ before t₁ between t₂ after,
    p.chronicle = before ++ (t₁, .asked .connect) :: (between ++ (t₂, .asked .connect) :: after) →
      t₁ + 5000 ≤ t₂
  /-- And there can always be another one. -/
  endless : Reconnects bot p

/-- Every life is orderly, whatever the world answers and in whatever order things happen. -/
theorem run_orderly (hrun : Run bot {} p) : Orderly bot p := by
  have htidy := tidy_of_run hrun
  refine ⟨?_, ?_, ?_, ?_, (backlog_of_run hrun).drained, ?_, exists_run_connect hrun⟩
  · intro before t session after hsplit
    obtain ⟨old, phase, demand, rest, hturn, rfl, hturns⟩ := htidy.of_told hsplit
    cases hturn
    -- what follows the request for the greeting are the turns of a bot that waits for its answer
    obtain ⟨hposts, hopens⟩ := hturns.of_greeting
    refine ⟨rfl, ?_, hopens⟩
    change _ :: posts rest = _
    rw [hposts]
    rfl
  · intro before t f after hsplit
    obtain ⟨old, phase, demand, rest, hturn, rfl, hturns⟩ := htidy.of_told hsplit
    cases hturn
    exact ⟨hturns.of_resting.1, hturns.of_resting.2.1⟩
  · intro before t answer after hsplit
    obtain ⟨old, phase, demand, rest, hturn, rfl, hturns⟩ := htidy.of_told hsplit
    cases hturn
    exact ⟨_, rfl⟩
  · intro before t news after hsplit hend
    obtain ⟨old, phase, demand, rest, hturn, rfl, hturns⟩ := htidy.of_told hsplit
    obtain ⟨rfl, rfl⟩ := hturn.of_isEnd hend
    refine ⟨rfl, ?_⟩
    obtain ⟨-, -, hnext | ⟨hnext, hphase, hsince⟩⟩ := hturns.of_resting
    · exact Or.inl hnext
    · -- the bot still rests
      have hrest := htidy.resting hphase
      rw [hsince] at hrest
      exact Or.inr ⟨hnext, hrest⟩
  · intro before t₁ between t₂ after hsplit
    exact ((htidy.of_connect hsplit).of_connect rfl).1

/-- A request is refused, the next one is not; the greeting cannot be posted, an event is routed, and
after the end of the session a third request is made. -/
theorem run_orderly_outage :
    let bot : Bot := { announce := "C1", schedule := ⟨500, none⟩ }
    let session : Slack.Session := ⟨"wss://a/", ⟨"U1", "herald"⟩⟩
    let lost : Failure := .of (.channelNotFound "C1")
    ∃ p, Run bot {} p ∧
      p.chronicle = [(0, .asked .connect),
        (20, .told (.connected (.error lost))), (20, .asked (.rest restTime)),
        (5020, .told .rested), (5020, .asked .connect),
        (5020, .told (.connected (.ok session))),
        (5020, .asked (.post { channel := "C1", text := Notice.hello "herald" Herald.version })),
        (5020, .told (.posted (.error lost))), (5020, .asked (.openStream "wss://a/")),
        (5020, .told (.opened true)), (5020, .asked .listen),
        (5020, .forwarded (.channelDeleted "C1")),
        (5020, .told (.event (.channelDeleted "C1"))), (5020, .asked .listen),
        (5020, .told .ended), (5020, .asked (.rest restTime)),
        (10020, .told .rested), (10020, .asked .connect)] ∧
      Orderly bot p := by
  intro bot session lost
  let deleted : Listener.Receipt :=
    { arrival := .text "\x7b\"channel\":\"C1\",\"type\":\"channel_deleted\"\x7d" }
  have hreact : Listener.react deleted = .forward (.channelDeleted "C1") := by decide +kernel
  have hread : (Relay.start [deleted]).Step .read
      { socket := [], stage := .sending (.channelDeleted "C1") } := by
    have hstep := @Relay.Step.read (Relay.start [deleted]) deleted [] rfl rfl
    rwa [Relay.look, hreact] at hstep
  have hrun : Run bot {} _ := Relation.ReflTransGen.refl
    |>.tail (.wait (Nat.zero_le 20) fun h => by cases h) |>.tail (.connected rfl (.error lost))
    |>.tail (@Step.wait bot _ 5020 (by decide) fun _ => by decide) |>.tail (.rested rfl rfl)
    |>.tail (.connected rfl (.ok session)) |>.tail (.posted rfl (.error lost))
    |>.tail (.opened rfl [deleted]) |>.tail (.read rfl hread)
    |>.tail (.forward rfl (.send rfl (by decide))) |>.tail (.route rfl (.receive rfl))
    |>.tail (.read rfl (.finish rfl rfl)) |>.tail (.ended rfl ⟨rfl, rfl⟩)
    |>.tail (@Step.wait bot _ 10020 (by decide) fun _ => by decide) |>.tail (.rested rfl rfl)
  exact ⟨_, hrun, rfl, run_orderly hrun⟩

end Life

end Herald
