import Herald.Proofs.Listening
import Mathlib.Logic.Relation
import Mathlib.Data.List.Basic

/-!
# From the socket to the router

The listener forwards events into a buffer of a hundred places, and the router takes them out of it
while the listener goes on. A `Relay` is such a listener with its buffer; its steps are those of the
listener and those of the router, in any order, and the listener waits while the buffer is full.

What the two make of a socket does not depend on the order of their steps:

* `Relay.Account` is the invariant: what has been heeded is received, buffered or about to be
  forwarded, and the pongs are those of the pings heeded.
* `Relay.rank` falls with each step, and there is a step until the end (`Relay.rank_lt`,
  `Relay.finished_or_step`), so every run comes to its end.
* `Relay.run_delivers` puts this together.
-/

namespace Herald

open Listener

/-! ## The relay -/

namespace Relay

/-- What the listener is at. -/
inductive Stage where
  | reading
  /-- It waits for a place in the buffer. -/
  | sending (event : Event)
  | ended

/-- The event that is about to be forwarded. -/
def Stage.pending : Stage → List Event
  | sending event => [event]
  | _ => []

/-- How many events the buffer can hold. -/
def capacity : Nat := 100

end Relay

/-- The listener, the buffer, and what has come out of them. -/
structure Relay where
  /-- What is still to arrive. -/
  socket : List Receipt
  stage : Relay.Stage := .reading
  buffer : List Event := []
  received : List Event := []
  pongs : List (List UInt8) := []

namespace Relay

/-- A socket of which nothing has been read. -/
def start (receipts : List Receipt) : Relay where
  socket := receipts

/-- The listener looks at a receipt. -/
def look (s : Relay) (r : Receipt) (rest : List Receipt) : Relay :=
  match react r with
  | .skip => { s with socket := rest }
  | .answer payload => { s with socket := rest, pongs := s.pongs ++ [payload] }
  | .forward event => { s with socket := rest, stage := .sending event }
  | .stop => { s with socket := rest, stage := .ended }

/-- What a step does: the listener looks at the socket or forwards an event, or the router takes
one. -/
inductive Act where
  | read
  | send (event : Event)
  | receive (event : Event)

/-- One step, of the listener or of the router. -/
inductive Step : Relay → Act → Relay → Prop where
  | read {s : Relay} {r : Receipt} {rest : List Receipt} (hstage : s.stage = .reading)
      (hsocket : s.socket = r :: rest) : Step s .read (s.look r rest)
  | finish {s : Relay} (hstage : s.stage = .reading) (hsocket : s.socket = []) :
      Step s .read { s with stage := .ended }
  | send {s : Relay} {event : Event} (hstage : s.stage = .sending event)
      (hroom : s.buffer.length < capacity) :
      Step s (.send event) { s with stage := .reading, buffer := s.buffer ++ [event] }
  | receive {s : Relay} {event : Event} {rest : List Event} (hbuffer : s.buffer = event :: rest) :
      Step s (.receive event) { s with buffer := rest, received := s.received ++ [event] }

theorem look_buffer (s : Relay) (r : Receipt) (rest : List Receipt) :
    (s.look r rest).buffer = s.buffer := by
  rw [look]
  cases react r <;> rfl

theorem Step.buffer_of_read {s t : Relay} (h : Step s .read t) : t.buffer = s.buffer := by
  cases h with
  | read hstage hsocket => exact look_buffer _ _ _
  | finish hstage hsocket => rfl

theorem Step.buffer_of_send {s t : Relay} {event : Event} (h : Step s (.send event) t) :
    t.buffer = s.buffer ++ [event] := by
  cases h
  rfl

theorem Step.buffer_of_receive {s t : Relay} {event : Event} (h : Step s (.receive event) t) :
    s.buffer = event :: t.buffer := by
  cases h with
  | receive hbuffer => exact hbuffer

/-- Some step. -/
def Moves (s t : Relay) : Prop :=
  ∃ act, Step s act t

/-- Any number of steps. -/
abbrev Run : Relay → Relay → Prop :=
  Relation.ReflTransGen Moves

/-- The listener has ended and the buffer is empty, which is what the router waits for. -/
def Finished (s : Relay) : Prop :=
  s.stage = .ended ∧ s.buffer = []

/-! ## The invariant -/

/-- The receipts that the listener will still heed. -/
def ahead (s : Relay) : List Receipt :=
  match s.stage with
  | .ended => []
  | _ => heeded s.socket

/-- What holds at any time: of the receipts to be heeded some have been, and nothing of them is lost
or out of order. -/
structure Account (receipts : List Receipt) (s : Relay) : Prop where
  split : ∃ seen, heeded receipts = seen ++ s.ahead ∧
    s.received ++ s.buffer ++ s.stage.pending = seen.filterMap Receipt.event? ∧
    s.pongs = seen.filterMap Receipt.payload?
  room : s.buffer.length ≤ capacity

variable {receipts : List Receipt} {s t : Relay} {act : Act}

theorem filterMap_concat {f : α → Option β} (l : List α) (a : α) :
    (l ++ [a]).filterMap f = l.filterMap f ++ (f a).toList := by
  rw [List.filterMap_append]
  cases h : f a with
  | none => rw [List.filterMap_cons_none h]; rfl
  | some b => rw [List.filterMap_cons_some h]; rfl

theorem account_start (receipts : List Receipt) : Account receipts (start receipts) :=
  ⟨⟨[], rfl, rfl, rfl⟩, Nat.zero_le _⟩

/-- A receipt that the listener looks at is heeded, unless it ends the listening. -/
theorem Account.look (h : Account receipts s) {r : Receipt} {rest : List Receipt}
    (hstage : s.stage = .reading) (hsocket : s.socket = r :: rest) :
    Account receipts (s.look r rest) := by
  obtain ⟨seen, hseen, hevents, hpongs⟩ := h.split
  have hahead : s.ahead = heeded (r :: rest) := by rw [ahead, hstage, hsocket]
  rw [hahead] at hseen
  rw [hstage] at hevents
  have hread : r.stops = false → heeded receipts = (seen ++ [r]) ++ heeded rest := by
    intro hr
    rw [hseen, heeded_cons hr, List.append_assoc]
    rfl
  rcases react_cases r with ⟨hreact, hr⟩ | ⟨hreact, hr, hevent, hpayload⟩ |
    ⟨payload, hreact, hr, hevent, hpayload⟩ | ⟨event, hreact, hr, hevent, hpayload⟩
  all_goals simp only [Relay.look, hreact]
  · -- the end of the listening
    rw [heeded_cons_of_stops hr] at hseen
    exact ⟨⟨seen, hseen, hevents, hpongs⟩, h.room⟩
  · -- the receipt has been seen, and brings nothing
    refine ⟨⟨seen ++ [r], ?_, ?_, ?_⟩, h.room⟩
    · rw [ahead, hstage]
      exact hread hr
    · rw [hstage, hevents, filterMap_concat, hevent, Option.toList_none, List.append_nil]
    · rw [hpongs, filterMap_concat, hpayload, Option.toList_none, List.append_nil]
  · refine ⟨⟨seen ++ [r], ?_, ?_, ?_⟩, h.room⟩
    · rw [ahead, hstage]
      exact hread hr
    · rw [hstage, hevents, filterMap_concat, hevent, Option.toList_none, List.append_nil]
    · rw [hpongs, filterMap_concat, hpayload, Option.toList_some]
  · -- its event is held by the listener until there is room for it
    refine ⟨⟨seen ++ [r], hread hr, ?_, ?_⟩, h.room⟩
    · rw [filterMap_concat, hevent, ← hevents, Option.toList_some]
      simp only [Stage.pending, List.append_nil]
    · rw [hpongs, filterMap_concat, hpayload, Option.toList_none, List.append_nil]

/-- Every step keeps the account. -/
theorem Account.step (h : Account receipts s) (hstep : Step s act t) : Account receipts t := by
  cases hstep with
  | read hstage hsocket => exact h.look hstage hsocket
  | finish hstage hsocket =>
    obtain ⟨seen, hseen, hevents, hpongs⟩ := h.split
    have hahead : s.ahead = [] := by rw [ahead, hstage, hsocket, heeded_nil]
    rw [hahead] at hseen
    rw [hstage] at hevents
    exact ⟨⟨seen, hseen, hevents, hpongs⟩, h.room⟩
  | @send event hstage hroom =>
    obtain ⟨seen, hseen, hevents, hpongs⟩ := h.split
    have hahead : s.ahead = heeded s.socket := by rw [ahead, hstage]
    rw [hahead] at hseen
    rw [hstage] at hevents
    refine ⟨⟨seen, hseen, ?_, hpongs⟩, ?_⟩
    · -- the event moves from the listener to the end of the buffer
      rw [← hevents]
      simp [Stage.pending]
    · rw [List.length_append]
      exact hroom
  | @receive event rest hbuffer =>
    obtain ⟨seen, hseen, hevents, hpongs⟩ := h.split
    have hroom := h.room
    rw [hbuffer] at hevents hroom
    refine ⟨⟨seen, hseen, ?_, hpongs⟩, Nat.le_of_succ_le hroom⟩
    -- and from the front of the buffer to the router
    rw [← hevents]
    simp

/-- And so does every run. -/
theorem account_of_run (hrun : Run (start receipts) s) : Account receipts s := by
  induction hrun with
  | refl => exact account_start receipts
  | tail _ hmove ih =>
    obtain ⟨act, hstep⟩ := hmove
    exact ih.step hstep

/-- At any time the events forwarded are the first ones. -/
theorem Account.forwarded_prefix (h : Account receipts s) :
    s.received ++ s.buffer <+: events receipts := by
  obtain ⟨seen, hseen, hevents, -⟩ := h.split
  rw [events, hseen, List.filterMap_append, ← hevents, List.append_assoc]
  exact List.prefix_append _ _

theorem Account.pongs_prefix (h : Account receipts s) : s.pongs <+: payloads receipts := by
  obtain ⟨seen, hseen, -, hpongs⟩ := h.split
  rw [payloads, hseen, List.filterMap_append, ← hpongs]
  exact List.prefix_append _ _

/-- At the end they are all of them. -/
theorem Account.exact (h : Account receipts s) (hfinished : s.Finished) :
    s.received = events receipts ∧ s.pongs = payloads receipts := by
  obtain ⟨seen, hseen, hevents, hpongs⟩ := h.split
  obtain ⟨hstage, hbuffer⟩ := hfinished
  have hahead : s.ahead = [] := by rw [ahead, hstage]
  rw [hahead, List.append_nil] at hseen
  rw [hbuffer, hstage, List.append_nil] at hevents
  constructor
  · rw [events, hseen, ← hevents]
    exact (List.append_nil _).symm
  · rw [payloads, hseen, hpongs]

/-! ## Coming to an end -/

/-- What is left to do: three steps for each receipt, and what the listener and the buffer hold. -/
def rank (s : Relay) : Nat :=
  3 * s.socket.length + s.buffer.length +
    match s.stage with
    | .reading => 1
    | .sending _ => 3
    | .ended => 0

/-- Each step leaves less to do. -/
theorem rank_lt (hstep : Step s act t) : t.rank < s.rank := by
  cases hstep with
  | @read r rest hstage hsocket =>
    have hrank : s.rank = 3 * (rest.length + 1) + s.buffer.length + 1 := by
      simp only [rank, hstage, hsocket, List.length_cons]
    -- a receipt is gone, which outweighs an event to send
    rw [hrank]
    cases hreact : react r with
    | forward event => simp only [rank, look, hreact]; omega
    | answer payload => simp only [rank, look, hreact, hstage]; omega
    | skip => simp only [rank, look, hreact, hstage]; omega
    | stop => simp only [rank, look, hreact]; omega
  | finish hstage hsocket => simp only [rank, hstage, hsocket]; omega
  | send hstage hroom =>
    simp only [rank, hstage, List.length_append, List.length_cons, List.length_nil]
    omega
  | receive hbuffer =>
    simp only [rank, hbuffer, List.length_cons]
    omega

/-- There is something to do until the listener has ended and the buffer is empty. -/
theorem finished_or_step (s : Relay) : s.Finished ∨ ∃ t, Moves s t := by
  cases hbuffer : s.buffer with
  | cons event rest => exact Or.inr ⟨_, _, .receive hbuffer⟩
  | nil =>
    cases hstage : s.stage with
    | reading =>
      cases hsocket : s.socket with
      | nil => exact Or.inr ⟨_, _, .finish hstage hsocket⟩
      | cons r rest => exact Or.inr ⟨_, _, .read hstage hsocket⟩
    | sending event =>
      -- an empty buffer has room
      have hroom : s.buffer.length < capacity := by rw [hbuffer]; decide
      exact Or.inr ⟨_, _, .send hstage hroom⟩
    | ended => exact Or.inl ⟨hstage, hbuffer⟩

/-- No run goes on for ever. -/
theorem acc_moves (s : Relay) : Acc (fun t s => Moves s t) s := by
  refine Subrelation.accessible ?_ (InvImage.accessible rank (Nat.lt_wfRel.wf.apply _))
  intro t s hmove
  obtain ⟨act, hstep⟩ := hmove
  exact rank_lt hstep

/-- Every run can be brought to its end. -/
theorem exists_run_finished (s : Relay) : ∃ t, Run s t ∧ t.Finished := by
  induction acc_moves s with
  | intro s _ ih =>
    rcases s.finished_or_step with hfinished | ⟨t, hmove⟩
    · exact ⟨s, .refl, hfinished⟩
    · obtain ⟨u, hrun, hfinished⟩ := ih t hmove
      exact ⟨u, hrun.head hmove, hfinished⟩

/-! ## Delivery -/

/-- What the listener and the router make of a socket. -/
structure Delivers (receipts : List Receipt) (s : Relay) : Prop where
  /-- At any time the first events have been forwarded, in order and each once, and of these the
  router has received the first. -/
  forwarded : s.received ++ s.buffer <+: events receipts
  /-- And the first pings have been answered, each by one pong of its payload. -/
  pongs : s.pongs <+: payloads receipts
  room : s.buffer.length ≤ capacity
  /-- At the end it is all of them. -/
  exact : s.Finished → s.received = events receipts ∧ s.pongs = payloads receipts
  /-- That is what comes of listening without a buffer. -/
  listened : s.Finished →
    s.received = (listen none receipts).events ∧ s.pongs = (listen none receipts).pongs
  /-- A binary message, a pong or a text that is no event might as well not have arrived. -/
  idle : s.Finished → ∀ front r back, receipts = front ++ r :: back → r.isIdle = true →
    s.received = events (front ++ back) ∧ s.pongs = payloads (front ++ back)
  /-- What follows a receipt that ends the listening comes to nothing. -/
  silent : ∀ front r back, receipts = front ++ r :: back → r.stops = true →
    s.received ++ s.buffer <+: events front ∧ s.pongs <+: payloads front
  /-- There is a step until the end, whoever has made the last one. -/
  progress : s.Finished ∨ ∃ t, Moves s t
  /-- No choice of steps goes on for ever. -/
  ends : Acc (fun t s => Moves s t) s

/-- In whatever order the listener and the router take their steps, the router receives the events
of the socket up to its end, and the pings up to it are answered. -/
theorem run_delivers (hrun : Run (start receipts) s) : Delivers receipts s := by
  have h := account_of_run hrun
  refine ⟨h.forwarded_prefix, h.pongs_prefix, h.room, h.exact, ?_, ?_, ?_, s.finished_or_step,
    acc_moves s⟩
  · intro hfinished
    rw [listen_eq]
    exact h.exact hfinished
  · rintro hfinished front r back rfl hidle
    obtain ⟨hstops, hevent, hpayload⟩ := Receipt.of_isIdle hidle
    obtain ⟨hreceived, hpongs⟩ := h.exact hfinished
    constructor
    · rw [hreceived, events, filterMap_heeded_of_idle hstops hevent]
      rfl
    · rw [hpongs, payloads, filterMap_heeded_of_idle hstops hpayload]
      rfl
  · rintro front r back rfl hstops
    -- what is heeded of the whole is what is heeded of the front
    have hforwarded := h.forwarded_prefix
    have hpongs := h.pongs_prefix
    rw [events, heeded_append_cons_of_stops front hstops] at hforwarded
    rw [payloads, heeded_append_cons_of_stops front hstops] at hpongs
    exact ⟨hforwarded, hpongs⟩

/-- More events than the buffer holds, a text that is none, and a ping arrive before a close. -/
theorem run_delivers_burst :
    let deleted : Receipt :=
      { arrival := .text "\x7b\"channel\":\"C1\",\"type\":\"channel_deleted\"\x7d" }
    let receipts := List.replicate 150 deleted ++
      [⟨.text "\x7b", true⟩, ⟨.ping [7], true⟩, ⟨.binary, true⟩, ⟨.close, true⟩, deleted]
    ∃ s, Run (start receipts) s ∧ s.Finished ∧
      s.received = List.replicate 150 (.channelDeleted "C1") ∧ s.pongs = [[7]] ∧
      Delivers receipts s := by
  intro deleted receipts
  have hdeleted : deleted.event? = some (.channelDeleted "C1") := by decide +kernel
  have hjunk : Receipt.event? ⟨.text "\x7b", true⟩ = none := by decide +kernel
  have hheeded : heeded receipts =
      List.replicate 150 deleted ++ [⟨.text "\x7b", true⟩, ⟨.ping [7], true⟩, ⟨.binary, true⟩] :=
    List.takeWhile_append_of_pos fun r hr => by rw [List.eq_of_mem_replicate hr]; rfl
  have hevents : events receipts = List.replicate 150 (.channelDeleted "C1") := by
    rw [events, hheeded, List.filterMap_append, List.filterMap_replicate_of_some hdeleted,
      List.filterMap_cons_none hjunk]
    exact List.append_nil _
  have hpayloads : payloads receipts = [[7]] := by
    rw [payloads, hheeded, List.filterMap_append, List.filterMap_replicate_of_none rfl]
    rfl
  obtain ⟨s, hrun, hfinished⟩ := exists_run_finished (start receipts)
  have hdelivers := run_delivers hrun
  obtain ⟨hreceived, hpongs⟩ := hdelivers.exact hfinished
  exact ⟨s, hrun, hfinished, hreceived.trans hevents, hpongs.trans hpayloads, hdelivers⟩

end Relay

end Herald
