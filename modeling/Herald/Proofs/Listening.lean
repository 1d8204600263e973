import Herald.System

/-!
# What there is to hear on a socket

`Listener.heeded` are the receipts in front of the first that ends the listening: a close, a failure
or a ping that cannot be answered. The texts among them that are events are to be forwarded, the
pings among them to be answered, and all else is idle.

* `Listener.react_cases` says what the listener does about a receipt, once and for all.
* `Listener.listen_eq`: so much comes of listening to a socket.
* `System.hearAll_eq`: the running bot is told the same.
-/

namespace Herald

open WebSocket (Arrival)

/-! ## What there is to hear -/

namespace Listener

/-- Whether a receipt ends the listening. -/
def Receipt.stops (r : Receipt) : Bool :=
  match r.arrival with
  | .close => true
  | .failure => true
  | .ping _ => !r.writable
  | _ => false

/-- The event that a receipt reports. -/
def Receipt.event? (r : Receipt) : Option Event :=
  match r.arrival with
  | .text frame => (Event.parse frame).toOption
  | _ => none

/-- The payload of a ping. -/
def Receipt.payload? (r : Receipt) : Option (List UInt8) :=
  match r.arrival with
  | .ping payload => some payload
  | _ => none

/-- A receipt that nothing is done about: a binary message, a pong, or a text that is no event. -/
def Receipt.isIdle (r : Receipt) : Bool :=
  match r.arrival with
  | .binary => true
  | .pong => true
  | .text frame => (Event.parse frame).toOption.isNone
  | _ => false

/-- The receipts in front of the first one that ends the listening. -/
def heeded (receipts : List Receipt) : List Receipt :=
  receipts.takeWhile (!·.stops)

/-- The events to be forwarded, in the order of their arrival. -/
def events (receipts : List Receipt) : List Event :=
  (heeded receipts).filterMap Receipt.event?

/-- The payloads to be answered, in the order of their arrival. -/
def payloads (receipts : List Receipt) : List (List UInt8) :=
  (heeded receipts).filterMap Receipt.payload?

@[simp] theorem heeded_nil : heeded [] = [] := rfl

theorem heeded_cons_of_stops {r : Receipt} (h : r.stops = true) (rest : List Receipt) :
    heeded (r :: rest) = [] :=
  List.takeWhile_cons_of_neg (by simp [h])

theorem heeded_cons {r : Receipt} (h : r.stops = false) (rest : List Receipt) :
    heeded (r :: rest) = r :: heeded rest :=
  List.takeWhile_cons_of_pos (by simp [h])

/-- The reaction to a receipt is read off what it stops, reports and asks to be answered. -/
theorem react_cases (r : Receipt) :
    (react r = .stop ∧ r.stops = true) ∨
      (react r = .skip ∧ r.stops = false ∧ r.event? = none ∧ r.payload? = none) ∨
      (∃ payload, react r = .answer payload ∧ r.stops = false ∧ r.event? = none ∧
        r.payload? = some payload) ∨
      ∃ event, react r = .forward event ∧ r.stops = false ∧ r.event? = some event ∧
        r.payload? = none := by
  obtain ⟨arrival, writable⟩ := r
  cases arrival with
  | text frame =>
    -- what is no event is passed over
    cases hparse : Event.parse frame with
    | ok event =>
      refine Or.inr (Or.inr (Or.inr ⟨event, ?_, rfl, ?_, rfl⟩))
      · simp only [react, hparse]
      · simp only [Receipt.event?, hparse]
        rfl
    | error f =>
      refine Or.inr (Or.inl ⟨?_, rfl, ?_, rfl⟩)
      · simp only [react, hparse]
      · simp only [Receipt.event?, hparse]
        rfl
  | ping payload =>
    cases writable with
    | true => exact Or.inr (Or.inr (Or.inl ⟨payload, rfl, rfl, rfl, rfl⟩))
    | false => exact Or.inl ⟨rfl, rfl⟩
  | binary => exact Or.inr (Or.inl ⟨rfl, rfl, rfl, rfl⟩)
  | pong => exact Or.inr (Or.inl ⟨rfl, rfl, rfl, rfl⟩)
  | close => exact Or.inl ⟨rfl, rfl⟩
  | failure => exact Or.inl ⟨rfl, rfl⟩

/-- Nothing behind a receipt that ends the listening is heeded. -/
theorem heeded_append_cons_of_stops (front : List Receipt) {r : Receipt} (h : r.stops = true)
    (back : List Receipt) : heeded (front ++ r :: back) = heeded front := by
  induction front with
  | nil => exact heeded_cons_of_stops h back
  | cons first front ih =>
    cases hfirst : first.stops with
    | true => rw [List.cons_append, heeded_cons_of_stops hfirst, heeded_cons_of_stops hfirst]
    | false => rw [List.cons_append, heeded_cons hfirst, heeded_cons hfirst, ih]

/-- An idle receipt brings nothing, and does not end the listening. -/
theorem Receipt.of_isIdle {r : Receipt} (h : r.isIdle = true) :
    r.stops = false ∧ r.event? = none ∧ r.payload? = none := by
  obtain ⟨arrival, writable⟩ := r
  cases arrival with
  | text frame => exact ⟨rfl, Option.isNone_iff_eq_none.mp h, rfl⟩
  | binary => exact ⟨rfl, rfl, rfl⟩
  | pong => exact ⟨rfl, rfl, rfl⟩
  | _ => cases h

/-- An idle receipt makes no difference, wherever it arrives. -/
theorem filterMap_heeded_of_idle {f : Receipt → Option α} {r : Receipt} (hstops : r.stops = false)
    (hf : f r = none) (front back : List Receipt) :
    (heeded (front ++ r :: back)).filterMap f = (heeded (front ++ back)).filterMap f := by
  induction front with
  | nil => rw [List.nil_append, List.nil_append, heeded_cons hstops, List.filterMap_cons_none hf]
  | cons first front ih =>
    cases hfirst : first.stops with
    | true => rw [List.cons_append, List.cons_append, heeded_cons_of_stops hfirst,
        heeded_cons_of_stops hfirst]
    | false =>
      rw [List.cons_append, List.cons_append, heeded_cons hfirst, heeded_cons hfirst,
        List.filterMap_cons, List.filterMap_cons, ih]

theorem events_cons {r : Receipt} (h : r.stops = false) (rest : List Receipt) :
    events (r :: rest) = r.event?.toList ++ events rest := by
  rw [events, heeded_cons h, List.filterMap_cons]
  cases r.event? <;> rfl

theorem payloads_cons {r : Receipt} (h : r.stops = false) (rest : List Receipt) :
    payloads (r :: rest) = r.payload?.toList ++ payloads rest := by
  rw [payloads, heeded_cons h, List.filterMap_cons]
  cases r.payload? <;> rfl

theorem events_cons_of_stops {r : Receipt} (h : r.stops = true) (rest : List Receipt) :
    events (r :: rest) = [] := by
  rw [events, heeded_cons_of_stops h, List.filterMap_nil]

theorem payloads_cons_of_stops {r : Receipt} (h : r.stops = true) (rest : List Receipt) :
    payloads (r :: rest) = [] := by
  rw [payloads, heeded_cons_of_stops h, List.filterMap_nil]

/-- Nothing is heard after the end. -/
theorem foldl_push_of_ended (receipts : List Receipt) {heard : Heard} (h : heard.ended = true) :
    receipts.foldl (·.push none ·) heard = heard := by
  induction receipts with
  | nil => rfl
  | cons r rest ih => rw [List.foldl_cons, Heard.push, if_pos h, ih]

/-- What has been heard after some receipts more. -/
theorem foldl_push (receipts : List Receipt) (heard : Heard) (h : heard.ended = false) :
    receipts.foldl (·.push none ·) heard =
      ⟨heard.events ++ events receipts, heard.pongs ++ payloads receipts,
        receipts.any Receipt.stops⟩ := by
  induction receipts generalizing heard with
  | nil =>
    rw [List.foldl_nil, events, payloads, heeded_nil, List.filterMap_nil, List.filterMap_nil,
      List.append_nil, List.append_nil, List.any_nil, ← h]
  | cons r rest ih =>
    have hpush : ¬ heard.ended = true := by rw [h]; exact Bool.false_ne_true
    rw [List.foldl_cons, List.any_cons]
    rcases react_cases r with ⟨hreact, hr⟩ | ⟨hreact, hr, hevent, hpayload⟩ |
      ⟨payload, hreact, hr, hevent, hpayload⟩ | ⟨event, hreact, hr, hevent, hpayload⟩
    · have hpushed : heard.push none r = { heard with ended := true } := by
        simp only [Heard.push, if_neg hpush, hreact]
      rw [hpushed, foldl_push_of_ended rest rfl, events_cons_of_stops hr, payloads_cons_of_stops hr,
        hr, List.append_nil, List.append_nil, Bool.true_or]
    -- the listening goes on, with what the receipt brings in front of the rest
    all_goals rw [events_cons hr, payloads_cons hr, hevent, hpayload, hr, Bool.false_or]
    · have hpushed : heard.push none r = heard := by
        simp only [Heard.push, if_neg hpush, hreact]
      rw [hpushed, ih heard h]
      rfl
    · have hpushed : heard.push none r = { heard with pongs := heard.pongs ++ [payload] } := by
        simp only [Heard.push, if_neg hpush, hreact]
      rw [hpushed, ih { heard with pongs := heard.pongs ++ [payload] } h]
      simp only [Option.toList_none, Option.toList_some, List.append_assoc, List.nil_append]
    · have hpushed : heard.push none r = { heard with events := heard.events ++ [event] } := by
        simp only [Heard.push, if_neg hpush, hreact, if_neg (Option.some_ne_none _).symm]
      rw [hpushed, ih { heard with events := heard.events ++ [event] } h]
      simp only [Option.toList_none, Option.toList_some, List.append_assoc, List.nil_append]

/-- Listening without a buffer, as the bot does that waits for nothing. -/
theorem listen_eq (receipts : List Receipt) :
    listen none receipts = ⟨events receipts, payloads receipts, receipts.any Receipt.stops⟩ := by
  rw [listen, foldl_push receipts {} rfl, List.nil_append, List.nil_append]

end Listener

/-! ## What the running bot hears -/

namespace System

variable {bot : Bot} {s : System}

theorem isListening_iff : s.isListening = true ↔ s.lifecycle.phase = .listening :=
  decide_eq_true_iff

theorem lifecycle_tell (bot : Bot) (s : System) (news : News) :
    (s.tell bot news).lifecycle = (s.lifecycle.step bot news).1 := by
  rw [tell]
  cases hstep : s.lifecycle.step bot news with
  | mk lifecycle job => cases job <;> rfl

/-- A bot that listens goes on listening when it is told an event. -/
theorem isListening_tell_event (h : s.isListening = true) (event : Event) :
    (s.tell bot (.event event)).isListening = true := by
  have hphase := isListening_iff.mp h
  rw [isListening_iff, lifecycle_tell]
  simp only [Lifecycle.step, hphase]

theorem isListening_tell_ended (h : s.isListening = true) :
    (s.tell bot .ended).isListening = false := by
  have hphase := isListening_iff.mp h
  rw [isListening, lifecycle_tell]
  simp only [Lifecycle.step, hphase]
  rfl

/-- A bot that does not listen hears nothing. -/
theorem hearAll_of_not_listening (h : s.isListening = false) (receipts : List Listener.Receipt) :
    s.hearAll bot receipts = (s, []) := by
  induction receipts with
  | nil => rfl
  | cons r rest ih =>
    have hhear : s.hear bot r = (s, none) := by
      rw [hear, if_neg (by rw [h]; exact Bool.false_ne_true)]
    rw [hearAll, hhear]
    simp only [ih, Option.toList_none, List.nil_append]

/-- The bot that listens to a socket is told the events up to its end, and then the end. -/
theorem hearAll_eq (h : s.isListening = true) (receipts : List Listener.Receipt) :
    s.hearAll bot receipts =
      (let told := (Listener.events receipts).foldl (fun s event => s.tell bot (.event event)) s
      if receipts.any Listener.Receipt.stops then told.tell bot .ended else told,
        Listener.payloads receipts) := by
  induction receipts generalizing s with
  | nil => rfl
  | cons r rest ih =>
    rw [hearAll]
    rcases Listener.react_cases r with ⟨hreact, hr⟩ | ⟨hreact, hr, hevent, hpayload⟩ |
      ⟨payload, hreact, hr, hevent, hpayload⟩ | ⟨event, hreact, hr, hevent, hpayload⟩
    · have hhear : s.hear bot r = (s.tell bot .ended, none) := by
        rw [hear, if_pos h, hreact]
      rw [hhear, Listener.events_cons_of_stops hr, Listener.payloads_cons_of_stops hr,
        List.any_cons, hr]
      simp only [hearAll_of_not_listening (isListening_tell_ended h)]
      rfl
    -- the bot still listens when it hears the rest
    all_goals rw [Listener.events_cons hr, Listener.payloads_cons hr, List.any_cons, hevent, hpayload,
      hr, Bool.false_or]
    · have hhear : s.hear bot r = (s, none) := by
        rw [hear, if_pos h, hreact]
      rw [hhear]
      simp only [ih h]
      rfl
    · have hhear : s.hear bot r = (s, some payload) := by
        rw [hear, if_pos h, hreact]
      rw [hhear]
      simp only [ih h]
      rfl
    · have hhear : s.hear bot r = (s.tell bot (.event event), none) := by
        rw [hear, if_pos h, hreact]
      rw [hhear]
      simp only [ih (isListening_tell_event h event)]
      rfl

end System

end Herald
