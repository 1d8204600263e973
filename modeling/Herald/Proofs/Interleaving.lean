import Herald.Proofs.Tasks
import Herald.Proofs.World

/-!
# Tasks side by side

Each event that calls for a job starts a task, and the tasks go on beside each other: in a
`Pool.Step` the next event is routed, a session publishes its identity, or any one of the tasks asks
its next query. So a `Pool.Run` is one of all the ways to interleave them, and a task that has two
look-ups under way may find the others between their beginnings and their answers. What the tasks
share is the bot, the world and the identity; the history tells for each exchange which task it is
of.

`Pool.Account` is the invariant: what a task has exchanged is a part of the way of its event.
`Pool.run_undisturbed` draws the conclusions: no task is disturbed by the others, and none can be
kept from being done.
-/

namespace Herald

/-! ## The pool of tasks -/

/-- The events to come, the tasks started so far in their order, and the exchanges of all tasks. -/
structure Pool where
  identity : Option Identity
  incoming : List Event
  tasks : List Task := []
  history : History := []

namespace Pool

/-- An identity is known, and some events are to come. -/
def start (me : Identity) (events : List Event) : Pool where
  identity := some me
  incoming := events

/-- One step, of any of the tasks or of what goes on around them. -/
inductive Step (bot : Bot) (world : World) : Pool → Pool → Prop where
  | route {p : Pool} {event : Event} {rest : List Event} (h : p.incoming = event :: rest) :
      Step bot world p { p with
        incoming := rest
        tasks := p.tasks ++ ((bot.route event).map (⟨event, ·⟩)).toList }
  | publish (p : Pool) (new : Identity) :
      Step bot world p { p with identity := Identity.publish p.identity new }
  | ask {p : Pool} {i : Nat} {event : Event} {q : Query} {resume : q.Answer → Job Unit}
      {a : q.Answer} (htask : p.tasks[i]? = some ⟨event, .ask q resume⟩)
      (ha : world.Answers p.identity q a) :
      Step bot world p { p with
        tasks := p.tasks.set i ⟨event, resume a⟩
        history := p.history ++ [(i, ⟨q, a⟩)] }

/-- Any number of steps. -/
abbrev Run (bot : Bot) (world : World) : Pool → Pool → Prop :=
  Relation.ReflTransGen (Step bot world)

/-- What a task has asked, and what it was told. -/
def exchangesOf (p : Pool) (i : Nat) : List Exchange :=
  p.history.of i

/-- All events have been routed and all tasks are done. -/
def Complete (p : Pool) : Prop :=
  p.incoming = [] ∧ ∀ task ∈ p.tasks, task.job = .done ()

/-- Whose turn it is. -/
inductive Turn where
  | router
  | session (new : Identity)
  | task (i : Nat)

/-- The step of a turn, if there is one. -/
def turn (bot : Bot) (world : World) (p : Pool) : Turn → Pool
  | .router =>
    match p.incoming with
    | event :: rest => { p with
        incoming := rest
        tasks := p.tasks ++ ((bot.route event).map (⟨event, ·⟩)).toList }
    | [] => p
  | .session new => { p with identity := Identity.publish p.identity new }
  | .task i =>
    match p.tasks[i]? with
    | some ⟨event, .ask q resume⟩ => { p with
        tasks := p.tasks.set i ⟨event, resume (world.answer p.identity q)⟩
        history := p.history ++ [(i, ⟨q, world.answer p.identity q⟩)] }
    | _ => p

/-- One turn after another. -/
def play (bot : Bot) (world : World) (p : Pool) (turns : List Turn) : Pool :=
  turns.foldl (turn bot world) p

theorem run_turn (bot : Bot) (world : World) (p : Pool) (t : Turn) :
    Run bot world p (p.turn bot world t) := by
  cases t with
  | router =>
    simp only [turn]
    split
    · next h => exact .single (.route h)
    · exact .refl
  | session new => exact .single (.publish p new)
  | task i =>
    simp only [turn]
    split
    · next q resume h => exact .single (.ask h (world.answers_answer p.identity q))
    · exact .refl

theorem run_play (bot : Bot) (world : World) (p : Pool) (turns : List Turn) :
    Run bot world p (p.play bot world turns) := by
  induction turns generalizing p with
  | nil => exact .refl
  | cons t turns ih => exact (run_turn bot world p t).trans (ih _)

end Pool

/-- The message that is posted, and what becomes of it. -/
def Exchange.post? : Exchange → Option (Message × Except Failure Unit)
  | ⟨.post m, outcome⟩ => some (m, outcome)
  | _ => none

/-- The messages that all tasks together have posted, and what became of them. -/
def Pool.posts (p : Pool) : List (Message × Except Failure Unit) :=
  p.history.filterMap (·.2.post?)

/-- An event that calls for nothing: one of another kind, or a message that no user typed or that is
not complete. -/
def Event.isSilent : Event → Bool
  | .message m => m.subtype.isSome || m.user.isNone || m.channel.isNone || m.text.isNone
  | .other => true
  | _ => false

/-- What the job of an event does if there is nothing else. -/
def Bot.alone (bot : Bot) (world : World) (me : Identity) (event : Event) : List Exchange :=
  match bot.route event with
  | some job => job.deedsIn world me
  | none => []

theorem Bot.route_eq_none_iff (bot : Bot) (event : Event) :
    bot.route event = none ↔ event.isSilent = true := by
  cases event with
  | message m =>
    obtain ⟨subtype, user, channel, text⟩ := m
    cases subtype <;> cases user <;> cases channel <;> cases text <;>
      simp [route, MessageEvent.typed?, Event.isSilent]
  | _ => simp [route, Event.isSilent]

theorem Bot.alone_of_isSilent (bot : Bot) (world : World) (me : Identity) {event : Event}
    (h : event.isSilent = true) : bot.alone world me event = [] := by
  rw [alone, (bot.route_eq_none_iff event).mpr h]

/-! ## The invariant -/

namespace Pool

/-- What holds of a pool at any time, if `me` is known and `events` were to come at the start. -/
structure Account (bot : Bot) (world : World) (me : Identity) (events : List Event) (p : Pool) :
    Prop extends Underway bot (world.Answers (some me)) p.tasks p.history where
  identity : p.identity = some me
  tasks : ∃ routed, events = routed ++ p.incoming ∧
    p.tasks.map Task.event = routed.filter (!·.isSilent)

variable {bot : Bot} {world : World} {me : Identity} {events : List Event} {p p' : Pool}

theorem account_start (bot : Bot) (world : World) (me : Identity) (events : List Event) :
    Account bot world me events (start me events) where
  toUnderway := .nil bot _
  identity := rfl
  tasks := ⟨[], rfl, rfl⟩

/-- An event that is routed starts a task, unless it calls for nothing. -/
theorem Account.route (h : Account bot world me events p) {event : Event} {rest : List Event}
    (hincoming : p.incoming = event :: rest) :
    Account bot world me events { p with
      incoming := rest
      tasks := p.tasks ++ ((bot.route event).map (⟨event, ·⟩)).toList } := by
  obtain ⟨routed, hevents, htasks⟩ := h.tasks
  have hevents' : events = routed ++ [event] ++ rest := by
    rw [hevents, hincoming, List.append_assoc]
    rfl
  refine ⟨h.toUnderway.start ?_, h.identity, routed ++ [event], hevents', ?_⟩
  · intro task htask
    obtain ⟨job, hroute, rfl⟩ := Option.map_eq_some_iff.mp (Option.mem_toList.mp htask)
    exact hroute
  · rw [List.map_append, htasks, List.filter_append]
    congr 1
    cases hroute : bot.route event with
    | none =>
      have hsilent := (bot.route_eq_none_iff event).mp hroute
      simp [hsilent]
    | some job =>
      have hloud : event.isSilent = false := by
        rw [← Bool.not_eq_true, ← bot.route_eq_none_iff, hroute]
        exact Option.some_ne_none job
      simp [hloud]

/-- A task goes on by one query. -/
theorem Account.ask (h : Account bot world me events p) {i : Nat} {event : Event} {q : Query}
    {resume : q.Answer → Job Unit} {a : q.Answer}
    (htask : p.tasks[i]? = some ⟨event, .ask q resume⟩) (ha : world.Answers p.identity q a) :
    Account bot world me events { p with
      tasks := p.tasks.set i ⟨event, resume a⟩
      history := p.history ++ [(i, ⟨q, a⟩)] } := by
  rw [h.identity] at ha
  obtain ⟨routed, hevents, htasks⟩ := h.tasks
  refine ⟨h.toUnderway.ask htask ha, h.identity, routed, hevents, ?_⟩
  rw [← htasks, List.map_set]
  -- the task is still of the same event
  obtain ⟨hlt, hget⟩ := List.getElem?_eq_some_iff.mp htask
  have hlength : i < (p.tasks.map Task.event).length := by rwa [List.length_map]
  have hsame : event = (p.tasks.map Task.event)[i] := by rw [List.getElem_map, hget]
  rw [hsame, List.set_getElem_self]

/-- Every step keeps the account. -/
theorem Account.step (h : Account bot world me events p) (hstep : Step bot world p p') :
    Account bot world me events p' := by
  cases hstep with
  | route hincoming => exact h.route hincoming
  | publish new =>
    -- the first identity is kept
    have hsame : { p with identity := Identity.publish p.identity new } = p := by
      rw [h.identity, Identity.publish_some, ← h.identity]
    rw [hsame]
    exact h
  | ask htask ha => exact h.ask htask ha

/-- And so does every run. -/
theorem account_of_run (hrun : Run bot world (start me events) p) :
    Account bot world me events p := by
  induction hrun with
  | refl => exact account_start bot world me events
  | tail _ hstep ih => exact ih.step hstep

/-! ## Getting done -/

/-- A task can take its course while the others wait. -/
theorem run_course (bot : Bot) {world : World} {p : Pool} {i : Nat} {event : Event}
    {job left : Job Unit} {xs : List Exchange} (hcourse : job.Course xs left)
    (htask : p.tasks[i]? = some ⟨event, job⟩)
    (hallowed : ∀ x ∈ xs, world.Answers p.identity x.1 x.2) :
    Run bot world p { p with
      tasks := p.tasks.set i ⟨event, left⟩
      history := p.history ++ xs.map (i, ·) } :=
  Task.run_course (fun tasks history => { p with tasks, history }) (fun htask ha => .ask htask ha)
    hcourse htask hallowed

/-- A task can be done whatever the others are at. -/
theorem exists_run_task (bot : Bot) (world : World) {job : Job Unit} {p : Pool} {i : Nat}
    {event : Event} (h : p.tasks[i]? = some ⟨event, job⟩) :
    ∃ q, Run bot world p q ∧ q.incoming = p.incoming ∧
      q.tasks = p.tasks.set i ⟨event, .done ()⟩ := by
  have hcourse := job.course_conclude (fun q s => (world.answer p.identity q, s)) ()
  refine ⟨_, run_course bot hcourse h ?_, rfl, rfl⟩
  intro x hx
  rw [Job.answer_of_mem_conclude (world.answer p.identity) job () x hx]
  exact world.answers_answer p.identity x.1

/-- The first `n` tasks can be done. -/
theorem exists_run_tasks (bot : Bot) (world : World) (p : Pool) (n : Nat) :
    ∃ q, Run bot world p q ∧ q.incoming = p.incoming ∧ q.tasks.length = p.tasks.length ∧
      ∀ i < n, ∀ task, q.tasks[i]? = some task → task.job = .done () := by
  induction n with
  | zero => exact ⟨p, .refl, rfl, rfl, fun i hi => by cases hi⟩
  | succ n ih =>
    obtain ⟨q, hrun, hincoming, hlength, hdone⟩ := ih
    cases hn : q.tasks[n]? with
    | none =>
      refine ⟨q, hrun, hincoming, hlength, fun i hi task htask => ?_⟩
      rcases Nat.lt_succ_iff_lt_or_eq.mp hi with hi | rfl
      · exact hdone i hi task htask
      · rw [hn] at htask
        cases htask
    | some last =>
      obtain ⟨r, hnext, hincoming', htasks⟩ := exists_run_task bot world hn
      refine ⟨r, hrun.trans hnext, hincoming'.trans hincoming, ?_, fun i hi task htask => ?_⟩
      · rw [htasks, List.length_set, hlength]
      · rw [htasks] at htask
        rcases Nat.lt_succ_iff_lt_or_eq.mp hi with hi | rfl
        · rw [List.getElem?_set_ne (by omega)] at htask
          exact hdone i hi task htask
        · obtain ⟨hlt, -⟩ := List.getElem?_eq_some_iff.mp hn
          rw [List.getElem?_set_self hlt] at htask
          rw [← Option.some.inj htask]

/-- All events can be routed. -/
theorem exists_run_incoming (bot : Bot) (world : World) (p : Pool) :
    ∃ q, Run bot world p q ∧ q.incoming = [] := by
  obtain ⟨identity, incoming, tasks, history⟩ := p
  induction incoming generalizing tasks with
  | nil => exact ⟨_, .refl, rfl⟩
  | cons event rest ih =>
    obtain ⟨q, hrun, hincoming⟩ := ih (tasks ++ ((bot.route event).map (⟨event, ·⟩)).toList)
    exact ⟨q, hrun.head (Step.route rfl), hincoming⟩

/-- From any pool on, everything can be done. -/
theorem exists_run_complete (bot : Bot) (world : World) (p : Pool) :
    ∃ q, Run bot world p q ∧ q.Complete := by
  obtain ⟨q, hrouted, hincoming⟩ := exists_run_incoming bot world p
  obtain ⟨r, hdone, hincoming', hlength, hjobs⟩ := exists_run_tasks bot world q q.tasks.length
  refine ⟨r, hrouted.trans hdone, hincoming'.trans hincoming, fun task htask => ?_⟩
  obtain ⟨i, hi⟩ := List.getElem?_of_mem htask
  obtain ⟨hlt, -⟩ := List.getElem?_eq_some_iff.mp hi
  exact hjobs i (hlength ▸ hlt) task hi

/-! ## No task is disturbed -/

/-- What the tasks of a pool do to each other: nothing. -/
structure Undisturbed (bot : Bot) (world : World) (me : Identity) (events : List Event) (p : Pool) :
    Prop where
  /-- The tasks are those of the events routed so far, in their order, without the silent ones. -/
  tasks : ∃ routed, events = routed ++ p.incoming ∧
    p.tasks.map Task.event = routed.filter (!·.isSilent)
  /-- Each exchange is of one of the tasks. -/
  owned : ∀ entry ∈ p.history, entry.1 < p.tasks.length
  /-- Each task has gone a part of the way of its event, and was told what the world answers. -/
  course : ∀ i task, p.tasks[i]? = some task → ∃ job, bot.route task.event = some job ∧
    job.Course (p.exchangesOf i) task.job ∧ world.Grants me (p.exchangesOf i)
  /-- What it has done, whether it has two look-ups under way or not, is what it does alone, as far
  as it has got. -/
  alone : ∀ i task, p.tasks[i]? = some task →
    deeds (p.exchangesOf i) <+: bot.alone world me task.event ∧
      (task.job = .done () → deeds (p.exchangesOf i) = bot.alone world me task.event)
  /-- Here alone means: in any run in which there is no other event. -/
  single : ∀ event q, Run bot world (start me [event]) q → q.Complete →
    q.history = (q.exchangesOf 0).map (0, ·) ∧
      deeds (q.exchangesOf 0) = bot.alone world me event
  /-- Once everything is done, what has been posted is what the events post alone. -/
  posts : p.Complete →
    p.posts.Perm (events.flatMap fun event => (bot.alone world me event).filterMap Exchange.post?)
  /-- Everything can be done, whatever has come first. -/
  finish : ∃ q, Run bot world p q ∧ q.Complete

theorem Account.alone (h : Account bot world me events p) (hbot : bot.Settles world me) {i : Nat}
    {task : Task} (htask : p.tasks[i]? = some task) :
    deeds (p.exchangesOf i) <+: bot.alone world me task.event ∧
      (task.job = .done () → deeds (p.exchangesOf i) = bot.alone world me task.event) := by
  obtain ⟨job, hroute, hcourse⟩ := h.course i task htask
  obtain ⟨hpart, hwhole⟩ :=
    (hbot task.event job hroute).deeds_of_course hcourse (h.allowed_of i)
  rw [Bot.alone, hroute]
  exact ⟨hpart, hwhole ()⟩

theorem flatMap_filter_of_nil {f : α → List β} {keep : α → Bool}
    (h : ∀ a, keep a = false → f a = []) (l : List α) :
    (l.filter keep).flatMap f = l.flatMap f := by
  induction l with
  | nil => rfl
  | cons a l ih =>
    cases hkeep : keep a with
    | true => rw [List.filter_cons_of_pos hkeep, List.flatMap_cons, List.flatMap_cons, ih]
    | false =>
      have hdrop : ¬ keep a = true := by simp [hkeep]
      rw [List.filter_cons_of_neg hdrop, List.flatMap_cons, h a hkeep, List.nil_append, ih]

/-- To wait is not to post. -/
theorem filterMap_post?_deeds (xs : List Exchange) :
    (deeds xs).filterMap Exchange.post? = xs.filterMap Exchange.post? := by
  rw [deeds, List.filterMap_filter]
  refine List.filterMap_congr ?_
  rintro ⟨q, a⟩ -
  cases q <;> rfl

/-- Once everything is done, what has been posted is what the events post alone. -/
theorem Account.posts_of_complete (h : Account bot world me events p)
    (hbot : bot.Settles world me) (hcomplete : p.Complete) :
    p.posts.Perm
      (events.flatMap fun event => (bot.alone world me event).filterMap Exchange.post?) := by
  obtain ⟨hincoming, hdone⟩ := hcomplete
  obtain ⟨routed, hevents, htasks⟩ := h.tasks
  rw [hincoming, List.append_nil] at hevents
  have htask : ∀ i : Fin p.tasks.length, (p.history.of i).filterMap Exchange.post? =
      (bot.alone world me (p.tasks.get i).event).filterMap Exchange.post? := by
    intro i
    have hget : p.tasks[i.val]? = some (p.tasks.get i) := List.getElem?_eq_getElem i.isLt
    rw [← (h.alone hbot hget).2 (hdone _ (List.get_mem ..)), filterMap_post?_deeds]
    rfl
  have hperm := (History.perm_flatMap_of h.owned).filterMap Exchange.post?
  rw [List.filterMap_map, List.filterMap_flatMap] at hperm
  refine hperm.trans (List.Perm.of_eq ?_)
  -- task by task, and then event by event
  calc ((List.finRange p.tasks.length).flatMap fun i : Fin p.tasks.length =>
          (p.history.of i).filterMap Exchange.post?)
      = (p.tasks.map Task.event).flatMap fun event =>
          (bot.alone world me event).filterMap Exchange.post? := by
        rw [List.flatMap_congr fun i _ => htask i, List.flatMap_map]
        conv_rhs => rw [← List.map_get_finRange p.tasks, List.flatMap_map]
    _ = _ := by
        rw [htasks, hevents]
        refine flatMap_filter_of_nil (fun event hloud => ?_) routed
        rw [bot.alone_of_isSilent world me (by simpa using hloud), List.filterMap_nil]

/-- The history of a single task is what this task has exchanged. -/
theorem history_eq_of_owned (h : ∀ entry ∈ p.history, entry.1 < 1) :
    p.history = (p.exchangesOf 0).map (0, ·) := by
  have hzero : ∀ entry ∈ p.history, entry.1 = 0 := fun entry hentry =>
    Nat.lt_one_iff.mp (h entry hentry)
  have hfilter : p.history.filter (·.1 = 0) = p.history := by
    rw [List.filter_eq_self]
    exact fun entry hentry => decide_eq_true (hzero entry hentry)
  have hmap : p.history.map ((0, ·) ∘ Prod.snd) = p.history.map id :=
    List.map_congr_left fun entry hentry => Prod.ext (hzero entry hentry).symm rfl
  rw [exchangesOf, History.of, hfilter, List.map_map, hmap, List.map_id]

/-- With one event there is one task at most, and it does what it does alone. -/
theorem Account.history_of_single {event : Event} (h : Account bot world me [event] p)
    (hbot : bot.Settles world me) (hcomplete : p.Complete) :
    p.history = (p.exchangesOf 0).map (0, ·) ∧
      deeds (p.exchangesOf 0) = bot.alone world me event := by
  obtain ⟨routed, hevents, htasks⟩ := h.tasks
  rw [hcomplete.1, List.append_nil] at hevents
  rw [← hevents] at htasks
  have howned := h.owned
  cases hsilent : event.isSilent with
  | true =>
    -- no task has been started, so none has asked anything
    have hnone : p.tasks = [] := by simpa [hsilent] using htasks
    rw [hnone] at howned
    have hnothing : p.exchangesOf 0 = [] := History.of_eq_nil howned (Nat.le_refl 0)
    rw [bot.alone_of_isSilent world me hsilent, hnothing]
    refine ⟨?_, rfl⟩
    rw [List.map_nil, List.eq_nil_iff_forall_not_mem]
    exact fun entry hentry => Nat.not_lt_zero _ (howned entry hentry)
  | false =>
    have hmap : p.tasks.map Task.event = [event] := by simpa [hsilent] using htasks
    obtain ⟨task, hone, rfl⟩ := List.map_eq_singleton_iff.mp hmap
    rw [hone] at howned
    have hzero : p.tasks[0]? = some task := by rw [hone]; rfl
    have hdone := hcomplete.2 task (by simp [hone])
    exact ⟨history_eq_of_owned howned, (h.alone hbot hzero).2 hdone⟩

/-- The tasks of a bot whose jobs settle are not disturbed. -/
theorem undisturbed_of_settles (hbot : bot.Settles world me)
    (hrun : Run bot world (start me events) p) : Undisturbed bot world me events p := by
  have h := account_of_run hrun
  refine ⟨h.tasks, h.owned, fun i task htask => ?_, fun i task htask => h.alone hbot htask,
    fun event q hq hcomplete => ?_, h.posts_of_complete hbot, exists_run_complete bot world p⟩
  · obtain ⟨job, hroute, hcourse⟩ := h.course i task htask
    exact ⟨job, hroute, hcourse, h.allowed_of i⟩
  · exact (account_of_run hq).history_of_single hbot hcomplete

/-- The tasks of a bot with the built-in actions are not disturbed, in whatever order they go on. -/
theorem run_undisturbed {announce : String} {schedule : Schedule} (hone : world.OneCandidate me)
    (hrun : Run { announce, schedule } world (start me events) p) :
    Undisturbed { announce, schedule } world me events p :=
  undisturbed_of_settles (Bot.settles_of_actions (CommandTable.settles_builtIn hone)) hrun

/-- A world with one user beside the bot. -/
def village : World where
  channel id := .ok {
    id, name := "square", created := 0, creator := "U1", members := ["U1", "UBOT"] }
  user id := .ok { id, name := "taro" }
  generate name := .ok ("dear " ++ name)
  post _ := .ok ()

theorem village_oneCandidate : village.OneCandidate ⟨"UBOT", "herald"⟩ := by
  rintro id channel h
  cases h
  exact (by decide : (["U1", "UBOT"].filter (· ≠ "UBOT")).length ≤ 1)

/-- The two look-ups of a notice are both under way while a command goes on and another session
opens. -/
theorem run_undisturbed_village :
    let bot : Bot := { announce := "C0", schedule := ⟨1000, none⟩ }
    let events := [.message ⟨none, some "U1", some "C1", some "$ ojichat"⟩, .other,
      .memberLeft "U2" "C9"]
    let p := (start ⟨"UBOT", "herald"⟩ events).play bot village
      [.router, .task 0, .router, .task 0, .router, .task 1, .task 1, .task 0, .task 1, .task 0,
        .session ⟨"U9", "x"⟩, .task 1, .task 0, .task 1, .task 0, .task 1, .task 0]
    p.history.map (·.1) = [0, 0, 1, 1, 0, 1, 0, 1, 0, 1, 0, 1, 0] ∧
      (p.exchangesOf 1).map (·.1) = [.channel "C9", .start (.user "U1"), .start (.user "U2"),
        .race (.user "U1") (.user "U2"), .await (.user "U2"),
        .post { channel := "C9", text := ":loudspeaker: @taro 抜け忍を検知 => @taro" }] ∧
      p.posts.map (·.1.channel) = ["C1", "C9"] ∧
      Undisturbed bot village ⟨"UBOT", "herald"⟩ events p :=
  ⟨by decide +kernel, by decide +kernel, by decide +kernel,
    run_undisturbed village_oneCandidate (run_play _ _ _ _)⟩

end Pool

end Herald
