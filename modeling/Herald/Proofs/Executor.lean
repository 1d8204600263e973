import Herald.System
import Herald.Proofs.Conduct
import Herald.Proofs.Interleaving

/-!
# The running bot as a run of its tasks

The running bot wakes one job at a time and lets it go on until it pauses or is done. A pool of
tasks `Mirrors` it if the jobs on its agenda are what is left of the tasks, up to their order and up
to tasks that are done, and if the world has been asked what the history of the pool says.

Whatever the running bot is put through, the pool keeps up (`Mirrors.undergo`). So each of its
courses is one of the runs of its tasks, in which no task is disturbed
(`System.exists_run_undisturbed`).
-/

namespace Herald

/-! ## The agenda -/

namespace Agenda

/-- The earliest sleeper and the others are all of them. -/
theorem earliest?_perm {sleepers others : List Sleeper} {s : Sleeper}
    (h : earliest? sleepers = some (s, others)) : sleepers.Perm (s :: others) := by
  induction sleepers generalizing s others with
  | nil => cases h
  | cons first rest ih =>
    rw [earliest?] at h
    cases hrest : earliest? rest with
    | none =>
      rw [hrest] at h
      cases h
      cases rest with
      | nil => exact .refl _
      | cons second rest =>
        -- one of several sleepers is the earliest
        rw [earliest?] at hrest
        split at hrest
        · cases hrest
        · split at hrest <;> cases hrest
    | some found =>
      obtain ⟨t, left⟩ := found
      have hperm := ih hrest
      simp only [hrest] at h
      split at h
      · cases h
        exact (hperm.cons first).trans (.swap _ _ _)
      · cases h
        exact .refl _

/-- The job to go on with and the jobs left are all of them. -/
theorem next?_perm {a a' : Agenda} {limit : Nat} {job : Job Unit}
    (h : a.next? limit = some (job, a')) :
    (a.sleepers.map Sleeper.job).Perm (job :: a'.sleepers.map Sleeper.job) := by
  unfold next? at h
  split at h
  · next s others hearliest =>
    split at h
    · cases h
      exact (earliest?_perm hearliest).map Sleeper.job
    · cases h
  · cases h

end Agenda

/-! ## The life of the bot -/

/-- The event that is taken from the news. -/
def Lifecycle.heard (l : Lifecycle) : News → List Event
  | .event e => if l.phase = .listening then [e] else []
  | _ => []

/-- News may change the phase; besides, they bring an identity or an event, or nothing. -/
theorem Lifecycle.step_cases (bot : Bot) (l : Lifecycle) (news : News) :
    (∃ phase, l.step bot news = (⟨phase, l.identity⟩, none) ∧ l.heard news = []) ∨
      (∃ phase new, l.step bot news = (⟨phase, Identity.publish l.identity new⟩, none) ∧
        l.heard news = []) ∨
      ∃ event, l.step bot news = (l, bot.route event) ∧ l.heard news = [event] := by
  obtain ⟨phase, identity⟩ := l
  cases news with
  | event e =>
    cases phase with
    | listening => exact Or.inr (Or.inr ⟨e, rfl, rfl⟩)
    | _ => exact Or.inl ⟨_, rfl, rfl⟩
  | connected answer =>
    cases phase with
    | connecting =>
      cases answer with
      | ok session => exact Or.inr (Or.inl ⟨_, session.me, rfl, rfl⟩)
      | error f => exact Or.inl ⟨_, rfl, rfl⟩
    | _ => exact Or.inl ⟨_, rfl, rfl⟩
  | opened success => cases phase <;> cases success <;> exact Or.inl ⟨_, rfl, rfl⟩
  | posted answer => cases phase <;> exact Or.inl ⟨_, rfl, rfl⟩
  | ended => cases phase <;> exact Or.inl ⟨_, rfl, rfl⟩
  | rested => cases phase <;> exact Or.inl ⟨_, rfl, rfl⟩

/-! ## Jobs that run until they pause -/

/-- A query that goes out to the world: the bot knows itself and lets time pass by itself. -/
def Query.isOutward : Query → Bool
  | .identity => false
  | .pause _ => false
  | _ => true

/-- The exchanges of a pool with the world. -/
def Pool.outward (p : Pool) : List Exchange :=
  (p.history.map (·.2)).filter (·.1.isOutward)

/-- Whoever answers does so as the world may, and keeps a log. -/
structure Recorder (world : World) (answer : (now : Nat) → (q : Query) → σ → q.Answer × σ)
    (log : σ → List Exchange) : Prop where
  answers : ∀ now q s held, q.isOutward = true → world.Answers held q (answer now q s).1
  log_answer : ∀ now q s, q.isOutward = true →
    log (answer now q s).2 = log s ++ [⟨q, (answer now q s).1⟩]

/-- What is left of a job that has halted. -/
def Job.Halt.rest : Job.Halt α → Job α
  | .done a => .done a
  | .pause _ rest => rest

/-- The jobs on the agenda are what is left of the tasks, up to their order and up to tasks that are
done. -/
def Agenda.Carries (a : Agenda) (tasks : List Task) : Prop :=
  ∃ finished, (a.sleepers.map Sleeper.job ++ List.replicate finished (Job.done ())).Perm
    (tasks.map Task.job)

namespace Agenda

variable {a a' : Agenda} {tasks : List Task}

/-- A task that starts. -/
theorem Carries.start (h : a.Carries tasks) (event : Event) (job : Job Unit) :
    (a.start job).Carries (tasks ++ [⟨event, job⟩]) := by
  obtain ⟨finished, hjobs⟩ := h
  refine ⟨finished, ?_⟩
  simp only [Agenda.start, List.map_append, List.map_cons, List.map_nil]
  rw [List.append_assoc]
  refine List.Perm.trans ?_ (hjobs.append_right [job])
  rw [List.append_assoc]
  exact List.perm_append_comm.append_left _

/-- What stands in front of an item and behind it stays when the item is replaced. -/
theorem exists_split {l : List α} {i : Nat} {x : α} (h : l[i]? = some x) :
    ∃ before behind, l = before ++ x :: behind ∧ ∀ y, l.set i y = before ++ y :: behind := by
  obtain ⟨hlt, hget⟩ := List.getElem?_eq_some_iff.mp h
  refine ⟨l.take i, l.drop (i + 1), ?_, fun y => List.set_eq_take_append_cons_drop.trans ?_⟩
  · rw [← hget, List.getElem_cons_drop, List.take_append_drop]
  · rw [if_pos hlt]

/-- A job that wakes is what is left of one of the tasks, and what is left of it when it halts stands
in the same place. -/
theorem Carries.exists_task (h : a.Carries tasks) {limit : Nat} {job : Job Unit}
    (hnext : a.next? limit = some (job, a')) :
    ∃ i event, tasks[i]? = some ⟨event, job⟩ ∧
      ∀ halt : Job.Halt Unit, (a'.keep halt).Carries (tasks.set i ⟨event, halt.rest⟩) := by
  obtain ⟨finished, hjobs⟩ := h
  have hperm := ((next?_perm hnext).append_right _).symm.trans hjobs
  rw [List.cons_append] at hperm
  obtain ⟨task, hmem, rfl⟩ := List.mem_map.mp (hperm.subset List.mem_cons_self)
  obtain ⟨i, htask⟩ := List.getElem?_of_mem hmem
  obtain ⟨before, behind, hsplit, hset⟩ := exists_split htask
  refine ⟨i, task.event, htask, ?_⟩
  intro halt
  rw [hsplit, List.map_append, List.map_cons] at hperm
  have hothers := (hperm.trans List.perm_middle).cons_inv
  have hperm' := List.perm_cons_append_cons halt.rest hothers
  rw [Carries, hset, List.map_append, List.map_cons]
  cases halt with
  | done u =>
    -- one more task is done
    exact ⟨finished + 1, List.perm_middle.trans hperm'⟩
  | pause ms rest =>
    refine ⟨finished, List.Perm.trans ?_ hperm'⟩
    simp only [keep, List.map_append, List.map_cons, List.map_nil]
    rw [List.append_assoc]
    exact List.perm_middle

end Agenda

/-- A job that runs until it halts takes a course, and whoever answers it keeps a log of what goes
out. -/
theorem Job.exists_course (allowed : (q : Query) → q.Answer → Prop) {held : Option Identity}
    {answer : (q : Query) → σ → q.Answer × σ} {log : σ → List Exchange}
    (hidentity : allowed .identity held) (hpause : ∀ ms, allowed (.pause ms) ())
    (hanswer : ∀ q s, q.isOutward = true →
      allowed q (answer q s).1 ∧ log (answer q s).2 = log s ++ [⟨q, (answer q s).1⟩])
    (job : Job α) (s : σ) :
    ∃ xs, job.Course xs (job.advance (System.withIdentity held answer) s).1.rest ∧
      (∀ x ∈ xs, allowed x.1 x.2) ∧
      log (job.advance (System.withIdentity held answer) s).2 =
        log s ++ xs.filter (·.1.isOutward) := by
  induction job generalizing s with
  | done a => exact ⟨[], .nil _, List.forall_mem_nil _, (List.append_nil _).symm⟩
  | ask query resume ih =>
    -- one query, and then on from its answer
    have hask : ∀ (a : query.Answer) (s' : σ), allowed query a →
        log s' = log s ++ [(⟨query, a⟩ : Exchange)].filter (·.1.isOutward) →
        ∃ xs, (Job.ask query resume).Course xs
            ((resume a).advance (System.withIdentity held answer) s').1.rest ∧
          (∀ x ∈ xs, allowed x.1 x.2) ∧
          log ((resume a).advance (System.withIdentity held answer) s').2 =
            log s ++ xs.filter (·.1.isOutward) := by
      intro a s' ha hlog
      obtain ⟨xs, hcourse, hallowed, hlog'⟩ := ih a s'
      refine ⟨⟨query, a⟩ :: xs, .ask hcourse, List.forall_mem_cons.mpr ⟨ha, hallowed⟩, ?_⟩
      rw [hlog', hlog, List.append_assoc, ← List.filter_append]
      rfl
    cases query with
    | pause ms =>
      by_cases hms : ms = 0
      · -- no time passes, and the job goes on
        simp only [Job.advance, if_pos hms]
        exact hask () s (hpause ms) (List.append_nil _).symm
      · simp only [Job.advance, if_neg hms]
        refine ⟨[⟨.pause ms, ()⟩], .ask (.nil _), ?_, (List.append_nil _).symm⟩
        exact List.forall_mem_cons.mpr ⟨hpause ms, List.forall_mem_nil _⟩
    | identity => exact hask held s hidentity (List.append_nil _).symm
    | channel | user | start | await | race | pick | generate | post =>
      refine hask _ _ ?_ ?_
      · exact (hanswer _ s rfl).1
      · exact (hanswer _ s rfl).2

section

variable {world : World} {answer : (now : Nat) → (q : Query) → σ → q.Answer × σ}
  {log : σ → List Exchange}

/-- A job that runs until it halts takes steps of its task. -/
theorem Recorder.exists_run_advance (hrec : Recorder world answer log) (bot : Bot) (now : Nat)
    {job : Job Unit} {p : Pool} {i : Nat} {event : Event} {s : σ}
    (htask : p.tasks[i]? = some ⟨event, job⟩) (hlog : p.outward = log s) :
    ∃ q, Pool.Run bot world p q ∧ q.incoming = p.incoming ∧ q.identity = p.identity ∧
      q.tasks = p.tasks.set i
        ⟨event, (job.advance (System.withIdentity p.identity (answer now)) s).1.rest⟩ ∧
      q.outward = log (job.advance (System.withIdentity p.identity (answer now)) s).2 := by
  obtain ⟨xs, hcourse, hallowed, hlog'⟩ :=
    Job.exists_course (world.Answers p.identity) rfl (fun _ => trivial)
      (fun q s hq => ⟨hrec.answers now q s _ hq, hrec.log_answer now q s hq⟩) job s
  refine ⟨_, Pool.run_course bot hcourse htask hallowed, rfl, rfl, rfl, ?_⟩
  rw [hlog', ← hlog, Pool.outward, Pool.outward, List.map_append, List.filter_append, List.map_map]
  exact congrArg (_ ++ ·) (congrArg _ (List.map_id xs))

end

/-! ## The running bot -/

namespace System

/-- What the running bot is put through. -/
inductive Stimulus where
  | tell (news : News)
  | work (limit : Nat)
  | wait (moment : Nat)

/-- The event that is taken in. -/
def heard (s : System) : Stimulus → List Event
  | .tell news => s.lifecycle.heard news
  | _ => []

variable (bot : Bot) (answer : (now : Nat) → (q : Query) → σ → q.Answer × σ)

/-- The running bot and the world after a stimulus. -/
def undergo (state : System × σ) : Stimulus → System × σ
  | .tell news => (state.1.tell bot news, state.2)
  | .work limit => (state.1.work answer limit state.2).getD state
  | .wait moment => (state.1.advanceTo moment, state.2)

/-- The events that are taken in while the stimuli come one after another. -/
def heardAll (state : System × σ) : List Stimulus → List Event
  | [] => []
  | x :: rest => state.1.heard x ++ heardAll (undergo bot answer state x) rest

end System

variable {world : World} {bot : Bot} {answer : (now : Nat) → (q : Query) → σ → q.Answer × σ}
  {log : σ → List Exchange}

/-- A pool that is where the running bot is. -/
structure Mirrors (log : σ → List Exchange) (state : System × σ) (p : Pool) : Prop where
  identity : p.identity = state.1.lifecycle.identity
  jobs : state.1.agenda.Carries p.tasks
  outward : p.outward = log state.2

/-- News that are told. -/
theorem Mirrors.tell {state : System × σ} {p : Pool} (h : Mirrors log state p) (news : News)
    {rest : List Event} (hincoming : p.incoming = state.1.lifecycle.heard news ++ rest) :
    ∃ q, Pool.Run bot world p q ∧ q.incoming = rest ∧
      Mirrors log (state.1.tell bot news, state.2) q := by
  rcases state.1.lifecycle.step_cases bot news with
    ⟨phase, hstep, hheard⟩ | ⟨phase, new, hstep, hheard⟩ | ⟨event, hstep, hheard⟩
  · rw [hheard] at hincoming
    have htell : state.1.tell bot news = ⟨⟨phase, state.1.lifecycle.identity⟩, state.1.agenda⟩ := by
      rw [System.tell, hstep]
    rw [htell]
    exact ⟨p, .refl, hincoming, h.identity, h.jobs, h.outward⟩
  · rw [hheard] at hincoming
    have htell : state.1.tell bot news =
        ⟨⟨phase, Identity.publish state.1.lifecycle.identity new⟩, state.1.agenda⟩ := by
      rw [System.tell, hstep]
    rw [htell]
    -- both keep the identity that they have
    refine ⟨_, .single (.publish p new), hincoming, ?_, h.jobs, h.outward⟩
    rw [h.identity]
  · rw [hheard] at hincoming
    refine ⟨_, .single (.route hincoming), rfl, ?_⟩
    cases hroute : bot.route event with
    | none =>
      have htell : state.1.tell bot news = state.1 := by
        rw [System.tell, hstep, hroute]
      rw [htell]
      simp only [Option.map_none, Option.toList_none, List.append_nil]
      exact ⟨h.identity, h.jobs, h.outward⟩
    | some job =>
      have htell : state.1.tell bot news =
          ⟨state.1.lifecycle, state.1.agenda.start job⟩ := by
        rw [System.tell, hstep, hroute]
      rw [htell]
      exact ⟨h.identity, h.jobs.start event job, h.outward⟩

/-- A job that is woken. -/
theorem Mirrors.work (bot : Bot) (hrec : Recorder world answer log) {state : System × σ} {p : Pool}
    (h : Mirrors log state p) (limit : Nat) :
    ∃ q, Pool.Run bot world p q ∧ q.incoming = p.incoming ∧
      Mirrors log ((state.1.work answer limit state.2).getD state) q := by
  unfold System.work Agenda.step
  cases hnext : state.1.agenda.next? limit with
  | none => exact ⟨p, .refl, rfl, h⟩
  | some woken =>
    obtain ⟨job, agenda⟩ := woken
    obtain ⟨i, event, htask, hleft⟩ := h.jobs.exists_task hnext
    obtain ⟨q, hrun, hincoming, hidentity, htasks, houtward⟩ :=
      hrec.exists_run_advance bot agenda.now htask h.outward
    rw [h.identity] at htasks houtward
    refine ⟨q, hrun, hincoming, hidentity.trans h.identity, ?_, houtward⟩
    rw [htasks]
    exact hleft _

/-- Whatever the running bot is put through, the pool keeps up with it. -/
theorem Mirrors.undergo (hrec : Recorder world answer log) {state : System × σ} {p : Pool}
    (h : Mirrors log state p) (x : System.Stimulus) {rest : List Event}
    (hincoming : p.incoming = state.1.heard x ++ rest) :
    ∃ q, Pool.Run bot world p q ∧ q.incoming = rest ∧
      Mirrors log (System.undergo bot answer state x) q := by
  cases x with
  | tell news => exact h.tell news hincoming
  | work limit =>
    obtain ⟨q, hrun, hsame, hq⟩ := h.work bot hrec limit
    exact ⟨q, hrun, hsame.trans hincoming, hq⟩
  | wait moment => exact ⟨p, .refl, hincoming, h.identity, h.jobs, h.outward⟩

theorem Mirrors.exists_run (hrec : Recorder world answer log) (stimuli : List System.Stimulus)
    {state : System × σ} {p : Pool} (h : Mirrors log state p)
    (hincoming : p.incoming = System.heardAll bot answer state stimuli) :
    ∃ q, Pool.Run bot world p q ∧ q.incoming = [] ∧
      Mirrors log (stimuli.foldl (System.undergo bot answer) state) q := by
  induction stimuli generalizing state p with
  | nil => exact ⟨p, .refl, hincoming, h⟩
  | cons x stimuli ih =>
    obtain ⟨q, hrun, hrest, hq⟩ := h.undergo hrec x hincoming
    obtain ⟨r, hnext, hdone, hr⟩ := ih hq hrest
    exact ⟨r, hrun.trans hnext, hdone, hr⟩

/-- From when the running bot knows who it is, whatever it is put through: its jobs are tasks that do
not disturb each other. -/
theorem System.exists_run_undisturbed {me : Identity} (hbot : bot.Settles world me)
    (hrec : Recorder world answer log) {s : System} (hidentity : s.lifecycle.identity = some me)
    (hidle : s.agenda.sleepers = []) {t : σ} (hlog : log t = []) (stimuli : List Stimulus) :
    ∃ p, Mirrors log (stimuli.foldl (undergo bot answer) (s, t)) p ∧ p.incoming = [] ∧
      p.Undisturbed bot world me (heardAll bot answer (s, t) stimuli) := by
  have hstart : Mirrors log (s, t) (.start me (heardAll bot answer (s, t) stimuli)) := by
    refine ⟨hidentity.symm, ⟨0, ?_⟩, hlog.symm⟩
    rw [hidle]
    exact .refl _
  obtain ⟨p, hrun, hincoming, hp⟩ := hstart.exists_run hrec stimuli rfl
  exact ⟨p, hp, hincoming, Pool.undisturbed_of_settles hbot hrun⟩

end Herald
