import Herald.Bot
import Herald.Proofs.Conduct
import Mathlib.Data.List.FinRange
import Mathlib.Data.List.Induction
import Mathlib.Data.List.Perm.Basic
import Mathlib.Logic.Relation

/-!
# Tasks

A task is what is left of the job of an event. Tasks go on beside each other, one query at a time, and
a history tells for each exchange which task it is of.

* `Underway`: each task has gone a part of the way of its event. It stays so when tasks start
  (`Underway.start`) and when one of them asks (`Underway.ask`).
* `Task.run_course`: a task can take its course while the others wait.
* `History.perm_flatMap_of`: a history holds what its tasks have exchanged, and nothing else.
-/

namespace Herald

/-- What is left of the job of an event. -/
structure Task where
  event : Event
  job : Job Unit

/-- The exchanges of tasks, one after another. -/
abbrev History := List (Nat × Exchange)

namespace History

variable {history : History} {n i : Nat}

/-- What a task has asked, and what it was told. -/
def of (history : History) (i : Nat) : List Exchange :=
  (history.filter (·.1 = i)).map (·.2)

theorem of_concat (history : History) (i j : Nat) (x : Exchange) :
    History.of (history ++ [(i, x)]) j = history.of j ++ if i = j then [x] else [] := by
  by_cases h : i = j <;> simp [of, h]

theorem mem_of {x : Exchange} : x ∈ history.of i ↔ (i, x) ∈ history := by
  simp [of]

/-- A task that is still to start has exchanged nothing. -/
theorem of_eq_nil (h : ∀ entry ∈ history, entry.1 < n) (hi : n ≤ i) : history.of i = [] := by
  have hfilter : history.filter (·.1 = i) = [] := by
    rw [List.filter_eq_nil_iff]
    intro entry hentry
    have howned := h entry hentry
    simp only [decide_eq_true_eq]
    omega
  rw [of, hfilter, List.map_nil]

theorem flatMap_finRange_ite (x : α) (i : Fin n) :
    ((List.finRange n).flatMap fun j => if i = j then [x] else []) = [x] := by
  obtain ⟨before, behind, hsplit⟩ := List.append_of_mem (List.mem_finRange i)
  have hnodup := List.nodup_finRange n
  rw [hsplit] at hnodup ⊢
  obtain ⟨-, hbehind, hbefore⟩ := List.nodup_append'.mp hnodup
  have hnone : ∀ l : List (Fin n), i ∉ l → (l.flatMap fun j => if i = j then [x] else []) = [] := by
    intro l hl
    rw [List.flatMap_eq_nil_iff]
    intro j hj
    refine if_neg ?_
    rintro rfl
    exact hl hj
  rw [List.flatMap_append, List.flatMap_cons, if_pos rfl,
    hnone before fun h => hbefore h List.mem_cons_self,
    hnone behind (List.nodup_cons.mp hbehind).1]
  rfl

/-- What the tasks have exchanged is all of the history. -/
theorem perm_flatMap_of (h : ∀ entry ∈ history, entry.1 < n) :
    (history.map (·.2)).Perm ((List.finRange n).flatMap fun i : Fin n => history.of i) := by
  induction history using List.reverseRecOn with
  | nil => simp [of]
  | append_singleton history entry ih =>
    obtain ⟨i, x⟩ := entry
    obtain ⟨hold, hnew⟩ := List.forall_mem_append.mp h
    have hi : i < n := hnew (i, x) List.mem_cons_self
    have hone : ((List.finRange n).flatMap fun j : Fin n => if i = j then [x] else []) = [x] := by
      have hsame := flatMap_finRange_ite x ⟨i, hi⟩
      simpa only [Fin.ext_iff] using hsame
    have hboth := List.flatMap_append_perm (List.finRange n) (fun j => History.of history j)
      fun j => if i = j then [x] else []
    rw [hone] at hboth
    simp only [of_concat, List.map_append, List.map_cons, List.map_nil]
    exact ((ih hold).append_right [x]).trans hboth

end History

/-! ## Tasks under way -/

/-- Each exchange is of one of the tasks and has an answer that it may have, and each task has gone a
part of the way of its event. -/
structure Underway (bot : Bot) (allowed : (q : Query) → q.Answer → Prop) (tasks : List Task)
    (history : History) : Prop where
  owned : ∀ entry ∈ history, entry.1 < tasks.length
  answered : ∀ entry ∈ history, allowed entry.2.1 entry.2.2
  course : ∀ i task, tasks[i]? = some task →
    ∃ job, bot.route task.event = some job ∧ job.Course (history.of i) task.job

namespace Underway

variable {bot : Bot} {allowed : (q : Query) → q.Answer → Prop} {tasks : List Task}
  {history : History}

theorem nil (bot : Bot) (allowed : (q : Query) → q.Answer → Prop) : Underway bot allowed [] [] where
  owned entry h := by cases h
  answered entry h := by cases h
  course i task h := by cases h

/-- Tasks that start are at the start of their way. -/
theorem start (h : Underway bot allowed tasks history) {new : List Task}
    (hnew : ∀ task ∈ new, bot.route task.event = some task.job) :
    Underway bot allowed (tasks ++ new) history := by
  refine ⟨?_, h.answered, ?_⟩
  · intro entry hentry
    rw [List.length_append]
    exact Nat.lt_add_right _ (h.owned entry hentry)
  · intro i task htask
    rcases Nat.lt_or_ge i tasks.length with hi | hi
    · rw [List.getElem?_append_left hi] at htask
      exact h.course i task htask
    · rw [List.getElem?_append_right hi] at htask
      rw [History.of_eq_nil h.owned hi]
      exact ⟨task.job, hnew task (List.mem_of_getElem? htask), .nil _⟩

/-- A task asks, and is one step further on its way. -/
theorem ask (h : Underway bot allowed tasks history) {i : Nat} {event : Event} {q : Query}
    {resume : q.Answer → Job Unit} {a : q.Answer}
    (htask : tasks[i]? = some ⟨event, .ask q resume⟩) (ha : allowed q a) :
    Underway bot allowed (tasks.set i ⟨event, resume a⟩) (history ++ [(i, ⟨q, a⟩)]) := by
  obtain ⟨hi, -⟩ := List.getElem?_eq_some_iff.mp htask
  refine ⟨?_, ?_, ?_⟩
  · rw [List.length_set]
    exact List.forall_mem_append.mpr ⟨h.owned, List.forall_mem_singleton.mpr hi⟩
  · exact List.forall_mem_append.mpr ⟨h.answered, List.forall_mem_singleton.mpr ha⟩
  · intro j task hj
    rw [History.of_concat]
    by_cases hij : i = j
    · subst hij
      rw [List.getElem?_set_self hi] at hj
      cases hj
      obtain ⟨job, hroute, hcourse⟩ := h.course i _ htask
      rw [if_pos rfl]
      exact ⟨job, hroute, hcourse.concat a⟩
    · rw [List.getElem?_set_ne hij] at hj
      rw [if_neg hij, List.append_nil]
      exact h.course j task hj

/-- What a task has been told is what it may be told. -/
theorem allowed_of (h : Underway bot allowed tasks history) (i : Nat) :
    ∀ x ∈ history.of i, allowed x.1 x.2 :=
  fun x hx => h.answered (i, x) (History.mem_of.mp hx)

end Underway

/-- A task can take its course while the others wait, wherever tasks and their history stand. -/
theorem Task.run_course {Step : σ → σ → Prop} {allowed : (q : Query) → q.Answer → Prop}
    (place : List Task → History → σ)
    (hask : ∀ {tasks : List Task} {history : History} {i : Nat} {event : Event} {q : Query}
      {resume : q.Answer → Job Unit} {a : q.Answer}, tasks[i]? = some ⟨event, .ask q resume⟩ →
      allowed q a → Step (place tasks history)
        (place (tasks.set i ⟨event, resume a⟩) (history ++ [(i, ⟨q, a⟩)])))
    {tasks : List Task} {history : History} {i : Nat} {event : Event} {job left : Job Unit}
    {xs : List Exchange} (hcourse : job.Course xs left) (htask : tasks[i]? = some ⟨event, job⟩)
    (hallowed : ∀ x ∈ xs, allowed x.1 x.2) :
    Relation.ReflTransGen Step (place tasks history)
      (place (tasks.set i ⟨event, left⟩) (history ++ xs.map (i, ·))) := by
  -- one step for each exchange
  induction hcourse generalizing tasks history with
  | nil t =>
    obtain ⟨hlt, htask⟩ := List.getElem?_eq_some_iff.mp htask
    rw [← htask, List.set_getElem_self, List.map_nil, List.append_nil]
  | @ask q resume a rest left _ ih =>
    obtain ⟨hlt, -⟩ := List.getElem?_eq_some_iff.mp htask
    obtain ⟨ha, hrest⟩ := List.forall_mem_cons.mp hallowed
    have hnext : (tasks.set i ⟨event, resume a⟩)[i]? = some ⟨event, resume a⟩ :=
      List.getElem?_set_self hlt
    have hrun := @ih _ (history ++ [(i, ⟨q, a⟩)]) hnext hrest
    rw [List.set_set, List.append_assoc] at hrun
    exact hrun.head (hask htask ha)

end Herald
