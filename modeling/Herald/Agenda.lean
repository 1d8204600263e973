import Herald.Job

/-!
# The agenda

The bot has many jobs at a time. Each of them runs until it is done or pauses; the agenda keeps the
pausing ones with the moment at which they go on, and wakes the earliest first, of several the one
that has waited in front. Moments are milliseconds from the start.
-/

namespace Herald

/-- A job that waits for a moment. -/
structure Sleeper where
  wake : Nat
  job : Job Unit

/-- The present moment and the jobs that wait. -/
structure Agenda where
  now : Nat := 0
  sleepers : List Sleeper := []

namespace Agenda

/-- Starts a job, which waits for its turn at the present moment. -/
def start (a : Agenda) (job : Job Unit) : Agenda :=
  { a with sleepers := a.sleepers ++ [⟨a.now, job⟩] }

/-- Takes the sleeper out that wakes first, of several the one in front. -/
def earliest? : List Sleeper → Option (Sleeper × List Sleeper)
  | [] => none
  | s :: rest =>
    match earliest? rest with
    | none => some (s, [])
    | some (t, others) => if t.wake < s.wake then some (t, s :: others) else some (s, rest)

/-- The job to go on with next, if one wakes by a moment; the time moves on to when it does. -/
def next? (a : Agenda) (limit : Nat) : Option (Job Unit × Agenda) :=
  match earliest? a.sleepers with
  | some (s, others) =>
    if s.wake ≤ limit then some (s.job, { now := max a.now s.wake, sleepers := others }) else none
  | none => none

/-- Keeps what is left of a job that has just run: one that pauses sleeps. -/
def keep (a : Agenda) : Job.Halt Unit → Agenda
  | .done () => a
  | .pause ms rest => { a with sleepers := a.sleepers ++ [⟨a.now + ms.toNat, rest⟩] }

/-- Lets time pass up to a moment. -/
def advanceTo (a : Agenda) (moment : Nat) : Agenda :=
  { a with now := max a.now moment }

/-- Wakes the next job, if one wakes by a moment, and runs it until it is done or pauses. Whoever
answers its queries is told the present moment. -/
def step (answer : (now : Nat) → (q : Query) → σ → q.Answer × σ) (limit : Nat) (a : Agenda) (s : σ) :
    Option (Agenda × σ) :=
  (a.next? limit).map fun (job, a) =>
    let (halt, s) := job.advance (answer a.now) s
    (a.keep halt, s)

end Agenda

end Herald
