import Herald.Failure
import Herald.Message

/-!
# Repeated runs

A schedule runs an action a number of times, one iteration after the other: the action makes a
message, the message is posted, and a pause follows, the last time too. The first failure of
either ends the run; what has been posted stays. How often an action runs may be capped.

The run is written over any monad in which messages can be posted and time can pass, so that it
means the same for the bot and for a scripted world.
-/

namespace Herald

/-- What became of a run. -/
structure RunReport where
  /-- The iterations asked for, after the cap. -/
  requested : UInt32
  /-- The iterations whose message was posted. -/
  posted : UInt32
  /-- The failure that ended the run early. -/
  error : Option Failure
  deriving Repr, DecidableEq

/-- Whether every iteration asked for was posted. -/
def RunReport.isComplete (r : RunReport) : Bool :=
  r.error.isNone && r.posted = r.requested

/-- What a run needs from the world: a way to post and a way to let time pass. -/
structure Outlet (m : Type → Type) where
  post : Message → m (Except Failure Unit)
  pause : UInt64 → m Unit

/-- How actions are repeated. -/
structure Schedule where
  /-- The pause after each post, in milliseconds. -/
  delay : UInt64
  /-- The most iterations of a run, without bound if absent. -/
  maxRuns : Option UInt32
  deriving Repr, DecidableEq

namespace Schedule

/-- How many iterations a run gets that asks for `runs`. -/
def clamp (s : Schedule) (runs : UInt32) : UInt32 :=
  match s.maxRuns with
  | some max => if max < runs then max else runs
  | none => runs

variable {m : Type → Type} [Monad m]

/-- Runs the last `left` of the iterations asked for, when `posted` have been posted already. -/
def runFrom (s : Schedule) (outlet : Outlet m) (name : String) (act : m (Except Failure Message))
    (requested : UInt32) : (left : Nat) → (posted : UInt32) → m RunReport
  | 0, posted => pure ⟨requested, posted, none⟩
  | left + 1, posted => do
    let iteration := posted + 1
    match ← act with
    | .error f => pure ⟨requested, posted, some (f.within (.running name iteration requested))⟩
    | .ok message =>
      match ← outlet.post message with
      | .error f => pure ⟨requested, posted, some (f.within (.posting name iteration requested))⟩
      | .ok () => do
        outlet.pause s.delay
        runFrom s outlet name act requested left iteration

/-- Runs an action, known by a name, as often as it is asked for and the cap allows. -/
def run (s : Schedule) (outlet : Outlet m) (name : String) (act : m (Except Failure Message))
    (runs : UInt32) : m RunReport :=
  s.runFrom outlet name act (s.clamp runs) (s.clamp runs).toNat 0

end Schedule

end Herald
