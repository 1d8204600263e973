import Herald.Workspace
import Herald.Message

/-!
# Jobs

A job is work for the bot written as questions to the world outside: it is `done`, or it asks a
query and goes on with the answer. Time passes in a `pause` alone. So what a job may do is read off
its queries, and whoever answers decides when each of them happens: other jobs may run between two
queries.

A look-up may be begun by one query and waited for by another, so that two of them are under way at
once. `Attempt.join` waits for both of them, and `Attempt.tryJoin` until one of them fails.

`Job.advance` runs a job until it is done or time has to pass; a pause of no time at all does not stop
it.
-/

namespace Herald

/-- A look-up in the workspace. -/
inductive LookUp where
  | channel (id : String)
  | user (id : String)
  deriving Repr, DecidableEq

namespace LookUp

/-- What a look-up finds. -/
abbrev Found : LookUp → Type
  | channel _ => Channel
  | user _ => User

/-- What becomes of a look-up. -/
abbrev Answer (l : LookUp) : Type :=
  Except Failure l.Found

end LookUp

/-- A question to the world outside. -/
inductive Query where
  /-- Who the bot is, if a session has reported it by now. -/
  | identity
  | channel (id : String)
  | user (id : String)
  /-- Begins a look-up. Its answer may be there at once; otherwise it is under way. -/
  | start (l : LookUp)
  /-- Waits for a look-up that is under way. -/
  | await (l : LookUp)
  /-- Waits for the first of two look-ups that are under way. -/
  | race (l r : LookUp)
  /-- One of some candidates, at random. -/
  | pick (first : String) (rest : List String)
  /-- A text about someone. -/
  | generate (name : String)
  | post (m : Message)
  | pause (ms : UInt64)
  deriving Repr, DecidableEq

/-- What a query is answered with. -/
abbrev Query.Answer : Query → Type
  | identity => Option Identity
  | channel _ => Except Failure Channel
  | user _ => Except Failure User
  | start l => Option l.Answer
  | await l => l.Answer
  | race l r => l.Answer ⊕ r.Answer
  | pick first rest => { id : String // id ∈ first :: rest }
  | generate _ => Except Failure String
  | post _ => Except Failure Unit
  | pause _ => Unit

/-- Work that asks the world outside. -/
inductive Job (α : Type) where
  | done (a : α)
  | ask (q : Query) (resume : q.Answer → Job α)

namespace Job

/-- First one job, then the job that its result calls for. -/
def andThen (t : Job α) (f : α → Job β) : Job β :=
  match t with
  | done a => f a
  | ask q resume => ask q fun answer => (resume answer).andThen f

instance : Monad Job where
  pure := done
  bind := andThen

@[simp] theorem pure_eq (a : α) : (pure a : Job α) = done a := rfl

@[simp] theorem done_bind (a : α) (f : α → Job β) : done a >>= f = f a := rfl

@[simp] theorem ask_bind (q : Query) (resume : q.Answer → Job α) (f : α → Job β) :
    ask q resume >>= f = ask q fun answer => resume answer >>= f := rfl

theorem bind_done (t : Job α) : t >>= done = t := by
  induction t with
  | done a => rfl
  | ask q resume ih => simp only [ask_bind, ih]

theorem bind_bind (t : Job α) (f : α → Job β) (g : β → Job γ) :
    t >>= f >>= g = t >>= fun a => f a >>= g := by
  induction t with
  | done a => rfl
  | ask q resume ih => simp only [ask_bind, ih]

instance : LawfulMonad Job :=
  LawfulMonad.mk' _ bind_done (fun _ _ => rfl) bind_bind

/-- Asks one query. -/
def query (q : Query) : Job q.Answer :=
  ask q done

/-- Where a job stops for a time: it is done, or it pauses before what is left of it. -/
inductive Halt (α : Type) where
  | done (a : α)
  | pause (ms : UInt64) (rest : Job α)

/-- Runs a job until it is done or time has to pass. The queries are answered one after another, and
whoever answers keeps a state. -/
def advance (answer : (q : Query) → σ → q.Answer × σ) : Job α → σ → Halt α × σ
  | done a, s => (.done a, s)
  | ask (.pause ms) resume, s =>
    if ms = 0 then advance answer (resume ()) s else (.pause ms (resume ()), s)
  | ask q resume, s =>
    let (a, s) := answer q s
    advance answer (resume a) s

end Job

/-- Work that asks the world outside and may fail. -/
abbrev Attempt := ExceptT Failure Job

namespace Attempt

/-- Looks up a channel. -/
def channel (id : String) : Attempt Channel :=
  ExceptT.mk (Job.query (.channel id))

/-- Looks up a user. -/
def user (id : String) : Attempt User :=
  ExceptT.mk (Job.query (.user id))

/-- Has a text written about someone. -/
def generate (name : String) : Attempt String :=
  ExceptT.mk (Job.query (.generate name))

/-- Who the bot is, which has to be known by now. -/
def identity : Attempt Identity :=
  ExceptT.mk (Identity.require <$> Job.query .identity)

/-- One of some candidates, at random. -/
def pick (first : String) (rest : List String) : Attempt String :=
  ExceptT.mk ((fun id => .ok id.val) <$> Job.query (.pick first rest))

/-- Gives up. -/
def fail (cause : Cause) : Attempt α :=
  ExceptT.mk (.done (.error (.of cause)))

/-- The same work, its failure seen from one context further out. -/
def within (context : Context) (work : Attempt α) : Attempt α :=
  ExceptT.mk (inContext context <$> work.run)

/-! ## Look-ups at once -/

section

variable {F : LookUp → Type} (take : (l : LookUp) → l.Answer → Except Failure (F l))

/-- Begins a look-up, and takes its answer if it is there at once. -/
def start (l : LookUp) : Attempt (Option (F l)) :=
  ExceptT.mk ((fun soon => soon.elim (.ok none) fun a => some <$> take l a) <$> Job.query (.start l))

/-- Waits for a look-up, and takes its answer. -/
def await (l : LookUp) : Attempt (F l) :=
  ExceptT.mk (take l <$> Job.query (.await l))

/-- Waits for the first of two look-ups, and takes its answer. -/
def race (l r : LookUp) : Attempt (F l ⊕ F r) :=
  ExceptT.mk (Sum.elim (fun a => .inl <$> take l a) (fun b => .inr <$> take r b) <$>
    Job.query (.race l r))

/-- Makes two look-ups at once. `take` says what is made of an answer when it comes: if that is a
failure the work ends there, whatever is still to be begun or under way. -/
def overlap (l r : LookUp) : Attempt (F l × F r) := do
  let a? ← start take l
  let b? ← start take r
  match a?, b? with
  | some a, some b => return (a, b)
  | some a, none => return (a, ← await take r)
  | none, some b => return (← await take l, b)
  | none, none =>
    match ← race take l r with
    | .inl a => return (a, ← await take r)
    | .inr b => return (← await take l, b)

end

/-- Makes two look-ups at once and waits for both, whatever becomes of either. -/
def join (l r : LookUp) : Attempt (l.Answer × r.Answer) :=
  overlap (F := LookUp.Answer) (fun _ => .ok) l r

/-- Makes two look-ups at once. The first failure to come ends the work. -/
def tryJoin (l r : LookUp) : Attempt (l.Found × r.Found) :=
  overlap (F := LookUp.Found) (fun _ a => a) l r

end Attempt

end Herald
