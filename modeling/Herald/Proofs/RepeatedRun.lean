import Herald.Schedule
import Mathlib.Algebra.Order.Group.Int
import Mathlib.Data.List.TakeWhile
import Mathlib.Logic.Function.Iterate

/-!
# What a repeated run does

A run is played on a `Stage`: an action and a sink that may keep a state in the world, look at the
time and take some of it. The stage keeps a log of all that happens, so a run can be judged by it.

* `Stage.round` is one iteration on its own, and `Stage.roundAt` the iterations one after another
  as if no failure ended them; `Stage.leading` counts those in front that succeed.
* `runFrom_succ` says what one turn of the loop does, and `run_resume` what the loop has come to
  after any number of turns: the invariant of the run.
* `run_account` settles the report, the log, the failure and the time of every run.
-/

namespace Herald

/-! ## The stage -/

/-- The state of a world and the time, in milliseconds. -/
structure Moment (σ : Type) where
  world : σ
  now : Nat

/-- The moment after a pause, which lasts as long as it says. -/
def Moment.wait (t : Moment σ) (ms : UInt64) : Moment σ :=
  { t with now := t.now + ms.toNat }

/-- An action and a sink in a world. -/
structure Stage (σ : Type) where
  call : Moment σ → Except Failure Message × Moment σ
  deliver : Message → Moment σ → Except Failure Unit × Moment σ

/-- What a run does in the world. -/
inductive Deed where
  | called (answer : Except Failure Message)
  | tried (m : Message) (answer : Except Failure Unit)
  | paused (ms : UInt64)

/-- A deed, and when it began and ended. -/
structure Entry where
  start : Nat
  deed : Deed
  stop : Nat

/-- A moment and what has happened up to it. -/
structure Scene (σ : Type) extends Moment σ where
  log : List Entry := []

/-- The scene after a deed. -/
def Scene.record (scene : Scene σ) (deed : Deed) (after : Moment σ) : Scene σ :=
  ⟨after, scene.log ++ [⟨scene.now, deed, after.now⟩]⟩

namespace Stage

variable (stage : Stage σ)

/-- Calls the action. -/
def perform : StateM (Scene σ) (Except Failure Message) := fun scene =>
  let (answer, after) := stage.call scene.toMoment
  (answer, scene.record (.called answer) after)

/-- Posts to the sink, and lets time pass. -/
def outlet : Outlet (StateM (Scene σ)) where
  post m scene :=
    let (answer, after) := stage.deliver m scene.toMoment
    (answer, scene.record (.tried m answer) after)
  pause ms scene := ((), scene.record (.paused ms) (scene.toMoment.wait ms))

theorem perform_run (scene : Scene σ) :
    stage.perform.run scene = pure ((stage.call scene.toMoment).1,
      scene.record (.called (stage.call scene.toMoment).1) (stage.call scene.toMoment).2) := rfl

theorem post_run (scene : Scene σ) (m : Message) :
    (stage.outlet.post m).run scene = pure ((stage.deliver m scene.toMoment).1,
      scene.record (.tried m (stage.deliver m scene.toMoment).1)
        (stage.deliver m scene.toMoment).2) := rfl

theorem pause_run (scene : Scene σ) (ms : UInt64) :
    (stage.outlet.pause ms).run scene =
      pure ((), scene.record (.paused ms) (scene.toMoment.wait ms)) := rfl

end Stage

/-- Plays a run on a stage from a moment on: the report, and the scene at its end. -/
def Schedule.play (s : Schedule) (stage : Stage σ) (name : String) (runs : UInt32) (t : Moment σ) :
    RunReport × Scene σ :=
  ((s.run stage.outlet name stage.perform runs).run ⟨t, []⟩).run

/-! ## Rounds -/

/-- What an iteration comes to. -/
inductive Outcome where
  | posted (m : Message)
  | noMessage (f : Failure)
  | notPosted (m : Message) (f : Failure)

/-- An iteration: what it comes to, its log and the moment after it. -/
structure Round (σ : Type) where
  outcome : Outcome
  log : List Entry
  after : Moment σ

namespace Outcome

def isPosted : Outcome → Bool
  | posted _ => true
  | _ => false

/-- Whether the sink refused the message. -/
def isRefused : Outcome → Bool
  | notPosted _ _ => true
  | _ => false

/-- The failure that a run ends with, if the outcome of an iteration ends it. -/
def failure? (name : String) (iteration requested : UInt32) : Outcome → Option Failure
  | posted _ => none
  | noMessage f => some (f.within (.running name iteration requested))
  | notPosted _ f => some (f.within (.posting name iteration requested))

theorem failure?_eq_none {o : Outcome} (h : o.isPosted = true) (name : String)
    (iteration requested : UInt32) : o.failure? name iteration requested = none := by
  cases o <;> first | rfl | cases h

theorem failure?_isSome {o : Outcome} (h : o.isPosted = false) (name : String)
    (iteration requested : UInt32) : (o.failure? name iteration requested).isSome = true := by
  cases o <;> first | rfl | cases h

end Outcome

namespace Stage

variable (stage : Stage σ) (delay : UInt64)

/-- One iteration: a call, a post of its message, and a pause. -/
def round (t : Moment σ) : Round σ :=
  match stage.call t with
  | (.error f, called) =>
    ⟨.noMessage f, [⟨t.now, .called (.error f), called.now⟩], called⟩
  | (.ok m, called) =>
    match stage.deliver m called with
    | (.error f, tried) =>
      ⟨.notPosted m f,
        [⟨t.now, .called (.ok m), called.now⟩, ⟨called.now, .tried m (.error f), tried.now⟩], tried⟩
    | (.ok (), tried) =>
      ⟨.posted m,
        [⟨t.now, .called (.ok m), called.now⟩, ⟨called.now, .tried m (.ok ()), tried.now⟩,
          ⟨tried.now, .paused delay, (tried.wait delay).now⟩], tried.wait delay⟩

/-- The moment before a round, counted from zero, if each goes on from the one before. -/
def momentAt (t : Moment σ) (i : Nat) : Moment σ :=
  (fun t => (stage.round delay t).after)^[i] t

/-- A round, counted from zero. -/
def roundAt (t : Moment σ) (i : Nat) : Round σ :=
  stage.round delay (stage.momentAt delay t i)

/-- How many rounds of the first `n` succeed before one fails. -/
def leading (t : Moment σ) (n : Nat) : Nat :=
  ((List.range n).takeWhile fun i => (stage.roundAt delay t i).outcome.isPosted).length

/-- The log of the first rounds. -/
def logOf (t : Moment σ) (n : Nat) : List Entry :=
  (List.range n).flatMap fun i => (stage.roundAt delay t i).log

/-- The scene after the first rounds. -/
def sceneAfter (t : Moment σ) (n : Nat) : Scene σ :=
  ⟨stage.momentAt delay t n, stage.logOf delay t n⟩

end Stage

/-! ## Leading successes -/

section Leading

variable {p : Nat → Bool} {n : Nat}

theorem takeWhile_range (p : Nat → Bool) (n : Nat) :
    (List.range n).takeWhile p = List.range ((List.range n).takeWhile p).length := by
  have h := List.prefix_iff_eq_take.mp (List.takeWhile_prefix (l := List.range n) p)
  have hle : ((List.range n).takeWhile p).length ≤ n := by
    simpa using (List.takeWhile_prefix (l := List.range n) p).length_le
  rw [List.take_range, Nat.min_eq_left hle] at h
  exact h

theorem holds_of_lt_leading {i : Nat} (h : i < ((List.range n).takeWhile p).length) :
    p i = true := by
  have hi : i ∈ (List.range n).takeWhile p := by
    rw [takeWhile_range]
    exact List.mem_range.mpr h
  exact List.mem_takeWhile_imp hi

theorem fails_at_leading (h : ((List.range n).takeWhile p).length < n) :
    p ((List.range n).takeWhile p).length = false := by
  have hcut := List.takeWhile_append_dropWhile (p := p) (l := List.range n)
  have hdrop : (List.range n).dropWhile p =
      (List.range n).drop ((List.range n).takeWhile p).length :=
    (List.drop_left' rfl).symm.trans (congrArg (List.drop _) hcut)
  have hnot := List.head?_dropWhile_not p (List.range n)
  rw [hdrop, List.head?_drop, List.getElem?_range h] at hnot
  simpa using hnot

end Leading

namespace Stage

variable (stage : Stage σ) (delay : UInt64) (t : Moment σ)

theorem leading_le (n : Nat) : stage.leading delay t n ≤ n := by
  have h := (List.takeWhile_prefix (l := List.range n)
    fun i => (stage.roundAt delay t i).outcome.isPosted).length_le
  rwa [List.length_range] at h

theorem posted_of_lt_leading {n i : Nat} (h : i < stage.leading delay t n) :
    (stage.roundAt delay t i).outcome.isPosted = true :=
  holds_of_lt_leading h

theorem not_posted_at_leading {n : Nat} (h : stage.leading delay t n < n) :
    (stage.roundAt delay t (stage.leading delay t n)).outcome.isPosted = false :=
  fails_at_leading h

theorem momentAt_succ (i : Nat) :
    stage.momentAt delay t (i + 1) = (stage.roundAt delay t i).after :=
  Function.iterate_succ_apply' _ i t

theorem logOf_succ (n : Nat) :
    stage.logOf delay t (n + 1) = stage.logOf delay t n ++ (stage.roundAt delay t n).log := by
  simp [logOf, List.range_succ]

/-- The scene after a round. -/
theorem sceneAfter_succ (n : Nat) :
    stage.sceneAfter delay t (n + 1) =
      ⟨(stage.roundAt delay t n).after,
        (stage.sceneAfter delay t n).log ++ (stage.roundAt delay t n).log⟩ := by
  simp only [sceneAfter, momentAt_succ, logOf_succ]

end Stage

/-! ## The loop -/

namespace Schedule

variable (s : Schedule) (stage : Stage σ) (name : String)

/-- One turn of the loop: it goes on after a round that succeeds, and ends with any other. -/
theorem runFrom_succ (requested posted : UInt32) (left : Nat) (scene : Scene σ) :
    (s.runFrom stage.outlet name stage.perform requested (left + 1) posted).run scene =
      let r := stage.round s.delay scene.toMoment
      match r.outcome.failure? name (posted + 1) requested with
      | none =>
        (s.runFrom stage.outlet name stage.perform requested left (posted + 1)).run
          ⟨r.after, scene.log ++ r.log⟩
      | some f => pure (⟨requested, posted, some f⟩, ⟨r.after, scene.log ++ r.log⟩) := by
  rw [runFrom]
  simp only [StateT.run_bind, Stage.perform_run, pure_bind, Stage.round]
  rcases hc : stage.call scene.toMoment with ⟨(f | m), called⟩
  · -- the action fails
    simp [Outcome.failure?, Scene.record]
  · simp only [StateT.run_bind, Stage.post_run, pure_bind, Scene.record]
    rcases hd : stage.deliver m called with ⟨(f | _), tried⟩
    · -- the sink refuses the message
      simp [Outcome.failure?]
    · simp [Outcome.failure?, Stage.pause_run, Scene.record]

theorem ofNat_succ (i : Nat) : UInt32.ofNat i + 1 = UInt32.ofNat (i + 1) := by
  simp [UInt32.ofNat_add]

/-- The invariant of the loop: after `i` rounds that all succeed, `i` messages have been counted and
`i` turns fewer are left. -/
theorem run_resume (requested : UInt32) (t : Moment σ) {i : Nat}
    (h : i ≤ stage.leading s.delay t requested.toNat) :
    (s.runFrom stage.outlet name stage.perform requested requested.toNat 0).run ⟨t, []⟩ =
      (s.runFrom stage.outlet name stage.perform requested (requested.toNat - i)
        (UInt32.ofNat i)).run (stage.sceneAfter s.delay t i) := by
  induction i with
  | zero => rfl
  | succ i ih =>
    have hle := stage.leading_le s.delay t requested.toNat
    have hposted := stage.posted_of_lt_leading s.delay t h
    have hleft : requested.toNat - i = requested.toNat - (i + 1) + 1 := by omega
    rw [ih (Nat.le_of_succ_le h), hleft, runFrom_succ]
    have hround : stage.round s.delay (stage.sceneAfter s.delay t i).toMoment =
        stage.roundAt s.delay t i := rfl
    simp only [hround, Outcome.failure?_eq_none hposted, ofNat_succ, Stage.sceneAfter_succ]

end Schedule

/-! ## The log -/

namespace Deed

def called? : Deed → Option (Except Failure Message)
  | called answer => some answer
  | _ => none

def tried? : Deed → Option (Message × Except Failure Unit)
  | tried m answer => some (m, answer)
  | _ => none

/-- The message of a post that succeeded. -/
def delivered? : Deed → Option Message
  | tried m (.ok ()) => some m
  | _ => none

def paused? : Deed → Option UInt64
  | paused ms => some ms
  | _ => none

theorem eq_paused {d : Deed} {ms : UInt64} (h : d.paused? = some ms) : d = .paused ms := by
  cases d <;> simp_all [paused?]

/-- Whether the action or the sink failed. -/
def failed : Deed → Bool
  | called (.error _) => true
  | tried _ (.error _) => true
  | _ => false

end Deed

/-- What an iteration does, by its outcome. -/
def Outcome.deeds (delay : UInt64) : Outcome → List Deed
  | posted m => [.called (.ok m), .tried m (.ok ()), .paused delay]
  | noMessage f => [.called (.error f)]
  | notPosted m f => [.called (.ok m), .tried m (.error f)]

/-- An iteration that fails calls the action once, posts nothing and makes no pause. -/
theorem Outcome.deeds_of_not_posted {o : Outcome} (h : o.isPosted = false) (delay : UInt64) :
    ((o.deeds delay).filterMap Deed.called?).length = 1 ∧
    ((o.deeds delay).filterMap Deed.tried?).length = (if o.isRefused then 1 else 0) ∧
    (o.deeds delay).filterMap Deed.delivered? = [] ∧
    (o.deeds delay).filterMap Deed.paused? = [] ∧
    (o.deeds delay).Pairwise fun deed _ => deed.failed = false := by
  cases o with
  | posted m => cases h
  | noMessage f => exact ⟨rfl, rfl, rfl, rfl, List.pairwise_singleton _ _⟩
  | notPosted m f => exact ⟨rfl, rfl, rfl, rfl, by simp [deeds, Deed.failed]⟩

/-- What iterations that post these messages do. -/
def successes (delay : UInt64) (messages : List Message) : List Deed :=
  messages.flatMap fun m => (Outcome.posted m).deeds delay

section Successes

variable (delay : UInt64) (messages : List Message)

theorem called_successes :
    (successes delay messages).filterMap Deed.called? = messages.map .ok := by
  induction messages with
  | nil => rfl
  | cons m rest ih => simpa [successes, Outcome.deeds, Deed.called?, List.filterMap_cons] using ih

theorem tried_successes :
    (successes delay messages).filterMap Deed.tried? = messages.map (·, .ok ()) := by
  induction messages with
  | nil => rfl
  | cons m rest ih => simpa [successes, Outcome.deeds, Deed.tried?, List.filterMap_cons] using ih

theorem delivered_successes :
    (successes delay messages).filterMap Deed.delivered? = messages := by
  induction messages with
  | nil => rfl
  | cons m rest ih =>
    simpa [successes, Outcome.deeds, Deed.delivered?, List.filterMap_cons] using ih

theorem paused_successes :
    (successes delay messages).filterMap Deed.paused? = List.replicate messages.length delay := by
  induction messages with
  | nil => rfl
  | cons m rest ih =>
    simpa [successes, Outcome.deeds, Deed.paused?, List.filterMap_cons, List.replicate_succ]
      using ih

theorem not_failed_of_mem_successes : ∀ deed ∈ successes delay messages, deed.failed = false := by
  intro deed hdeed
  obtain ⟨m, -, hm⟩ := List.mem_flatMap.mp hdeed
  simp only [Outcome.deeds, List.mem_cons, List.not_mem_nil, or_false] at hm
  rcases hm with rfl | rfl | rfl <;> rfl

end Successes

/-- What happens in a scene, in order. -/
def Scene.deeds (scene : Scene σ) : List Deed :=
  scene.log.map Entry.deed

/-- A log without gaps: each deed begins where the one before ended. -/
def Follows : Nat → List Entry → Nat → Prop
  | start, [], stop => stop = start
  | start, e :: rest, stop => e.start = start ∧ Follows e.stop rest stop

theorem Follows.append {a b c : Nat} {first second : List Entry} (h : Follows a first b)
    (h' : Follows b second c) : Follows a (first ++ second) c := by
  induction first generalizing a with
  | nil =>
    have hb : b = a := h
    rw [← hb]
    exact h'
  | cons e rest ih => exact ⟨h.1, ih h.2⟩

/-- Every pause of a log lasts as long as it says. -/
def Punctual (log : List Entry) : Prop :=
  ∀ e ∈ log, ∀ ms, e.deed = .paused ms → e.stop = e.start + ms.toNat

namespace Stage

variable (stage : Stage σ) (delay : UInt64) (t : Moment σ)

/-- What the log of a round says. -/
theorem round_log :
    (stage.round delay t).log.map Entry.deed = (stage.round delay t).outcome.deeds delay ∧
    Follows t.now (stage.round delay t).log (stage.round delay t).after.now ∧
    Punctual (stage.round delay t).log := by
  rcases hc : stage.call t with ⟨(f | m), called⟩
  · simp [round, hc, Outcome.deeds, Follows, Punctual]
  · rcases hd : stage.deliver m called with ⟨(f | _), tried⟩
    · simp [round, hc, hd, Outcome.deeds, Follows, Punctual]
    · simp [round, hc, hd, Outcome.deeds, Follows, Punctual, Moment.wait]

/-- The rounds follow each other without a gap, and every pause has its length. -/
theorem logOf_times (n : Nat) :
    Follows t.now (stage.logOf delay t n) (stage.momentAt delay t n).now ∧
      Punctual (stage.logOf delay t n) := by
  induction n with
  | zero => exact ⟨rfl, by simp [Punctual, logOf]⟩
  | succ n ih =>
    obtain ⟨-, hfollows, hpunctual⟩ := stage.round_log delay (stage.momentAt delay t n)
    rw [logOf_succ, momentAt_succ]
    refine ⟨ih.1.append hfollows, ?_⟩
    intro e he
    rcases List.mem_append.mp he with he | he
    · exact ih.2 e he
    · exact hpunctual e he

/-- While all rounds succeed, each is a call, a post of its message and a pause. -/
theorem deeds_of_posted {n : Nat}
    (h : ∀ i < n, (stage.roundAt delay t i).outcome.isPosted = true) :
    ∃ messages : List Message, messages.length = n ∧
      (stage.sceneAfter delay t n).deeds = successes delay messages := by
  induction n with
  | zero => exact ⟨[], rfl, rfl⟩
  | succ n ih =>
    obtain ⟨messages, hlength, hdeeds⟩ := ih fun i hi => h i (Nat.lt_succ_of_lt hi)
    obtain ⟨m, hm⟩ : ∃ m, (stage.roundAt delay t n).outcome = .posted m := by
      have hn := h n (Nat.lt_succ_self n)
      cases ho : (stage.roundAt delay t n).outcome with
      | posted m => exact ⟨m, rfl⟩
      | noMessage f => simp [ho, Outcome.isPosted] at hn
      | notPosted m f => simp [ho, Outcome.isPosted] at hn
    refine ⟨messages ++ [m], by simp [hlength], ?_⟩
    have hround := (stage.round_log delay (stage.momentAt delay t n)).1
    rw [sceneAfter_succ, Scene.deeds, List.map_append]
    simp only [Scene.deeds] at hdeeds
    rw [hdeeds, roundAt, hround, ← roundAt, hm]
    simp [successes]

end Stage

/-! ## The account of a run -/

namespace Schedule

variable (s : Schedule) (stage : Stage σ) (name : String)

/-- How many iterations a run gets. -/
theorem clamp_toNat (runs : UInt32) :
    (s.clamp runs).toNat = s.maxRuns.elim runs.toNat fun max => min runs.toNat max.toNat := by
  unfold clamp
  cases s.maxRuns with
  | none => rfl
  | some max =>
    by_cases h : max < runs
    · have hlt : max.toNat < runs.toNat := h
      simp [h, Nat.min_eq_right (Nat.le_of_lt hlt)]
    · have hle : runs.toNat ≤ max.toNat := Nat.le_of_not_lt h
      simp [h, Nat.min_eq_left hle]

/-- A run comes to the rounds in front that succeed, and one more that fails unless all of them have
been made. -/
theorem play_eq (runs : UInt32) (t : Moment σ) :
    s.play stage name runs t =
      let requested := (s.clamp runs).toNat
      let k := stage.leading s.delay t requested
      (⟨s.clamp runs, UInt32.ofNat k,
        if k < requested then
          (stage.roundAt s.delay t k).outcome.failure? name (UInt32.ofNat (k + 1)) (s.clamp runs)
        else none⟩,
        stage.sceneAfter s.delay t (min (k + 1) requested)) := by
  have hle := stage.leading_le s.delay t (s.clamp runs).toNat
  have hresume := s.run_resume stage name (s.clamp runs) t (Nat.le_refl _)
  simp only [play, run]
  rw [hresume]
  by_cases hlt : stage.leading s.delay t (s.clamp runs).toNat < (s.clamp runs).toNat
  · -- the round behind the successes fails
    have hnot := stage.not_posted_at_leading s.delay t hlt
    obtain ⟨f, hf⟩ := Option.isSome_iff_exists.mp (Outcome.failure?_isSome hnot name
      (UInt32.ofNat (stage.leading s.delay t (s.clamp runs).toNat + 1)) (s.clamp runs))
    have hleft : (s.clamp runs).toNat - stage.leading s.delay t (s.clamp runs).toNat =
        (s.clamp runs).toNat - (stage.leading s.delay t (s.clamp runs).toNat + 1) + 1 := by omega
    have hround : stage.round s.delay
        (stage.sceneAfter s.delay t (stage.leading s.delay t (s.clamp runs).toNat)).toMoment =
        stage.roundAt s.delay t (stage.leading s.delay t (s.clamp runs).toNat) := rfl
    rw [hleft, runFrom_succ]
    simp only [hround, ofNat_succ, hf, if_pos hlt, Nat.min_eq_left hlt, Stage.sceneAfter_succ]
    rfl
  · -- all rounds succeed
    have heq : stage.leading s.delay t (s.clamp runs).toNat = (s.clamp runs).toNat := by omega
    rw [heq, Nat.sub_self, Nat.min_eq_right (Nat.le_succ _)]
    simp only [Nat.lt_irrefl, if_false]
    rfl

/-- How long the calls and posts of a log took. -/
def busy : List Entry → Int
  | [] => 0
  | e :: rest => (if e.deed.paused?.isSome then 0 else (e.stop : Int) - e.start) + busy rest

/-- Without gaps, the time of a log is that of its calls and posts and of its pauses. -/
theorem elapsed_of_follows {delay : UInt64} {log : List Entry} {start stop : Nat}
    (hfollows : Follows start log stop) (hpunctual : Punctual log)
    (hdelay : ∀ ms ∈ (log.map Entry.deed).filterMap Deed.paused?, ms = delay) :
    (stop : Int) = start + busy log +
      ((log.map Entry.deed).filterMap Deed.paused?).length * delay.toNat := by
  induction log generalizing start with
  | nil =>
    have h : stop = start := hfollows
    simp [busy, h]
  | cons e rest ih =>
    obtain ⟨hstart, hrest⟩ := hfollows
    have hpunctual' : Punctual rest := fun e' he' => hpunctual e' (List.mem_cons_of_mem e he')
    cases hp : e.deed.paused? with
    | none =>
      have hdelay' : ∀ ms ∈ (rest.map Entry.deed).filterMap Deed.paused?, ms = delay := by
        simpa [List.filterMap_cons, hp] using hdelay
      have h := ih hrest hpunctual' hdelay'
      simp only [busy, hp, List.map_cons, List.filterMap_cons, Option.isSome_none]
      simp only [Bool.false_eq_true, if_false]
      omega
    | some ms =>
      have hdeed : e.deed = .paused ms := Deed.eq_paused hp
      have hms : ms = delay := hdelay ms (by simp [hp])
      have hdelay' : ∀ ms ∈ (rest.map Entry.deed).filterMap Deed.paused?, ms = delay := by
        intro ms' hms'
        apply hdelay
        simp only [List.map_cons, List.filterMap_cons, hp]
        exact List.mem_cons_of_mem ms hms'
      have h := ih hrest hpunctual' hdelay'
      have hstop : e.stop = e.start + ms.toNat := hpunctual e List.mem_cons_self ms hdeed
      simp only [busy, hp, List.map_cons, List.filterMap_cons, Option.isSome_some, List.length_cons]
      rw [hms] at hstop
      simp only [if_true, Int.natCast_add, Int.natCast_one, Int.add_mul, Int.one_mul]
      omega

/-- What is true of a run that asks for `requested` iterations of which the first `k` succeed. -/
structure Account (runs : UInt32) (t : Moment σ) (requested k : Nat) (report : RunReport)
    (scene : Scene σ) : Prop where
  requested_eq : report.requested.toNat = requested
  posted_eq : report.posted.toNat = k
  /-- The sink has the messages of the first `k` calls, in their order. -/
  delivered_eq : (scene.deeds.filterMap Deed.called?).take k =
    (scene.deeds.filterMap Deed.delivered?).map .ok
  error_iff : report.error.isSome = true ↔ k < requested
  complete_iff : report.isComplete = true ↔ report.error = none
  calls_eq : (scene.deeds.filterMap Deed.called?).length = min (k + 1) requested
  tries_eq : (scene.deeds.filterMap Deed.tried?).length =
    k + if k < requested ∧ (stage.roundAt s.delay t k).outcome.isRefused then 1 else 0
  /-- Nothing happens behind a failure. -/
  last_failed : scene.deeds.Pairwise fun deed _ => deed.failed = false
  /-- A failure of the action is reported with the iteration it happened in. -/
  action_failed : ∀ f, k < requested → (stage.roundAt s.delay t k).outcome = .noMessage f →
    ∃ e, report.error = some e ∧ e.cause = f.cause ∧ e.contexts.map Context.text =
      (name ++ " failed on iteration " ++ toString (k + 1) ++ "/" ++ toString requested) ::
        f.contexts.map Context.text
  /-- So is a failure of the sink. -/
  post_failed : ∀ m f, k < requested → (stage.roundAt s.delay t k).outcome = .notPosted m f →
    ∃ e, report.error = some e ∧ e.cause = f.cause ∧ e.contexts.map Context.text =
      ("Failed to post " ++ name ++ " result on iteration " ++ toString (k + 1) ++ "/" ++
        toString requested) :: f.contexts.map Context.text
  /-- The counter of the loop is the number of rounds made so far, and its next value fits. -/
  counter_eq : ∀ i ≤ k, ∃ posted : UInt32, posted.toNat = i ∧
    (i < requested → (posted + 1).toNat = i + 1) ∧
    (s.run stage.outlet name stage.perform runs).run ⟨t, []⟩ =
      (s.runFrom stage.outlet name stage.perform report.requested (requested - i) posted).run
        (stage.sceneAfter s.delay t i)
  /-- A call, a post of its message and a pause for each success, and the failing round. -/
  deeds_eq : ∃ messages : List Message, messages.length = k ∧ scene.deeds =
    successes s.delay messages ++
      if k < requested then (stage.roundAt s.delay t k).outcome.deeds s.delay else []
  follows : Follows t.now scene.log scene.now
  punctual : Punctual scene.log
  elapsed_eq : (scene.now : Int) = t.now + busy scene.log + k * s.delay.toNat

/-- The deeds of a run: those of its successes, and of the round that fails. -/
theorem deeds_of_play (t : Moment σ) (requested : Nat) :
    let k := stage.leading s.delay t requested
    ∃ messages : List Message, messages.length = k ∧
      (stage.sceneAfter s.delay t (min (k + 1) requested)).deeds = successes s.delay messages ++
        if k < requested then (stage.roundAt s.delay t k).outcome.deeds s.delay else [] := by
  intro k
  obtain ⟨messages, hlength, hdeeds⟩ := stage.deeds_of_posted s.delay t
    fun i (hi : i < k) => stage.posted_of_lt_leading s.delay t hi
  refine ⟨messages, hlength, ?_⟩
  by_cases hlt : k < requested
  · have hround := (stage.round_log s.delay (stage.momentAt s.delay t k)).1
    rw [if_pos hlt, Nat.min_eq_left hlt, ← hdeeds, Stage.sceneAfter_succ, Scene.deeds,
      List.map_append, Stage.roundAt, hround]
    rfl
  · have heq : k = requested := Nat.le_antisymm (stage.leading_le s.delay t requested) (by omega)
    rw [if_neg hlt, Nat.min_eq_right (by omega), ← heq, hdeeds, List.append_nil]

/-- The number of an iteration as a word is the number itself, as it is at most the number asked
for. -/
theorem toNat_iteration {requested : UInt32} {i : Nat} (h : i ≤ requested.toNat) :
    (UInt32.ofNat i).toNat = i :=
  UInt32.toNat_ofNat_of_lt' (Nat.lt_of_le_of_lt h requested.toNat_lt)

/-- What a run does behind its successes: nothing, or a round that fails. -/
theorem ending_deeds (t : Moment σ) (requested : Nat) :
    let k := stage.leading s.delay t requested
    let ending := if k < requested then (stage.roundAt s.delay t k).outcome.deeds s.delay else []
    (ending.filterMap Deed.called?).length = (if k < requested then 1 else 0) ∧
    (ending.filterMap Deed.tried?).length =
      (if k < requested ∧ (stage.roundAt s.delay t k).outcome.isRefused then 1 else 0) ∧
    ending.filterMap Deed.delivered? = [] ∧ ending.filterMap Deed.paused? = [] ∧
    ending.Pairwise fun deed _ => deed.failed = false := by
  intro k ending
  by_cases hlt : k < requested
  · have h := Outcome.deeds_of_not_posted (stage.not_posted_at_leading s.delay t hlt) s.delay
    simpa only [ending, hlt, if_true, true_and] using h
  · simp [ending, hlt]

theorem texts_within (context : Context) (f : Failure) :
    (f.within context).contexts.map Context.text = context.text :: f.contexts.map Context.text :=
  rfl

theorem append_three (s a b c : String) : s ++ (a ++ b ++ c) = s ++ a ++ b ++ c := by
  rw [← String.append_assoc, ← String.append_assoc]

theorem text_running (action : String) (iteration requested : UInt32) :
    (Context.running action iteration requested).text = action ++ " failed on iteration " ++
      toString iteration.toNat ++ "/" ++ toString requested.toNat :=
  append_three _ _ _ _

theorem text_posting (action : String) (iteration requested : UInt32) :
    (Context.posting action iteration requested).text = "Failed to post " ++ action ++
      " result on iteration " ++ toString iteration.toNat ++ "/" ++ toString requested.toNat :=
  append_three _ _ _ _

theorem account_of_leading {runs : UInt32} {t : Moment σ} {requested k : Nat}
    (hrequested : (s.clamp runs).toNat = requested)
    (hleading : stage.leading s.delay t requested = k) :
    Account s stage name runs t requested k (s.play stage name runs t).1
      (s.play stage name runs t).2 := by
  have hle : k ≤ requested := hleading ▸ stage.leading_le s.delay t requested
  have hk : (UInt32.ofNat k).toNat = k := toNat_iteration (hrequested ▸ hle)
  have hnext : k < requested → (UInt32.ofNat (k + 1)).toNat = k + 1 :=
    fun hlt => toNat_iteration (hrequested ▸ hlt)
  have hnot : k < requested → (stage.roundAt s.delay t k).outcome.isPosted = false := by
    intro hlt
    subst hleading
    exact stage.not_posted_at_leading s.delay t hlt
  obtain ⟨messages, hlength, hdeeds⟩ := s.deeds_of_play stage t requested
  obtain ⟨hcalled, htried, hdelivered, hpaused, hpairwise⟩ := s.ending_deeds stage t requested
  obtain ⟨hfollows, hpunctual⟩ := stage.logOf_times s.delay t (min (k + 1) requested)
  have hplay := s.play_eq stage name runs t
  simp only [hrequested, hleading]
    at hplay hdeeds hlength hcalled htried hdelivered hpaused hpairwise
  rw [hplay]
  have hpauses : (stage.sceneAfter s.delay t (min (k + 1) requested)).deeds.filterMap Deed.paused? =
      List.replicate k s.delay := by
    rw [hdeeds, List.filterMap_append, paused_successes, hpaused, List.append_nil, hlength]
  constructor
  case requested_eq => exact hrequested
  case posted_eq => exact hk
  case delivered_eq =>
    rw [hdeeds, List.filterMap_append, List.filterMap_append, called_successes,
      delivered_successes, hdelivered, List.append_nil]
    exact List.take_left' (by rw [List.length_map, hlength])
  case error_iff =>
    by_cases hlt : k < requested
    · simp only [hlt, if_true, iff_true]
      exact Outcome.failure?_isSome (hnot hlt) _ _ _
    · simp only [hlt, if_false, Option.isSome_none, Bool.false_eq_true]
  case complete_iff =>
    by_cases hlt : k < requested
    · obtain ⟨f, hf⟩ := Option.isSome_iff_exists.mp (Outcome.failure?_isSome (hnot hlt) name
        (UInt32.ofNat (k + 1)) (s.clamp runs))
      simp only [RunReport.isComplete, hlt, if_true, hf]
      simp
    · have heq : UInt32.ofNat k = s.clamp runs := by
        apply UInt32.toNat_inj.mp
        omega
      simp only [RunReport.isComplete, hlt, if_false, heq]
      simp
  case calls_eq =>
    rw [hdeeds, List.filterMap_append, List.length_append, called_successes, List.length_map,
      hlength, hcalled]
    split <;> omega
  case tries_eq =>
    rw [hdeeds, List.filterMap_append, List.length_append, tried_successes, List.length_map,
      hlength, htried]
  case last_failed =>
    have hall := not_failed_of_mem_successes s.delay messages
    rw [hdeeds, List.pairwise_append]
    refine ⟨?_, hpairwise, fun deed hdeed _ _ => hall deed hdeed⟩
    exact List.pairwise_of_forall_mem_list fun deed hdeed _ _ => hall deed hdeed
  case action_failed =>
    intro f hlt ho
    refine ⟨f.within (.running name (UInt32.ofNat (k + 1)) (s.clamp runs)), ?_, rfl, ?_⟩
    · simp only [hlt, if_true, ho, Outcome.failure?]
    · rw [texts_within, text_running, hnext hlt, hrequested]
  case post_failed =>
    intro m f hlt ho
    refine ⟨f.within (.posting name (UInt32.ofNat (k + 1)) (s.clamp runs)), ?_, rfl, ?_⟩
    · simp only [hlt, if_true, ho, Outcome.failure?]
    · rw [texts_within, text_posting, hnext hlt, hrequested]
  case counter_eq =>
    intro i hi
    refine ⟨UInt32.ofNat i, toNat_iteration (hrequested ▸ hi.trans hle), fun hlt => ?_, ?_⟩
    · rw [ofNat_succ]
      exact toNat_iteration (hrequested ▸ hlt)
    · have h := s.run_resume stage name (s.clamp runs) t (i := i) (by rwa [hrequested, hleading])
      simp only [run]
      rw [hrequested] at h ⊢
      exact h
  case deeds_eq => exact ⟨messages, hlength, hdeeds⟩
  case follows => exact hfollows
  case punctual => exact hpunctual
  case elapsed_eq =>
    have hlog : (stage.logOf s.delay t (min (k + 1) requested)).map Entry.deed =
        (stage.sceneAfter s.delay t (min (k + 1) requested)).deeds := rfl
    have hdelay : ∀ ms ∈ ((stage.logOf s.delay t (min (k + 1) requested)).map
        Entry.deed).filterMap Deed.paused?, ms = s.delay := by
      rw [hlog, hpauses]
      exact fun ms hms => List.eq_of_mem_replicate hms
    have h := elapsed_of_follows hfollows hpunctual hdelay
    rw [hlog, hpauses, List.length_replicate] at h
    exact h

/-- Every run posts the messages of the iterations in front that succeed, pauses after each of them,
and ends with the first failure, which it reports. -/
theorem run_account (runs : UInt32) (t : Moment σ) :
    let requested := s.maxRuns.elim runs.toNat fun max => min runs.toNat max.toNat
    Account s stage name runs t requested (stage.leading s.delay t requested)
      (s.play stage name runs t).1 (s.play stage name runs t).2 :=
  s.account_of_leading stage name (s.clamp_toNat runs) rfl

end Schedule

end Herald
