import Herald.Proofs.RepeatedRun

/-!
# Runs in parts

A run may be made in two parts: one of `m` iterations and, if that one is complete, one of `n` more
from the world and the time that it left. This comes to the same as one run of `m + n`, as the pause
behind the last post of the first part is the pause between the two.

* `Stage.roundAt_add` and `Stage.leading_add`: the rounds of the parts, one after another, are the
  rounds of the whole, and so are the successes in front of the first failure.
* `play_add` puts the reports, the logs and the failures of the parts together (`InParts`), and
  `log_prefix` follows: a shorter run does what a longer one does first.
* `play_capped`: a cap only makes the run shorter.
* `run_in_parts` states the three of them for every stage.
-/

namespace Herald

/-! ## Rounds behind rounds -/

namespace Stage

variable (stage : Stage σ) (delay : UInt64) (t : Moment σ)

theorem momentAt_add (i j : Nat) :
    stage.momentAt delay t (i + j) = stage.momentAt delay (stage.momentAt delay t i) j := by
  rw [momentAt, Nat.add_comm, Function.iterate_add_apply]
  rfl

theorem roundAt_add (i j : Nat) :
    stage.roundAt delay t (i + j) = stage.roundAt delay (stage.momentAt delay t i) j := by
  rw [roundAt, momentAt_add, roundAt]

theorem logOf_add (i j : Nat) :
    stage.logOf delay t (i + j) =
      stage.logOf delay t i ++ stage.logOf delay (stage.momentAt delay t i) j := by
  simp only [logOf, List.range_add, List.flatMap_append, List.flatMap_map, roundAt_add]

/-- The successes in front of the first failure go on into the second part if the first part has no
failure. -/
theorem leading_add (m n : Nat) :
    stage.leading delay t (m + n) =
      if stage.leading delay t m = m then m + stage.leading delay (stage.momentAt delay t m) n
      else stage.leading delay t m := by
  have hsecond : ((List.range n).map fun i => m + i).takeWhile
        (fun i => (stage.roundAt delay t i).outcome.isPosted) =
      ((List.range n).takeWhile fun i =>
        (stage.roundAt delay (stage.momentAt delay t m) i).outcome.isPosted).map fun i => m + i := by
    rw [List.takeWhile_map]
    simp only [Function.comp_def, roundAt_add]
  rw [leading, List.range_add, List.takeWhile_append, List.length_range, hsecond,
    apply_ite List.length, List.length_append, List.length_range, List.length_map]
  rfl

end Stage

/-! ## The parts of a run -/

/-- A failure of a run that is the last part of a longer one, and the same failure as the longer run
tells it: its iteration is counted behind the `before` iterations made earlier, out of all that were
asked for. -/
inductive Failure.Recounted (before : Nat) (requested : UInt32) : Failure → Failure → Prop where
  | running (f : Failure) (action : String) {iteration part later : UInt32}
      (h : later.toNat = before + iteration.toNat) :
      Recounted before requested (f.within (.running action iteration part))
        (f.within (.running action later requested))
  | posting (f : Failure) (action : String) {iteration part later : UInt32}
      (h : later.toNat = before + iteration.toNat) :
      Recounted before requested (f.within (.posting action iteration part))
        (f.within (.posting action later requested))

theorem Failure.Recounted.cause_eq {before : Nat} {requested : UInt32} {e e' : Failure}
    (h : Recounted before requested e e') : e'.cause = e.cause := by
  cases h <;> rfl

/-- Two iterations with the same outcome end their runs in the same way. -/
theorem Outcome.recounted (o : Outcome) (name : String) {before : Nat}
    {iteration later : UInt32} (part requested : UInt32)
    (h : later.toNat = before + iteration.toNat) :
    Option.Rel (Failure.Recounted before requested) (o.failure? name iteration part)
      (o.failure? name later requested) := by
  cases o with
  | posted m => exact Option.Rel.none
  | noMessage f => exact Option.Rel.some (Failure.Recounted.running f name h)
  | notPosted m f => exact Option.Rel.some (Failure.Recounted.posting f name h)

/-- What ends a run of which the first `k` rounds succeed: the failure of the next one, if one more is
asked for. -/
def Stage.ending (stage : Stage σ) (delay : UInt64) (name : String) (t : Moment σ) (k : Nat)
    (requested : UInt32) : Option Failure :=
  if k < requested.toNat then
    (stage.roundAt delay t k).outcome.failure? name (UInt32.ofNat (k + 1)) requested
  else none

/-- A part of a run ends as the whole does, if there is a next round in both or in neither. -/
theorem Stage.ending_recounted (stage : Stage σ) (delay : UInt64) (name : String) (t : Moment σ)
    (before k : Nat) {part requested : UInt32}
    (hnext : k < part.toNat ↔ before + k < requested.toNat) :
    Option.Rel (Failure.Recounted before requested)
      (stage.ending delay name (stage.momentAt delay t before) k part)
      (stage.ending delay name t (before + k) requested) := by
  unfold ending
  by_cases hlt : k < part.toNat
  · have hlater : (UInt32.ofNat (before + k + 1)).toNat = before + (UInt32.ofNat (k + 1)).toNat := by
      rw [Schedule.toNat_iteration (hnext.mp hlt), Schedule.toNat_iteration hlt]
      omega
    rw [if_pos hlt, if_pos (hnext.mp hlt), stage.roundAt_add]
    exact Outcome.recounted _ name part requested hlater
  · rw [if_neg hlt, if_neg fun h => hlt (hnext.mpr h)]
    exact Option.Rel.none

/-- A run of `m + n` iterations and the same in parts: a run of `m`, and a second one that is made
only if the first is complete. -/
structure InParts (m n : UInt32) (whole first : RunReport × Scene σ)
    (second : Option (RunReport × Scene σ)) : Prop where
  requested_eq : whole.1.requested.toNat = m.toNat + n.toNat
  posted_eq : whole.1.posted.toNat = first.1.posted.toNat + second.elim 0 (·.1.posted.toNat)
  /-- The calls, the posts and the pauses, with the times when each began and ended. -/
  log_eq : whole.2.log = first.2.log ++ second.elim [] (·.2.log)
  /-- The world and the time at the end. -/
  moment_eq : whole.2.toMoment = (second.getD first).2.toMoment
  /-- The whole fails exactly when its last part does, in the iteration that corresponds. -/
  error_rel : Option.Rel
    (Failure.Recounted (second.elim 0 fun _ => m.toNat) whole.1.requested)
    (second.getD first).1.error whole.1.error
  cause_eq : whole.1.error.map Failure.cause = (second.getD first).1.error.map Failure.cause

theorem map_cause_eq {before : Nat} {requested : UInt32} {e e' : Option Failure}
    (h : Option.Rel (Failure.Recounted before requested) e e') :
    e'.map Failure.cause = e.map Failure.cause := by
  cases h with
  | some h => exact congrArg some h.cause_eq
  | none => rfl

namespace Schedule

variable (s : Schedule) (stage : Stage σ) (name : String) (t : Moment σ)

/-- A run is complete when all its rounds succeed. -/
theorem isComplete_play_iff (runs : UInt32) :
    (s.play stage name runs t).1.isComplete = true ↔
      stage.leading s.delay t (s.clamp runs).toNat = (s.clamp runs).toNat := by
  have haccount : Account s stage name runs t _ _ _ _ := s.account_of_leading stage name rfl rfl
  have hle := stage.leading_le s.delay t (s.clamp runs).toNat
  have herror := haccount.error_iff
  rw [haccount.complete_iff, ← Option.not_isSome_iff_eq_none, herror]
  omega

/-- What a run without a cap comes to. -/
theorem play_uncapped (delay : UInt64) (runs : UInt32) :
    (⟨delay, none⟩ : Schedule).play stage name runs t =
      let k := stage.leading delay t runs.toNat
      (⟨runs, UInt32.ofNat k, stage.ending delay name t k runs⟩,
        stage.sceneAfter delay t (min (k + 1) runs.toNat)) :=
  play_eq ⟨delay, none⟩ stage name runs t

theorem toNat_add_of_fits {m n : UInt32} (h : m.toNat + n.toNat < UInt32.size) :
    (m + n).toNat = m.toNat + n.toNat := by
  rw [UInt32.toNat_add]
  exact Nat.mod_eq_of_lt h

/-- Behind a first part that is complete the second one goes on where the first has ended. -/
theorem inParts_of_complete (delay : UInt64) {m n : UInt32}
    (hfits : m.toNat + n.toNat < UInt32.size)
    (hm : stage.leading delay t m.toNat = m.toNat) :
    let s : Schedule := ⟨delay, none⟩
    let first := s.play stage name m t
    InParts m n (s.play stage name (m + n) t) first (s.play stage name n first.2.toMoment) := by
  intro s first
  have hsum := toNat_add_of_fits hfits
  have hfirst : first = _ := play_uncapped stage name t delay m
  simp only [hm, Nat.min_eq_right (Nat.le_succ m.toNat)] at hfirst
  have hmoment : first.2.toMoment = stage.momentAt delay t m.toNat := by rw [hfirst]; rfl
  rw [hmoment]
  have hsecond := play_uncapped stage name (stage.momentAt delay t m.toNat) delay n
  have hwhole := play_uncapped stage name t delay (m + n)
  have hadd := stage.leading_add delay t m.toNat n.toNat
  rw [if_pos hm] at hadd
  have hle := stage.leading_le delay (stage.momentAt delay t m.toNat) n.toNat
  generalize stage.leading delay (stage.momentAt delay t m.toNat) n.toNat = k at hsecond hadd hle
  have hrounds : min (m.toNat + k + 1) (m.toNat + n.toNat) = m.toNat + min (k + 1) n.toNat := by
    omega
  simp only [hsum, hadd, hrounds] at hwhole
  have hnext : k < n.toNat ↔ m.toNat + k < (m + n).toNat := by omega
  have herror := stage.ending_recounted delay name t m.toNat k hnext
  rw [hwhole, hsecond, hfirst]
  constructor
  case requested_eq => exact hsum
  case posted_eq =>
    show (UInt32.ofNat (m.toNat + k)).toNat = (UInt32.ofNat m.toNat).toNat + (UInt32.ofNat k).toNat
    have hposted : m.toNat + k ≤ (m + n).toNat := by omega
    rw [UInt32.ofNat_toNat, toNat_iteration hle, toNat_iteration hposted]
  case log_eq => exact stage.logOf_add delay t m.toNat _
  case moment_eq => exact stage.momentAt_add delay t m.toNat _
  case error_rel => exact herror
  case cause_eq => exact map_cause_eq herror

/-- If the first part fails, the whole fails in the same round. -/
theorem inParts_of_failed (delay : UInt64) {m n : UInt32}
    (hfits : m.toNat + n.toNat < UInt32.size)
    (hm : stage.leading delay t m.toNat < m.toNat) :
    let s : Schedule := ⟨delay, none⟩
    InParts m n (s.play stage name (m + n) t) (s.play stage name m t) none := by
  intro s
  have hsum := toNat_add_of_fits hfits
  have hfirst := play_uncapped stage name t delay m
  have hwhole := play_uncapped stage name t delay (m + n)
  have hadd := stage.leading_add delay t m.toNat n.toNat
  rw [if_neg (Nat.ne_of_lt hm)] at hadd
  generalize stage.leading delay t m.toNat = k at hfirst hadd hm
  simp only [Nat.min_eq_left hm] at hfirst
  have hrounds : min (k + 1) (m.toNat + n.toNat) = k + 1 := by omega
  simp only [hsum, hadd, hrounds] at hwhole
  have hnext : k < m.toNat ↔ 0 + k < (m + n).toNat := by omega
  have herror := stage.ending_recounted delay name t 0 k hnext
  rw [Nat.zero_add] at herror
  rw [hwhole, hfirst]
  constructor
  case requested_eq => exact hsum
  case posted_eq => rfl
  case log_eq => exact (List.append_nil _).symm
  case moment_eq => rfl
  case error_rel => exact herror
  case cause_eq => exact map_cause_eq herror

/-- A run comes to the same as its parts. -/
theorem play_add (delay : UInt64) {m n : UInt32} (hfits : m.toNat + n.toNat < UInt32.size) :
    let s : Schedule := ⟨delay, none⟩
    let first := s.play stage name m t
    InParts m n (s.play stage name (m + n) t) first
      (if first.1.isComplete then some (s.play stage name n first.2.toMoment) else none) := by
  intro s first
  have hcomplete : first.1.isComplete = true ↔ stage.leading delay t m.toNat = m.toNat :=
    s.isComplete_play_iff stage name t m
  by_cases hm : stage.leading delay t m.toNat = m.toNat
  · rw [if_pos (hcomplete.mpr hm)]
    exact inParts_of_complete stage name t delay hfits hm
  · rw [if_neg fun h => hm (hcomplete.mp h)]
    have hle := stage.leading_le delay t m.toNat
    exact inParts_of_failed stage name t delay hfits (Nat.lt_of_le_of_ne hle hm)

/-- A cap makes a run one of fewer iterations without a cap. -/
theorem play_capped (delay : UInt64) (cap runs : UInt32) :
    (⟨delay, some cap⟩ : Schedule).play stage name runs t =
      (⟨delay, none⟩ : Schedule).play stage name (min runs cap) t := by
  have hclamp : (⟨delay, some cap⟩ : Schedule).clamp runs = min runs cap := by
    show (if cap < runs then cap else runs) = min runs cap
    rw [UInt32.min_def]
    by_cases h : cap < runs
    · rw [if_pos h, if_neg (UInt32.not_le.mpr h)]
    · rw [if_neg h, if_pos (UInt32.not_lt.mp h)]
  have hcapped := play_eq ⟨delay, some cap⟩ stage name runs t
  rw [hclamp] at hcapped
  rw [hcapped, play_eq]
  rfl

/-- A shorter run does what a longer one does first, at the same times. -/
theorem log_prefix (delay : UInt64) {m n : UInt32} (h : m ≤ n) :
    ((⟨delay, none⟩ : Schedule).play stage name m t).2.log <+:
      ((⟨delay, none⟩ : Schedule).play stage name n t).2.log := by
  have hle : m.toNat ≤ n.toNat := UInt32.le_iff_toNat_le.mp h
  have hrest : m.toNat + (n - m).toNat = n.toNat := by
    rw [UInt32.toNat_sub_of_le n m h]
    omega
  have hfits : m.toNat + (n - m).toNat < UInt32.size := by
    rw [hrest]
    exact n.toNat_lt
  have hn : m + (n - m) = n := by
    apply UInt32.toNat_inj.mp
    rw [toNat_add_of_fits hfits, hrest]
  have hparts := (play_add stage name t delay hfits).log_eq
  rw [hn] at hparts
  exact ⟨_, hparts.symm⟩

/-- Without a cap a run comes to the same as its parts, and a shorter one does what a longer one does
first; a run with a cap is one without a cap that asks for no more than the cap. -/
theorem run_in_parts (delay : UInt64) :
    let s : Schedule := ⟨delay, none⟩
    (∀ m n : UInt32, m.toNat + n.toNat < UInt32.size →
      let first := s.play stage name m t
      InParts m n (s.play stage name (m + n) t) first
        (if first.1.isComplete then some (s.play stage name n first.2.toMoment) else none)) ∧
    (∀ m n : UInt32, m ≤ n →
      (s.play stage name m t).2.log <+: (s.play stage name n t).2.log ∧
      (s.play stage name m t).2.deeds.filterMap Deed.delivered? <+:
        (s.play stage name n t).2.deeds.filterMap Deed.delivered?) ∧
    ∀ cap runs : UInt32,
      (⟨delay, some cap⟩ : Schedule).play stage name runs t =
        s.play stage name (min runs cap) t := by
  refine ⟨fun m n hfits => play_add stage name t delay hfits, fun m n hle => ?_,
    fun cap runs => play_capped stage name t delay cap runs⟩
  have hlog := log_prefix stage name t delay hle
  exact ⟨hlog, (hlog.map Entry.deed).filterMap Deed.delivered?⟩

end Schedule

/-- An action that numbers its calls in the world and fails in one of them. A call takes 20 ms, and
so does a post. -/
def Stage.counting (failing : Nat) : Stage Nat where
  call t :=
    let called : Moment Nat := ⟨t.world + 1, t.now + 20⟩
    if called.world = failing then (.error (.of (.reported "user not found")), called)
    else (.ok { channel := "C1", text := toString called.world }, called)
  deliver _ t := (.ok (), { t with now := t.now + 20 })

/-- The fourth of five iterations fails, which is the second one of the second part. -/
theorem Schedule.run_in_parts_fourth_fails :
    let s : Schedule := ⟨1000, none⟩
    let first := s.play (Stage.counting 4) "count" 2 ⟨0, 0⟩
    let second := s.play (Stage.counting 4) "count" 3 ⟨2, 2080⟩
    let whole := s.play (Stage.counting 4) "count" 5 ⟨0, 0⟩
    (2 : UInt32).toNat + (3 : UInt32).toNat < UInt32.size ∧ (2 : UInt32) ≤ 5 ∧
      first.1 = ⟨2, 2, none⟩ ∧
      second.1 = ⟨3, 1, some ⟨[.running "count" 2 3], .reported "user not found"⟩⟩ ∧
      whole.1 = ⟨5, 3, some ⟨[.running "count" 4 5], .reported "user not found"⟩⟩ ∧
      InParts 2 3 whole first (some second) ∧
      first.2.log <+: whole.2.log ∧
      (⟨1000, some 5⟩ : Schedule).play (Stage.counting 4) "count" 9 ⟨0, 0⟩ = whole := by
  intro s first second whole
  obtain ⟨hparts, hlogs, hcapped⟩ := Schedule.run_in_parts (Stage.counting 4) "count" ⟨0, 0⟩ 1000
  refine ⟨by decide, by decide, by decide, by decide, by decide, ?_, ?_, ?_⟩
  · exact hparts 2 3 (by decide)
  · exact (hlogs 2 5 (by decide)).1
  · exact hcapped 5 9

end Herald
