import Herald.Proofs.Acquaintance
import Herald.Proofs.Executor
import Herald.Proofs.Sessions

/-!
# The life of the running bot

The running bot is told news, hears what arrives on its stream, works on its jobs and lets time pass.
`Observed` is the running bot in a world, with the chronicle that an observer keeps of the news and of
what the bot asks for.

A life `Reflects` it if both are at the same place at the same time, with the same chronicle but for
what the listener does unseen, and if the jobs on the agenda are what is left of the tasks. Whatever
happens to the running bot in its time, there is a life that reflects it (`Observed.exists_life`). So
what holds of all lives holds of the running bot: it is who its first session says
(`Observed.identity_eq`), and its chronicle is that of its turns (`Observed.exists_turns`).

The router of the running bot takes an event as soon as the listener has it, which is one of the ways
to interleave them. What arrives on a stream is known to the life from the moment at which the stream
opens, since the socket of a `Relay` holds all that is still to arrive.
-/

namespace Herald

open Listener (Receipt Reaction)
open Chronicle

/-! ## News that the bot waits for -/

/-- Whether the bot waits for the news in a phase. -/
def Phase.awaits : Phase → News → Bool
  | .connecting, .connected _ => true
  | .greeting _, .posted _ => true
  | .opening _, .opened _ => true
  | .listening, .event _ => true
  | .listening, .ended => true
  | .resting, .rested => true
  | _, _ => false

namespace Lifecycle

variable {bot : Bot} {l : Lifecycle} {news : News}

theorem step_of_not_awaits (h : l.phase.awaits news = false) : l.step bot news = (l, none) := by
  obtain ⟨phase, identity⟩ := l
  cases phase <;> cases news <;> first | rfl | cases h

/-- A turn is taken at the news that the bot waits for. -/
theorem Turn.of_awaits (bot : Bot) {phase : Phase} (h : phase.awaits news = true) :
    ∃ next demand, Turn bot phase news next demand := by
  cases phase with
  | connecting =>
    cases news with
    | connected answer =>
      cases answer with
      | ok session => exact ⟨_, _, .connected session⟩
      | error f => exact ⟨_, _, .refused f⟩
    | _ => cases h
  | greeting session =>
    cases news with
    | posted answer => exact ⟨_, _, .posted session answer⟩
    | _ => cases h
  | opening url =>
    cases news with
    | opened success =>
      cases success with
      | true => exact ⟨_, _, .opened url⟩
      | false => exact ⟨_, _, .unopened url⟩
    | _ => cases h
  | listening =>
    cases news with
    | event event => exact ⟨_, _, .event event⟩
    | ended => exact ⟨_, _, .ended⟩
    | _ => cases h
  | resting =>
    cases news with
    | rested => exact ⟨_, _, .rested⟩
    | _ => cases h

/-- A job is called for by an event alone. -/
theorem exists_event_of_job {job : Job Unit} (h : (l.step bot news).2 = some job) :
    ∃ event, news = .event event := by
  rcases l.step_cases bot news with ⟨_, hstep, _⟩ | ⟨_, _, hstep, _⟩ | ⟨event, -, hheard⟩
  · rw [hstep] at h
    cases h
  · rw [hstep] at h
    cases h
  · cases news with
    | event event => exact ⟨event, rfl⟩
    | _ => cases hheard

end Lifecycle

/-! ## The running bot under observation -/

/-- What happens to the running bot. -/
inductive Occasion where
  | tell (news : News)
  | hear (r : Receipt)
  | work (limit : Nat)
  | wait (moment : Nat)

/-- What arrives on the stream, on several occasions. -/
def Occasion.arrivals : List Occasion → List Receipt
  | [] => []
  | .hear r :: rest => r :: arrivals rest
  | _ :: rest => arrivals rest

/-- The news that the listener has for the bot. -/
def Listener.Reaction.news? : Reaction → Option News
  | .forward event => some (.event event)
  | .stop => some .ended
  | _ => none

/-- The running bot in a world, and what it has been told and has asked for. -/
structure Observed (σ : Type u) where
  system : System := {}
  world : σ
  /-- Since when the bot waits for what it waits for. -/
  since : Nat := 0
  chronicle : Chronicle := [(0, .asked .connect)]

namespace Observed

/-- The present moment. -/
def now (x : Observed σ) : Nat :=
  x.system.agenda.now

/-- What the bot waits for. -/
def phase (x : Observed σ) : Phase :=
  x.system.lifecycle.phase

section

variable (bot : Bot) (answer : (now : Nat) → (q : Query) → σ → q.Answer × σ)

/-- The running bot is told news, which are noted if it waits for them. -/
def tell (x : Observed σ) (news : News) : Observed σ :=
  if x.phase.awaits news then
    { x with
      system := x.system.tell bot news
      since := x.now
      chronicle := x.chronicle ++ [(x.now, .told news),
        (x.now, .asked ((x.system.tell bot news).lifecycle.demand bot))] }
  else x

/-- The running bot hears what arrives, while it listens. -/
def hear (x : Observed σ) (r : Receipt) : Observed σ :=
  if x.system.isListening then ((Listener.react r).news?.map (x.tell bot)).getD x else x

/-- The running bot after an occasion. -/
def undergo (x : Observed σ) : Occasion → Observed σ
  | .tell news => x.tell bot news
  | .hear r => x.hear bot r
  | .work limit =>
    let state := (x.system.work answer limit x.world).getD (x.system, x.world)
    { x with system := state.1, world := state.2 }
  | .wait moment => { x with system := x.system.advanceTo moment }

/-- Whether a rest, if the bot rests, still lasts at a moment. -/
def mayWait (x : Observed σ) (moment : Nat) : Bool :=
  x.phase ≠ .resting || moment ≤ x.since + restTime.toNat

/-- Whether an occasion comes in its time. Events come over the stream, and a rest lasts as long as it
says. -/
def allows (x : Observed σ) : Occasion → Bool
  | .tell (.event _) => false
  | .tell .rested => x.phase ≠ .resting || x.now = x.since + restTime.toNat
  | .tell _ => true
  | .hear _ => true
  | .work limit => x.mayWait limit
  | .wait moment => x.mayWait moment

/-- Whether occasions that follow each other come in their time. -/
def isTimely (x : Observed σ) : List Occasion → Bool
  | [] => true
  | occasion :: rest => x.allows occasion && (x.undergo bot answer occasion).isTimely rest

end

variable {bot : Bot} {x : Observed σ}

theorem system_tell (bot : Bot) (x : Observed σ) (news : News) :
    (x.tell bot news).system = x.system.tell bot news := by
  unfold tell
  split
  · rfl
  · next h =>
    rw [System.tell, Lifecycle.step_of_not_awaits (Bool.not_eq_true _ ▸ h)]

/-- What is observed is the running bot that hears. -/
theorem system_hear (bot : Bot) (x : Observed σ) (r : Receipt) :
    (x.hear bot r).system = (x.system.hear bot r).1 := by
  unfold hear System.hear
  split
  · cases Listener.react r with
    | forward event => exact system_tell bot x _
    | stop => exact system_tell bot x _
    | answer payload => rfl
    | skip => rfl
  · rfl

end Observed

/-! ## Lives that reflect it -/

/-- An entry of what the listener does, unseen by an observer. -/
def Chronicle.isForwarded : Nat × Happening → Bool
  | (_, .forwarded _) => true
  | _ => false

/-- The listener waits for these receipts, and the router for the next event. -/
structure Relay.Expects (s : Relay) (receipts : List Receipt) : Prop where
  socket : s.socket = receipts
  stage : s.stage = .reading
  buffer : s.buffer = []

/-- Whoever answers does so as the world may, and keeps a log of what goes out. -/
def Life.Reports (answer : (now : Nat) → (q : Query) → σ → q.Answer × σ)
    (log : σ → List Exchange) : Prop :=
  ∀ now held q s, q.isOutward = true →
    MayAnswer held q (answer now q s).1 ∧
      log (answer now q s).2 = log s ++ [⟨q, (answer now q s).1⟩]

/-- The life is where the running bot is, and has come there in the same way. -/
structure Reflects (log : σ → List Exchange) (x : Observed σ) (p : Life) : Prop where
  lifecycle : p.lifecycle = x.system.lifecycle
  now : p.now = x.now
  since : p.since = x.since
  chronicle : p.chronicle.filter (!isForwarded ·) = x.chronicle
  jobs : x.system.agenda.Carries p.tasks
  outward : (p.history.map (·.2)).filter (·.1.isOutward) = log x.world

/-- And while the bot listens, the same is to arrive. -/
structure Anticipates (log : σ → List Exchange) (x : Observed σ) (ahead : List Receipt) (p : Life) :
    Prop extends Reflects log x p where
  relay : x.phase = .listening → p.relay.Expects ahead

variable {bot : Bot} {answer : (now : Nat) → (q : Query) → σ → q.Answer × σ}
  {log : σ → List Exchange} {x : Observed σ} {p : Life} {ahead : List Receipt}

theorem reflects_start {t : σ} (hlog : log t = []) : Reflects log { world := t } {} where
  lifecycle := rfl
  now := rfl
  since := rfl
  chronicle := rfl
  jobs := ⟨0, .refl _⟩
  outward := hlog.symm

/-- A task that the bot starts is the job of the running bot. -/
theorem Reflects.started (h : Reflects log x p) (bot : Bot) (news : News) :
    (x.system.tell bot news).agenda.Carries (p.tasks ++ p.started bot news) ∧
      (x.system.tell bot news).agenda.now = x.system.agenda.now := by
  cases hstep : x.system.lifecycle.step bot news with
  | mk lifecycle job =>
    cases job with
    | none =>
      -- neither starts anything
      have htell : x.system.tell bot news = ⟨lifecycle, x.system.agenda⟩ := by
        rw [System.tell, hstep]
      have hnone : p.started bot news = [] := by
        cases news with
        | event event => rw [Life.started, h.lifecycle, hstep]; rfl
        | _ => rfl
      rw [htell, hnone, List.append_nil]
      exact ⟨h.jobs, rfl⟩
    | some job =>
      have htell : x.system.tell bot news = ⟨lifecycle, x.system.agenda.start job⟩ := by
        rw [System.tell, hstep]
      obtain ⟨event, rfl⟩ := Lifecycle.exists_event_of_job (congrArg Prod.snd hstep)
      have hone : p.started bot (.event event) = [⟨event, job⟩] := by
        rw [Life.started, h.lifecycle, hstep]
        rfl
      rw [htell, hone]
      exact ⟨h.jobs.start event job, rfl⟩

/-- Both are told news that they wait for. -/
theorem Reflects.tell (h : Reflects log x p) {news : News} (hawaits : x.phase.awaits news = true)
    (bot : Bot) (relay : Relay) :
    Reflects log (x.tell bot news) ({ p with relay := relay }.tell bot news) := by
  obtain ⟨hjobs, hnow⟩ := h.started bot news
  have hlifecycle : (p.lifecycle.step bot news).1 = (x.system.tell bot news).lifecycle := by
    rw [System.lifecycle_tell, h.lifecycle]
  rw [Observed.tell, if_pos hawaits]
  refine ⟨hlifecycle, h.now.trans hnow.symm, h.now, ?_, hjobs, h.outward⟩
  -- both chronicles get the same two entries
  simp only [Life.tell, List.filter_append, h.chronicle, hlifecycle, h.now]
  rfl

/-- What a life shows does not depend on the listener. -/
theorem Reflects.relay (h : Reflects log x p) (relay : Relay) :
    Reflects log x { p with relay := relay } :=
  ⟨h.lifecycle, h.now, h.since, h.chronicle, h.jobs, h.outward⟩

/-- The listener puts an event into the buffer unseen. -/
theorem Reflects.forward (h : Reflects log x p) (relay : Relay) (event : Event) :
    Reflects log x { p with
      relay := relay, chronicle := p.chronicle ++ [(p.now, .forwarded event)] } := by
  refine ⟨h.lifecycle, h.now, h.since, ?_, h.jobs, h.outward⟩
  simp only [List.filter_append, h.chronicle]
  exact List.append_nil _

theorem Reflects.phase_eq (h : Reflects log x p) : p.lifecycle.phase = x.phase :=
  congrArg Lifecycle.phase h.lifecycle

theorem Observed.phase_tell {news : News} {next : Phase} {demand : Demand}
    (h : Lifecycle.Turn bot x.phase news next demand) : (x.tell bot news).phase = next := by
  rw [phase, system_tell, System.lifecycle_tell]
  exact h.step.1

/-- Nothing arrives but on an open stream. -/
theorem Reflects.offline (h : Reflects log x p) (hphase : x.phase ≠ .listening)
    (ahead : List Receipt) : Anticipates log x ahead p where
  toReflects := h
  relay hlistening := (hphase hlistening).elim

/-- The running bot is told news, and so is the life. -/
theorem Anticipates.tell (h : Anticipates log x ahead p) (bot : Bot) {news : News}
    (hallows : x.allows (.tell news) = true) :
    ∃ q, Life.Run bot p q ∧ Anticipates log (x.tell bot news) ahead q := by
  cases hawaits : x.phase.awaits news with
  | false =>
    -- news out of turn change nothing
    rw [Observed.tell, if_neg (by rw [hawaits]; exact Bool.false_ne_true)]
    exact ⟨p, .refl, h⟩
  | true =>
    have htold := h.toReflects.tell hawaits bot
    obtain ⟨next, demand, hturn⟩ := Lifecycle.Turn.of_awaits bot hawaits
    have hnext := Observed.phase_tell hturn
    have hphase := h.phase_eq
    generalize hbefore : x.phase = before at hturn hphase
    have hoffline : ∀ relay, next ≠ .listening →
        Anticipates log (x.tell bot news) ahead ({ p with relay := relay }.tell bot news) := by
      intro relay hne
      rw [← hnext] at hne
      exact (htold relay).offline hne ahead
    cases hturn with
    | connected session => exact ⟨_, .single (.connected hphase _), hoffline p.relay nofun⟩
    | refused f => exact ⟨_, .single (.connected hphase _), hoffline p.relay nofun⟩
    | posted session answer => exact ⟨_, .single (.posted hphase _), hoffline p.relay nofun⟩
    | opened url =>
      refine ⟨_, .single (.opened hphase ahead), htold _, ?_⟩
      intro _
      exact ⟨rfl, rfl, rfl⟩
    | unopened url => exact ⟨_, .single (.unopened hphase), hoffline p.relay nofun⟩
    | event event => cases hallows
    | ended =>
      -- the listener breaks down, with nothing in the buffer
      have hfinished : Relay.Finished { p.relay with stage := .ended } :=
        ⟨rfl, (h.relay hbefore).buffer⟩
      exact ⟨_, .tail (.single (.crash hphase)) (.ended hphase hfinished), hoffline _ nofun⟩
    | rested =>
      have hover : x.now = x.since + restTime.toNat := by
        simpa [Observed.allows, hbefore] using hallows
      rw [← h.now, ← h.since] at hover
      exact ⟨_, .single (.rested hphase hover), hoffline p.relay nofun⟩

/-- The running bot hears what arrives, which the listener of the life reads. -/
theorem Anticipates.hear {r : Receipt} (h : Anticipates log x (r :: ahead) p) (bot : Bot) :
    ∃ q, Life.Run bot p q ∧ Anticipates log (x.hear bot r) ahead q := by
  cases hlistens : x.system.isListening with
  | false =>
    rw [Observed.hear, if_neg (by rw [hlistens]; exact Bool.false_ne_true)]
    refine ⟨p, .refl, h.toReflects, ?_⟩
    intro hphase
    rw [System.isListening_iff.mpr hphase] at hlistens
    cases hlistens
  | true =>
    have hlistening : x.phase = .listening := System.isListening_iff.mp hlistens
    have hphase := h.phase_eq.trans hlistening
    obtain ⟨hsocket, hstage, hbuffer⟩ := h.relay hlistening
    have hread : Life.Step bot p { p with relay := p.relay.look r ahead } :=
      .read hphase (.read hstage hsocket)
    have hlook := h.toReflects.relay (p.relay.look r ahead)
    rw [Observed.hear, if_pos hlistens]
    cases hreact : Listener.react r with
    | skip =>
      refine ⟨_, .single hread, hlook, ?_⟩
      intro _
      simp only [Relay.look, hreact]
      exact ⟨rfl, hstage, hbuffer⟩
    | answer payload =>
      refine ⟨_, .single hread, hlook, ?_⟩
      intro _
      simp only [Relay.look, hreact]
      exact ⟨rfl, hstage, hbuffer⟩
    | stop =>
      have hawaits : x.phase.awaits .ended = true := by rw [hlistening]; rfl
      have hfinished : (p.relay.look r ahead).Finished := by
        simp only [Relay.look, hreact]
        exact ⟨rfl, hbuffer⟩
      have hturn : Lifecycle.Turn bot x.phase .ended .resting (.rest restTime) := by
        rw [hlistening]
        exact .ended
      have hoffline : (x.tell bot .ended).phase ≠ .listening := by
        rw [Observed.phase_tell hturn]
        intro h
        cases h
      exact ⟨_, .tail (.single hread) (.ended hphase hfinished),
        (hlook.tell hawaits bot _).offline hoffline ahead⟩
    | forward event =>
      have hawaits : x.phase.awaits (.event event) = true := by rw [hlistening]; rfl
      -- the event goes through the empty buffer to the router
      have hheard : Reflects log (x.tell bot (.event event)) (p.hear bot event) :=
        (h.toReflects.forward p.relay event).tell hawaits bot _
      refine ⟨_, Life.run_hear bot hphase hstage hbuffer hsocket hreact, hheard, ?_⟩
      intro _
      exact ⟨congrArg List.tail hsocket, rfl, rfl⟩

/-- A job that wakes moves the time on, but not beyond the limit. -/
theorem Agenda.now_of_next? {a a' : Agenda} {limit : Nat} {job : Job Unit}
    (h : a.next? limit = some (job, a')) : a.now ≤ a'.now ∧ a'.now ≤ max a.now limit := by
  unfold next? at h
  split at h
  · split at h
    · next hwake =>
      cases h
      refine ⟨Nat.le_max_left _ _, Nat.max_le.mpr ⟨Nat.le_max_left _ _, ?_⟩⟩
      exact Nat.le_trans hwake (Nat.le_max_right _ _)
    · cases h
  · cases h

theorem Agenda.now_keep (a : Agenda) (halt : Job.Halt Unit) : (a.keep halt).now = a.now := by
  cases halt <;> rfl

/-- The life can wait as long as the running bot. -/
theorem Reflects.wait (h : Reflects log x p) (htidy : Life.Tidy bot p) {limit moment : Nat}
    (hmay : x.mayWait limit = true) (hle : x.now ≤ moment) (hlimit : moment ≤ max x.now limit) :
    Life.Step bot p { p with now := moment } := by
  refine .wait (h.now ▸ hle) ?_
  intro hphase
  have hnow := htidy.resting hphase
  have hrest : limit ≤ x.since + restTime.toNat := by
    rw [h.phase_eq] at hphase
    simpa [Observed.mayWait, hphase] using hmay
  rw [h.now, h.since] at hnow
  rw [h.since]
  omega

/-- A task can take its course while all else waits. -/
theorem Life.run_course (bot : Bot) {p : Life} {i : Nat} {event : Event} {job left : Job Unit}
    {xs : List Exchange} (hcourse : job.Course xs left) (htask : p.tasks[i]? = some ⟨event, job⟩)
    (hallowed : ∀ x ∈ xs, MayAnswer p.lifecycle.identity x.1 x.2) :
    Run bot p { p with
      tasks := p.tasks.set i ⟨event, left⟩
      history := p.history ++ xs.map (i, ·) } :=
  Task.run_course (fun tasks history => { p with tasks, history }) (fun htask ha => .ask htask ha)
    hcourse htask hallowed

/-- The running bot works on a job, which is one of the tasks of the life. -/
theorem Anticipates.work (h : Anticipates log x ahead p) (hreports : Life.Reports answer log)
    (htidy : Life.Tidy bot p) {limit : Nat} (hmay : x.mayWait limit = true) :
    ∃ q, Life.Run bot p q ∧ Anticipates log (x.undergo bot answer (.work limit)) ahead q := by
  cases hnext : x.system.agenda.next? limit with
  | none =>
    have hidle : x.undergo bot answer (.work limit) = x := by
      simp only [Observed.undergo, System.work, Agenda.step, hnext, Option.map_none,
        Option.getD_none]
    rw [hidle]
    exact ⟨p, .refl, h⟩
  | some woken =>
    obtain ⟨job, agenda⟩ := woken
    generalize hleft : job.advance
      (System.withIdentity x.system.lifecycle.identity (answer agenda.now)) x.world = left
    have hworks : x.undergo bot answer (.work limit) = { x with
        system := { x.system with agenda := agenda.keep left.1 }
        world := left.2 } := by
      simp only [Observed.undergo, System.work, Agenda.step, hnext, hleft, Option.map_some,
        Option.getD_some]
    -- the job is one of the tasks
    obtain ⟨i, event, htask, hcarries⟩ := h.jobs.exists_task hnext
    obtain ⟨xs, hcourse, hallowed, hlog⟩ :=
      Job.exists_course (Life.MayAnswer x.system.lifecycle.identity) rfl (fun _ => trivial)
        (fun q s hq => hreports agenda.now _ q s hq) job x.world
    rw [hleft] at hcourse hlog
    rw [← h.lifecycle] at hallowed
    obtain ⟨hle, hlimit⟩ := Agenda.now_of_next? hnext
    have hwait := h.toReflects.wait htidy hmay hle hlimit
    have hrun := Life.run_course bot (p := { p with now := agenda.now }) hcourse htask hallowed
    rw [hworks]
    refine ⟨_, hrun.head hwait, ?_, h.relay⟩
    refine ⟨h.lifecycle, (agenda.now_keep _).symm, h.since, h.chronicle, hcarries _, ?_⟩
    simp only [List.map_append, List.filter_append, List.map_map, h.outward]
    exact (congrArg (_ ++ ·) (congrArg _ (List.map_id xs))).trans hlog.symm

/-- Whatever happens to the running bot in its time, the life keeps up with it. -/
theorem Anticipates.undergo (hreports : Life.Reports answer log) (htidy : Life.Tidy bot p)
    {occasion : Occasion} {later : List Occasion}
    (h : Anticipates log x (Occasion.arrivals (occasion :: later)) p)
    (hallows : x.allows occasion = true) :
    ∃ q, Life.Run bot p q ∧
      Anticipates log (x.undergo bot answer occasion) (Occasion.arrivals later) q := by
  cases occasion with
  | tell news => exact h.tell bot hallows
  | hear r => exact h.hear bot
  | work limit => exact h.work hreports htidy hallows
  | wait moment =>
    have hwait := h.toReflects.wait htidy hallows (Nat.le_max_left _ moment) (Nat.le_refl _)
    exact ⟨_, .single hwait, ⟨h.lifecycle, rfl, h.since, h.chronicle, h.jobs, h.outward⟩, h.relay⟩

theorem Anticipates.exists_run (hreports : Life.Reports answer log) (occasions : List Occasion)
    (hrun : Life.Run bot {} p) (h : Anticipates log x (Occasion.arrivals occasions) p)
    (htimely : x.isTimely bot answer occasions = true) :
    ∃ q, Life.Run bot {} q ∧ Reflects log (occasions.foldl (·.undergo bot answer ·) x) q := by
  induction occasions generalizing x p with
  | nil => exact ⟨p, hrun, h.toReflects⟩
  | cons occasion later ih =>
    obtain ⟨hallows, hlater⟩ := Bool.and_eq_true_iff.mp htimely
    obtain ⟨q, hnext, hq⟩ := h.undergo hreports (Life.tidy_of_run hrun) hallows
    exact ih (hrun.trans hnext) hq hlater

/-! ## What is true of the running bot -/

/-- What the listener does unseen is no turn. -/
theorem Lifecycle.Turns.observed {first last : Phase} {since since' : Nat} {l : Chronicle}
    (h : Turns bot first since l last since') :
    Turns bot first since (l.filter (!isForwarded ·)) last since' := by
  induction h with
  | nil => exact .nil
  | forwarded _ ih => exact ih
  | told hturn hle hrested _ ih => exact .told hturn hle hrested ih

/-- And it opens no session. -/
theorem Chronicle.filterMap_session?_observed (l : Chronicle) :
    (l.filter (!isForwarded ·)).filterMap session? = l.filterMap session? := by
  rw [List.filterMap_filter]
  refine List.filterMap_congr ?_
  rintro ⟨t, happening⟩ -
  cases happening <;> rfl

namespace Observed

variable {t : σ} {occasions : List Occasion}

/-- Whatever happens to the running bot in its time, there is a life that reflects it. -/
theorem exists_life (hreports : Life.Reports answer log) (hlog : log t = [])
    (htimely : ({ world := t } : Observed σ).isTimely bot answer occasions = true) :
    ∃ p, Life.Run bot {} p ∧
      Reflects log (occasions.foldl (·.undergo bot answer ·) { world := t }) p := by
  refine Anticipates.exists_run hreports occasions .refl ?_ htimely
  exact (reflects_start hlog).offline nofun _

/-- A request that is refused, and the next one a rest later. -/
example : ({ world := () } : Observed Unit).isTimely { announce := "C1", schedule := ⟨500, none⟩ }
    (fun _ q s => (Pool.village.answer none q, s))
    [.tell (.connected (.error (.of .identityNotReady))), .wait 5000, .tell .rested] = true := by
  decide +kernel

/-- The running bot is who its first session says. -/
theorem identity_eq (hreports : Life.Reports answer log) (hlog : log t = [])
    (htimely : ({ world := t } : Observed σ).isTimely bot answer occasions = true) :
    let x := occasions.foldl (·.undergo bot answer ·) ({ world := t } : Observed σ)
    x.system.lifecycle.identity = (x.chronicle.filterMap session?).head?.map (·.me) := by
  intro x
  obtain ⟨p, hrun, hp⟩ := exists_life hreports hlog htimely
  have hidentity := (Life.familiar_of_run hrun).identity
  rw [Life.sessions, ← filterMap_session?_observed, hp.chronicle, hp.lifecycle] at hidentity
  exact hidentity

/-- The chronicle of the running bot is that of the turns it takes, from its first request on. -/
theorem exists_turns (hreports : Life.Reports answer log) (hlog : log t = [])
    (htimely : ({ world := t } : Observed σ).isTimely bot answer occasions = true) :
    let x := occasions.foldl (·.undergo bot answer ·) ({ world := t } : Observed σ)
    ∃ l, x.chronicle = (0, .asked .connect) :: l ∧
      Lifecycle.Turns bot .connecting 0 l x.phase x.since := by
  intro x
  obtain ⟨p, hrun, hp⟩ := exists_life hreports hlog htimely
  obtain ⟨l, hl, hturns⟩ := (Life.tidy_of_run hrun).turns
  refine ⟨l.filter (!isForwarded ·), ?_, ?_⟩
  · rw [← hp.chronicle, hl]
    rfl
  · rw [← hp.phase_eq, ← hp.since]
    exact hturns.observed

end Observed

end Herald
