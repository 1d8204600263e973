import Herald.Proofs.SelfKnowledge

/-!
# Who the bot is

The bot is who the first session says it is, for good, whoever the later ones say it is. Its tasks start
while it listens, so it knows itself by then: no command of it fails for want of that, and it never
picks itself at random.

`Life.Familiar` is the invariant: who the bot is, and that each task has gone a part of its way.
`Life.run_acquainted` draws the conclusions.
-/

namespace Herald

open Chronicle

/-- Whether a session is open, or about to be. -/
def Phase.isOnline : Phase → Bool
  | .greeting _ => true
  | .opening _ => true
  | .listening => true
  | _ => false

namespace Lifecycle.Turn

variable {bot : Bot} {l : Lifecycle} {news : News} {phase : Phase} {demand : Demand}

/-- A session that opens makes the bot known, if it is the first. -/
theorem identity_eq (h : Turn bot l.phase news phase demand) (t : Nat) :
    (l.step bot news).1.identity =
      match session? (t, .told news) with
      | some session => Identity.publish l.identity session.me
      | none => l.identity := by
  obtain ⟨before, identity⟩ := l
  cases h <;> rfl

/-- A session is open only after one has been opened. -/
theorem isOnline (h : Turn bot l.phase news phase demand) (t : Nat)
    (hnone : session? (t, .told news) = none) (honline : phase.isOnline = true) :
    l.phase.isOnline = true := by
  generalize l.phase = before at h
  cases h with
  | connected session => cases hnone
  | refused | unopened | ended | rested => cases honline
  | posted | opened | event => rfl

end Lifecycle.Turn

namespace Life

variable {bot : Bot} {p q : Life}

/-- The sessions that have been opened so far. -/
def sessions (p : Life) : List Slack.Session :=
  p.chronicle.filterMap session?

/-! ## The invariant -/

/-- Who the bot is, and what its tasks have come to. -/
structure Familiar (bot : Bot) (p : Life) : Prop
    extends Underway bot (MayAnswer p.lifecycle.identity) p.tasks p.history where
  identity : p.lifecycle.identity = p.sessions.head?.map (·.me)
  online : p.lifecycle.phase.isOnline = true → p.sessions ≠ []
  running : p.tasks ≠ [] → p.sessions ≠ []

theorem familiar_start (bot : Bot) : Familiar bot {} where
  toUnderway := .nil bot _
  identity := rfl
  online h := by cases h
  running h := (h rfl).elim

/-- A step that asks nothing, and starts tasks only while the bot is online. -/
theorem Familiar.grow (h : Familiar bot p) {new : List Task}
    (hsessions : q.sessions = p.sessions)
    (hidentity : q.lifecycle.identity = p.lifecycle.identity)
    (honline : q.lifecycle.phase.isOnline = true → p.lifecycle.phase.isOnline = true)
    (htasks : q.tasks = p.tasks ++ new) (hhistory : q.history = p.history)
    (hnew : ∀ task ∈ new, p.lifecycle.phase.isOnline = true ∧
      bot.route task.event = some task.job) : Familiar bot q := by
  refine ⟨?_, ?_, ?_, ?_⟩
  · rw [hidentity, htasks, hhistory]
    exact h.toUnderway.start fun task htask => (hnew task htask).2
  · rw [hidentity, hsessions]
    exact h.identity
  · intro hq
    rw [hsessions]
    exact h.online (honline hq)
  · intro hq
    rw [hsessions]
    cases new with
    | nil =>
      rw [List.append_nil] at htasks
      rw [htasks] at hq
      exact h.running hq
    | cons task new =>
      -- a task starts online, and the bot is online in a session alone
      exact h.online (hnew task List.mem_cons_self).1

/-- The bot keeps the identity that it has when another session opens. -/
theorem Familiar.publish (h : Familiar bot p) {session : Slack.Session}
    (hsessions : q.sessions = p.sessions ++ [session])
    (hidentity : q.lifecycle.identity = Identity.publish p.lifecycle.identity session.me)
    (htasks : q.tasks = p.tasks) (hhistory : q.history = p.history) : Familiar bot q := by
  have hone : q.sessions ≠ [] := by
    rw [hsessions]
    simp
  have hanswered : ∀ entry ∈ p.history, MayAnswer q.lifecycle.identity entry.2.1 entry.2.2 := by
    intro entry hentry
    -- nothing is asked before the first session
    have hrunning : p.tasks ≠ [] := by
      intro hnil
      have howned := h.owned entry hentry
      rw [hnil] at howned
      exact Nat.not_lt_zero _ howned
    obtain ⟨first, rest, hfirst⟩ := List.exists_cons_of_ne_nil (h.running hrunning)
    have hanswered := h.answered entry hentry
    rw [h.identity, hfirst] at hanswered
    rw [hidentity, h.identity, hfirst]
    exact hanswered
  refine ⟨?_, ?_, fun _ => hone, fun _ => hone⟩
  · rw [htasks, hhistory]
    exact ⟨h.owned, hanswered, h.course⟩
  · rw [hidentity, hsessions, h.identity]
    cases p.sessions <;> rfl

/-- A task starts while the bot listens. -/
theorem mem_started {news : News} {phase : Phase} {demand : Demand} {task : Task}
    (hturn : Lifecycle.Turn bot p.lifecycle.phase news phase demand)
    (htask : task ∈ p.started bot news) :
    p.lifecycle.phase.isOnline = true ∧ bot.route task.event = some task.job := by
  generalize hbefore : p.lifecycle.phase = before at hturn
  cases hturn with
  | event event =>
    simp only [started, Lifecycle.step, hbefore, Option.mem_toList, Option.map_eq_some_iff] at htask
    obtain ⟨job, hroute, rfl⟩ := htask
    exact ⟨rfl, hroute⟩
  | _ => cases htask

/-- A turn of the bot. -/
theorem Familiar.tell (h : Familiar bot p) {before phase : Phase} {news : News} {demand : Demand}
    (hbefore : p.lifecycle.phase = before) (hturn : Lifecycle.Turn bot before news phase demand)
    (relay : Relay) : Familiar bot ({ p with relay := relay }.tell bot news) := by
  subst hbefore
  have hphase := hturn.step.1
  have hidentity := hturn.identity_eq p.now
  have hsessions : ({ p with relay := relay }.tell bot news).sessions =
      p.sessions ++ (session? (p.now, .told news)).toList := by
    simp only [sessions, Life.tell, List.filterMap_append]
    cases hsession : session? (p.now, .told news) with
    | none => rw [List.filterMap_cons_none hsession]; rfl
    | some session => rw [List.filterMap_cons_some hsession]; rfl
  -- the bot keeps what it has, or another session opens, which starts no task
  cases hsession : session? (p.now, .told news) with
  | none =>
    rw [hsession] at hidentity hsessions
    rw [Option.toList_none, List.append_nil] at hsessions
    refine h.grow hsessions hidentity ?_ rfl rfl ?_
    · intro honline
      change (p.lifecycle.step bot news).1.phase.isOnline = true at honline
      rw [hphase] at honline
      exact hturn.isOnline p.now hsession honline
    · intro task htask
      exact mem_started hturn htask
  | some session =>
    rw [hsession] at hidentity hsessions
    refine h.publish hsessions hidentity ?_ rfl
    cases news with
    | connected answer => exact List.append_nil _
    | _ => cases hsession

/-- A step that asks nothing and changes neither tasks nor sessions. -/
theorem Familiar.rest (h : Familiar bot p) (hsessions : q.sessions = p.sessions)
    (hlifecycle : q.lifecycle = p.lifecycle) (htasks : q.tasks = p.tasks)
    (hhistory : q.history = p.history) : Familiar bot q := by
  have hnone : q.tasks = p.tasks ++ [] := by rw [htasks, List.append_nil]
  refine h.grow hsessions (by rw [hlifecycle]) ?_ hnone hhistory ?_
  · rw [hlifecycle]
    exact id
  · intro task htask
    cases htask

/-- A task asks, and is one step further on its way. -/
theorem Familiar.ask (h : Familiar bot p) {i : Nat} {event : Event} {q : Query}
    {resume : q.Answer → Job Unit} {a : q.Answer}
    (htask : p.tasks[i]? = some ⟨event, .ask q resume⟩)
    (ha : MayAnswer p.lifecycle.identity q a) :
    Familiar bot { p with
      tasks := p.tasks.set i ⟨event, resume a⟩
      history := p.history ++ [(i, ⟨q, a⟩)] } := by
  refine ⟨h.toUnderway.ask htask ha, h.identity, h.online, ?_⟩
  intro _
  refine h.running ?_
  intro hnil
  obtain ⟨hi, -⟩ := List.getElem?_eq_some_iff.mp htask
  rw [hnil] at hi
  exact Nat.not_lt_zero _ hi

/-- Every step keeps the bot familiar with itself. -/
theorem Familiar.step (h : Familiar bot p) (hstep : Step bot p q) : Familiar bot q := by
  cases hstep with
  | wait hnow hrest => exact h.rest rfl rfl rfl rfl
  | connected hphase answer =>
    cases answer with
    | ok session => exact h.tell hphase (.connected session) p.relay
    | error f => exact h.tell hphase (.refused f) p.relay
  | posted hphase answer => exact h.tell hphase (.posted _ answer) p.relay
  | opened hphase socket => exact h.tell hphase (.opened _) _
  | unopened hphase => exact h.tell hphase (.unopened _) p.relay
  | read hphase hread => exact h.rest rfl rfl rfl rfl
  | forward hphase hsend =>
    refine h.rest ?_ rfl rfl rfl
    exact (List.filterMap_append ..).trans (List.append_nil _)
  | route hphase hreceive => exact h.tell hphase (.event _) _
  | crash hphase => exact h.rest rfl rfl rfl rfl
  | ended hphase hfinished => exact h.tell hphase .ended p.relay
  | rested hphase hnow => exact h.tell hphase .rested p.relay
  | ask htask ha => exact h.ask htask ha

theorem familiar_of_run (hrun : Run bot {} p) : Familiar bot p := by
  induction hrun with
  | refl => exact familiar_start bot
  | tail _ hstep ih => exact ih.step hstep

/-- While a task runs, the bot is known to be who the first session says. -/
theorem Familiar.exists_first (h : Familiar bot p) (hrunning : p.tasks ≠ []) :
    ∃ first later, p.sessions = first :: later ∧ p.lifecycle.identity = some first.me := by
  obtain ⟨first, later, hfirst⟩ := List.exists_cons_of_ne_nil (h.running hrunning)
  exact ⟨first, later, hfirst, by rw [h.identity, hfirst]; rfl⟩

/-! ## Acquaintance -/

/-- What the bot and its tasks know of the bot. -/
structure Acquainted (bot : Bot) (p : Life) : Prop where
  /-- Before the first session nobody knows the bot. -/
  unknown : p.sessions = [] → p.lifecycle.identity = none
  /-- After that it is who the first session says, whatever the later ones say. -/
  first : ∀ session later, p.sessions = session :: later →
    p.lifecycle.identity = some session.me
  /-- No task, of a message or of a notice, runs before. -/
  running : p.tasks ≠ [] → ∃ session later, p.sessions = session :: later
  /-- Whenever a task has asked, it was told. -/
  told : ∀ i held, (i, ⟨.identity, held⟩) ∈ p.history →
    ∃ session later, p.sessions = session :: later ∧ held = some session.me
  /-- At any time the task of a message has gone a part of the way of its command, whose report, once
  there is one, does not say that the bot is not known. -/
  reports : ∀ i m job, p.tasks[i]? = some ⟨.message m, job⟩ →
    ∃ incoming left, m.typed? = some incoming ∧
      (bot.handle incoming).Course (p.exchangesOf i) left ∧ job = left >>= (fun _ => .done ()) ∧
      ∀ report, left = .done (some report) →
        ∀ f, report.error = some f → f.cause ≠ .identityNotReady
  /-- The bot is no candidate when one is picked at random. -/
  target : ∀ i first rest id, (i, ⟨.pick first rest, id⟩) ∈ p.history →
    ∀ session later, p.sessions = session :: later →
      session.me.id ∉ first :: rest ∧ id.val ≠ session.me.id

variable {announce : String} {schedule : Schedule}

theorem mem_exchangesOf {i : Nat} {x : Exchange} :
    x ∈ p.exchangesOf i ↔ (i, x) ∈ p.history :=
  History.mem_of

/-- What a task exchanges is allowed for a bot that is who it is. -/
theorem Familiar.allowed (h : Familiar bot p) {me : Identity}
    (hme : p.lifecycle.identity = some me) (i : Nat) :
    ∀ x ∈ p.exchangesOf i, MayAnswer (some me) x.1 x.2 := by
  intro x hx
  rw [← hme]
  exact h.answered (i, x) (mem_exchangesOf.mp hx)

/-- However the answers, the sessions and the tasks come and go: once a session has been opened, the
bot is known to all, and always by what that session said. -/
theorem run_acquainted (hrun : Run { announce, schedule } {} p) :
    Acquainted { announce, schedule } p := by
  have h := familiar_of_run hrun
  have hrunning : ∀ {i : Nat} {task : Task}, p.tasks[i]? = some task → p.tasks ≠ [] := by
    intro i task htask hnil
    rw [hnil] at htask
    cases htask
  have howned : ∀ {i : Nat} {x : Exchange}, (i, x) ∈ p.history →
      ∃ task, p.tasks[i]? = some task := fun hx =>
    ⟨_, List.getElem?_eq_getElem (h.owned _ hx)⟩
  refine ⟨?_, ?_, ?_, ?_, ?_, ?_⟩
  · intro hnone
    rw [h.identity, hnone]
    rfl
  · intro session later hfirst
    rw [h.identity, hfirst]
    rfl
  · intro htasks
    obtain ⟨session, later, hfirst, -⟩ := h.exists_first htasks
    exact ⟨session, later, hfirst⟩
  · intro i held hmem
    obtain ⟨task, htask⟩ := howned hmem
    obtain ⟨session, later, hfirst, hidentity⟩ := h.exists_first (hrunning htask)
    have hheld : held = p.lifecycle.identity := h.answered _ hmem
    exact ⟨session, later, hfirst, hheld.trans hidentity⟩
  · intro i m job htask
    obtain ⟨session, later, -, hidentity⟩ := h.exists_first (hrunning htask)
    obtain ⟨whole, hroute, hcourse⟩ := h.course i _ htask
    obtain ⟨incoming, hincoming, rfl⟩ := Option.map_eq_some_iff.mp hroute
    -- the way of the task is that of its command, whose report is thrown away at the end
    obtain ⟨left, hleft, hjob⟩ := hcourse.of_bind_done
    refine ⟨incoming, left, hincoming, hleft, hjob, ?_⟩
    rintro report rfl
    obtain ⟨-, hdone⟩ := (Bot.knows_handle incoming).of_course hleft (h.allowed hidentity i)
    cases hdone with
    | done haware => exact haware report rfl
  · intro i first rest id hmem session later hfirst
    obtain ⟨task, htask⟩ := howned hmem
    have hidentity : p.lifecycle.identity = some session.me := by
      rw [h.identity, hfirst]
      rfl
    obtain ⟨job, hroute, hcourse⟩ := h.course i task htask
    obtain ⟨hasks, -⟩ := (Bot.knows_route hroute).of_course hcourse (h.allowed hidentity i)
    have hspares : session.me.id ∉ first :: rest := hasks _ (mem_exchangesOf.mpr hmem)
    refine ⟨hspares, ?_⟩
    intro hid
    rw [← hid] at hspares
    exact hspares id.property

/-- The next exchange of a task in a world, if it still has one. -/
def work (world : World) (p : Life) (i : Nat) : Life :=
  match p.tasks[i]? with
  | some ⟨event, .ask q resume⟩ => { p with
      tasks := p.tasks.set i ⟨event, resume (world.answer p.lifecycle.identity q)⟩
      history := p.history ++ [(i, ⟨q, world.answer p.lifecycle.identity q⟩)] }
  | _ => p

theorem run_work (bot : Bot) {world : World}
    (hworld : ∀ held q, MayAnswer held q (world.answer held q)) (turns : List Nat) (p : Life) :
    Run bot p (turns.foldl (work world) p) := by
  induction turns generalizing p with
  | nil => exact .refl
  | cons i turns ih =>
    refine Relation.ReflTransGen.trans ?_ (ih _)
    unfold work
    split
    · next htask => exact .single (.ask htask (hworld _ _))
    · exact .refl

theorem mayAnswer_village (held : Option Identity) (q : Query) :
    MayAnswer held q (Pool.village.answer held q) := by
  cases q with
  | start l => exact nofun
  | await l | race l r => cases l <;> trivial
  | identity => rfl
  | _ => trivial

/-- The greeting of the first session cannot be posted, and a second session opens with another
self before the command of the first one asks who the bot is. -/
theorem run_acquainted_other_self :
    let bot : Bot := { announce := "C0", schedule := ⟨500, none⟩ }
    let first : Slack.Session := ⟨"wss://a/", ⟨"UBOT", "herald"⟩⟩
    let second : Slack.Session := ⟨"wss://b/", ⟨"U1", "crier"⟩⟩
    ∃ p, Run bot {} p ∧ p.sessions = [first, second] ∧
      p.lifecycle = ⟨.greeting second, some first.me⟩ ∧
      p.history.map (·.2.1) = [.channel "C1", .identity, .pick "U1" [], .user "U1",
        .generate "taro",
        .post (({ channel := "C1", text := "dear  @taro " } : Message).withPersona
          Action.Ojichat.personaName Action.Ojichat.personaIcon),
        .pause 500] ∧
      Acquainted bot p := by
  intro bot first second
  let asking : Listener.Receipt := ⟨.text
    "\x7b\"type\":\"message\",\"user\":\"U1\",\"channel\":\"C1\",\"text\":\"$ ojichat\"\x7d", true⟩
  have hreact : Listener.react asking =
      .forward (.message ⟨none, some "U1", some "C1", some "$ ojichat"⟩) := by decide +kernel
  have hread : (Relay.start [asking]).Step .read
      { socket := []
        stage := .sending (.message ⟨none, some "U1", some "C1", some "$ ojichat"⟩) } := by
    have hstep := @Relay.Step.read (Relay.start [asking]) asking [] rfl rfl
    rwa [Relay.look, hreact] at hstep
  have hrun : Run bot {} _ := Relation.ReflTransGen.refl
    |>.tail (.connected rfl (.ok first)) |>.tail (.posted rfl (.error (.of .foreign)))
    |>.tail (.opened rfl [asking]) |>.tail (.read rfl hread)
    |>.tail (.forward rfl (.send rfl (by decide))) |>.tail (.route rfl (.receive rfl))
    |>.tail (.read rfl (.finish rfl rfl)) |>.tail (.ended rfl ⟨rfl, rfl⟩)
    |>.tail (@Step.wait bot _ 5000 (by decide) fun _ => by decide) |>.tail (.rested rfl rfl)
    |>.tail (.connected rfl (.ok second))
  have hworked := hrun.trans (run_work bot mayAnswer_village (List.replicate 7 0) _)
  exact ⟨_, hworked, by decide +kernel, by decide +kernel, by decide +kernel,
    run_acquainted hworked⟩

end Life

end Herald
