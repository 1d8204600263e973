import Herald.Proofs.Interleaving
import Herald.Proofs.Conduct
import Herald.Proofs.RepeatedRun

/-!
# What becomes of a command

A command is answered in the channel it came from, as often as it asks for and the cap allows, and a text
that is no command is not answered at all.

* `Action.makes_ojichat` and its like say what the built-in actions reply with. To make a reply they only
  inquire (`Query.IsInquiry`), whatever they are told.
* `Schedule.course_runFrom` counts the messages that a run posts, turn by turn of its loop.
* `Bot.handle_account` settles what becomes of any message, whatever the world is like.
-/

namespace Herald

/-! ## Making a reply -/

/-- A query that posts nothing and takes no time. -/
def Query.IsInquiry : Query → Prop
  | .post _ => False
  | .pause _ => False
  | _ => True

/-- The work only inquires, whatever it is told, and what it succeeds with has the property. -/
abbrev Attempt.Makes (result : α → Prop) : Attempt α → Prop :=
  Attempt.Keeps (fun _ _ => True) Query.IsInquiry result fun _ => True

namespace Attempt

theorem ends_trivial (r : Except Failure α) : Ends (fun _ => True) (fun _ => True) r := by
  cases r <;> trivial

theorem makes_channel (id : String) : (channel id).Makes fun _ => True :=
  (Job.keeps_query (q := .channel id) trivial).mono fun r _ => ends_trivial r

theorem makes_user (id : String) : (user id).Makes fun _ => True :=
  (Job.keeps_query (q := .user id) trivial).mono fun r _ => ends_trivial r

theorem makes_generate (name : String) : (generate name).Makes fun _ => True :=
  (Job.keeps_query (q := .generate name) trivial).mono fun r _ => ends_trivial r

theorem makes_identity : identity.Makes fun _ => True :=
  keeps_query (q := .identity) trivial fun _ _ => ends_trivial _

theorem makes_pick (first : String) (rest : List String) : (pick first rest).Makes fun _ => True :=
  keeps_query (q := .pick first rest) trivial fun _ _ => trivial

theorem makes_overlap {F : LookUp → Type} (take : (l : LookUp) → l.Answer → Except Failure (F l))
    (l r : LookUp) : (overlap take l r).Makes fun _ => True :=
  keeps_overlap
    (fun l => keeps_query (q := .start l) trivial fun _ _ => ends_trivial _)
    (fun l => keeps_query (q := .await l) trivial fun _ _ => ends_trivial _)
    (fun l r => keeps_query (q := .race l r) trivial fun _ _ => ends_trivial _) l r

end Attempt

namespace Action

theorem Ojichat.makes_anyMember (channel : Channel) : (anyMember channel).Makes fun _ => True := by
  refine Attempt.makes_identity.bind ?_
  intro me _
  split
  · exact Attempt.keeps_fail trivial
  · exact Attempt.makes_pick _ _

/-- A text about someone, under the name of the persona. -/
theorem makes_ojichat (args : List String) (m : Incoming) :
    (ojichat.run args m).Makes fun reply => ∃ generated name,
      reply = (m.reply (Ojichat.decorate generated name)).withPersona Ojichat.personaName
        Ojichat.personaIcon := by
  refine (Attempt.makes_channel m.channel).bind ?_
  intro channel _
  have htarget : (Ojichat.targetId channel (Ojichat.target args m.sender)).Makes
      fun _ => True := by
    cases Ojichat.target args m.sender with
    | user id => exact Attempt.keeps_pure trivial
    | anyone => exact Ojichat.makes_anyMember channel
  refine htarget.bind ?_
  intro id _
  refine ((Attempt.makes_user id).within fun _ _ => trivial).bind ?_
  intro user _
  refine (Attempt.makes_generate user.name).bind ?_
  intro generated _
  exact Attempt.keeps_pure ⟨generated, user.name, rfl⟩

/-- The text about a channel. -/
theorem makes_stats (args : List String) (m : Incoming) :
    (stats.run args m).Makes fun reply => ∃ channel creator,
      reply = m.reply (Stats.text channel creator) := by
  refine (Attempt.makes_channel m.channel).bind ?_
  intro channel _
  have hcreator : (Stats.creatorText channel).Makes fun _ => True := by
    unfold Stats.creatorText
    split
    · exact Attempt.keeps_pure trivial
    · refine (Attempt.makes_user channel.creator).bind ?_
      intro user _
      exact Attempt.keeps_pure trivial
  refine hcreator.bind ?_
  intro creator _
  exact Attempt.keeps_pure ⟨channel, creator, rfl⟩

theorem makes_version (args : List String) (m : Incoming) :
    (version.run args m).Makes (· = m.reply Herald.version) :=
  Attempt.keeps_pure rfl

end Action

theorem CommandTable.makes_help (table : CommandTable) (args : List String) (m : Incoming) :
    (table.help.run args m).Makes (· = m.reply table.helpText) :=
  Attempt.keeps_pure rfl

/-! ## Replies -/

/-- A message that an action answers another one with: it goes back to the channel of that, and is under
the name of the persona if the action is `ojichat`, and of the bot otherwise. -/
structure IsReply (m : Incoming) (action : Action) (reply : Message) : Prop where
  channel_eq : reply.channel = m.channel
  persona : action = Action.ojichat → reply.asUser = false ∧
    reply.username = some Action.Ojichat.personaName ∧
    reply.icon = some Action.Ojichat.personaIcon
  own : action ≠ Action.ojichat → reply.asUser = true ∧ reply.username = none ∧ reply.icon = none

theorem isReply_reply {action : Action} (h : action ≠ Action.ojichat) (m : Incoming)
    (text : String) : IsReply m action (m.reply text) :=
  ⟨rfl, fun heq => absurd heq h, fun _ => ⟨rfl, rfl, rfl⟩⟩

namespace CommandTable

/-- What a name stands for among the built-in actions. -/
theorem resolve_builtIn_cases (name : String) :
    builtIn.resolve name = Action.ojichat ∨ builtIn.resolve name = Action.stats ∨
      builtIn.resolve name = Action.version ∨ builtIn.resolve name = builtIn.help := by
  unfold resolve
  cases hfind : builtIn.find? name with
  | none => exact .inr (.inr (.inr rfl))
  | some action =>
    have haction : action ∈ [Action.ojichat, Action.stats, Action.version] :=
      List.mem_of_find?_eq_some hfind
    simp only [List.mem_cons, List.not_mem_nil, or_false] at haction
    rcases haction with rfl | rfl | rfl
    · exact .inl rfl
    · exact .inr (.inl rfl)
    · exact .inr (.inr (.inl rfl))

/-- The built-in actions reply to the message that they are asked by. -/
theorem makes_resolve_builtIn (name : String) (args : List String) (m : Incoming) :
    ((builtIn.resolve name).run args m).Makes (IsReply m (builtIn.resolve name)) := by
  have hne : ∀ {action : Action}, action.name ≠ "ojichat" → action ≠ Action.ojichat :=
    fun h heq => h (congrArg Action.name heq)
  rcases resolve_builtIn_cases name with h | h | h | h <;> rw [h]
  · refine (Action.makes_ojichat args m).mono ?_
    rintro _ ⟨generated, name, rfl⟩
    exact ⟨rfl, fun _ => ⟨rfl, rfl, rfl⟩, fun hnot => absurd rfl hnot⟩
  · refine (Action.makes_stats args m).mono ?_
    rintro _ ⟨channel, creator, rfl⟩
    exact isReply_reply (hne (by decide)) m _
  · refine (Action.makes_version args m).mono ?_
    rintro _ rfl
    exact isReply_reply (hne (by decide)) m _
  · refine (builtIn.makes_help args m).mono ?_
    rintro _ rfl
    exact isReply_reply (hne (by decide)) m _

end CommandTable

/-! ## Counting the posts -/

/-- The message of a post that has succeeded. -/
def Exchange.delivered? (x : Exchange) : Option Message :=
  match x.post? with
  | some (m, .ok ()) => some m
  | _ => none

theorem Exchange.eq_of_post? {x : Exchange} {m : Message} {outcome : Except Failure Unit}
    (h : x.post? = some (m, outcome)) : x = ⟨.post m, outcome⟩ := by
  obtain ⟨q, a⟩ := x
  cases q with
  | post m' =>
    cases h
    rfl
  | _ => cases h

/-- An inquiry posts nothing. -/
theorem Exchange.delivered?_of_inquiry {x : Exchange} (h : x.1.IsInquiry) :
    x.delivered? = none := by
  obtain ⟨q, a⟩ := x
  cases q with
  | post m => exact h.elim
  | _ => rfl

/-- A turn of a run: what its action asks and is told, what it makes, and what is done with that. -/
structure Schedule.Turn where
  asked : List Exchange
  made : Except Failure Message
  ending : List Exchange

namespace Schedule.Turn

/-- All that is asked and told in a turn. -/
def exchanges (turn : Turn) : List Exchange :=
  turn.asked ++ turn.ending

/-- What is done with what an action has made: a message is posted, and a pause follows if it could
be. -/
inductive Ends (delay : UInt64) : Except Failure Message → List Exchange → Prop where
  | noMessage (f : Failure) : Ends delay (.error f) []
  | notPosted (m : Message) (f : Failure) : Ends delay (.ok m) [⟨.post m, .error f⟩]
  | posted (m : Message) : Ends delay (.ok m) [⟨.post m, .ok ()⟩, ⟨.pause delay, ()⟩]

end Schedule.Turn

namespace Schedule

variable (s : Schedule) (name : String) {act : Attempt Message}

/-- An action that only inquires posts nothing itself. -/
theorem delivered_of_makes {result : Message → Prop} (hact : act.Makes result)
    {ys : List Exchange} {made : Except Failure Message} (h : act.run.Course ys (.done made)) :
    ys.filterMap Exchange.delivered? = [] := by
  rw [List.filterMap_eq_nil_iff]
  intro x hx
  exact Exchange.delivered?_of_inquiry ((hact.of_course h fun _ _ => trivial).1 x hx)

/-- One turn of the loop: the action makes no message, or its message cannot be posted, or there is a
pause behind the post and the loop goes on. -/
theorem turn_of_course {requested : UInt32} {left : Nat} {posted : UInt32} {xs : List Exchange}
    {report : RunReport}
    (h : (s.runFrom Bot.outlet name act.run requested (left + 1) posted).Course xs
      (.done report)) :
    (∃ f, act.run.Course xs (.done (.error f)) ∧
      report = ⟨requested, posted, some (f.within (.running name (posted + 1) requested))⟩) ∨
    (∃ ys m f, act.run.Course ys (.done (.ok m)) ∧ xs = ys ++ [⟨.post m, .error f⟩] ∧
      report = ⟨requested, posted, some (f.within (.posting name (posted + 1) requested))⟩) ∨
    ∃ ys m zs, act.run.Course ys (.done (.ok m)) ∧
      xs = ys ++ ⟨.post m, .ok ()⟩ :: ⟨.pause s.delay, ()⟩ :: zs ∧
      (s.runFrom Bot.outlet name act.run requested left (posted + 1)).Course zs (.done report) := by
  obtain ⟨ys, behind, made, rfl, hmade, hmessage⟩ := Job.Course.split h
  cases made with
  | error f =>
    left
    cases hmessage with
    | nil => exact ⟨f, by rwa [List.append_nil], rfl⟩
  | ok m =>
    right
    obtain ⟨posting, ending, outcome, rfl, hpost, hposted⟩ := Job.Course.split hmessage
    obtain rfl := Job.Course.of_query hpost
    cases outcome with
    | error f =>
      left
      cases hposted with
      | nil => exact ⟨ys, m, f, hmade, rfl, rfl⟩
    | ok u =>
      right
      obtain ⟨pausing, zs, v, rfl, hpause, hrest⟩ := Job.Course.split hposted
      obtain rfl := Job.Course.of_query hpause
      exact ⟨ys, m, zs, hmade, rfl, hrest⟩

/-- The exchanges of a run are those of its turns, one after another. There are `left` turns at most,
and there is one unless none is left. -/
theorem exists_turns {requested : UInt32} {left : Nat} {posted : UInt32} {xs : List Exchange}
    {report : RunReport}
    (h : (s.runFrom Bot.outlet name act.run requested left posted).Course xs (.done report)) :
    ∃ turns : List Turn, xs = turns.flatMap Turn.exchanges ∧ turns.length ≤ left ∧
      (turns = [] ↔ left = 0) ∧
      ∀ turn ∈ turns, act.run.Course turn.asked (.done turn.made) ∧
        Turn.Ends s.delay turn.made turn.ending := by
  induction left generalizing posted xs with
  | zero =>
    cases h with
    | nil => exact ⟨[], rfl, Nat.le_refl 0, by simp, by simp⟩
  | succ left ih =>
    rcases s.turn_of_course name h with ⟨f, hmade, -⟩ | ⟨ys, m, f, hmade, rfl, -⟩ |
      ⟨ys, m, zs, hmade, rfl, hrest⟩
    · refine ⟨[⟨xs, .error f, []⟩], by simp [Turn.exchanges], by simp, by simp, ?_⟩
      simpa using ⟨hmade, .noMessage f⟩
    · refine ⟨[⟨ys, .ok m, [⟨.post m, .error f⟩]⟩], by simp [Turn.exchanges], by simp, by simp, ?_⟩
      simpa using ⟨hmade, .notPosted m f⟩
    · obtain ⟨turns, rfl, hlength, -, hturns⟩ := ih hrest
      refine ⟨⟨ys, .ok m, [⟨.post m, .ok ()⟩, ⟨.pause s.delay, ()⟩]⟩ :: turns, ?_, ?_, by simp, ?_⟩
      · simp [Turn.exchanges]
      · simpa using hlength
      · intro turn hturn
        rcases List.mem_cons.mp hturn with rfl | hturn
        · exact ⟨hmade, .posted m⟩
        · exact hturns turn hturn

/-- What a run has posted when its loop is through, with `left` turns to go and `posted` behind it. -/
theorem course_runFrom (hact : act.Makes fun _ => True) {requested : UInt32} {left : Nat}
    {posted : UInt32} (hfit : posted.toNat + left = requested.toNat) {xs : List Exchange}
    {report : RunReport}
    (h : (s.runFrom Bot.outlet name act.run requested left posted).Course xs (.done report)) :
    report.requested = requested ∧
      report.posted.toNat = posted.toNat + (xs.filterMap Exchange.delivered?).length ∧
      report.posted.toNat ≤ requested.toNat := by
  induction left generalizing posted xs with
  | zero =>
    cases h with
    | nil => exact ⟨rfl, rfl, by show posted.toNat ≤ _; omega⟩
  | succ left ih =>
    have hle : posted.toNat ≤ requested.toNat := by omega
    rcases s.turn_of_course name h with ⟨f, hmade, rfl⟩ | ⟨ys, m, f, hmade, rfl, rfl⟩ |
      ⟨ys, m, zs, hmade, rfl, hrest⟩
    · rw [delivered_of_makes hact hmade]
      exact ⟨rfl, rfl, hle⟩
    · rw [List.filterMap_append, delivered_of_makes hact hmade]
      exact ⟨rfl, rfl, hle⟩
    · -- one message more is posted and counted, and the counter does not overflow
      have hlt : posted.toNat + 1 < UInt32.size := by
        have hrequested : requested.toNat < UInt32.size := requested.toNat_lt
        omega
      have hnext : (posted + 1).toNat = posted.toNat + 1 := by
        rw [UInt32.toNat_add]
        exact Nat.mod_eq_of_lt hlt
      obtain ⟨hrequested, hcount, hposted⟩ := ih (by omega) hrest
      refine ⟨hrequested, ?_, hposted⟩
      rw [List.filterMap_append, delivered_of_makes hact hmade, hcount, hnext]
      show _ = posted.toNat + ((zs.filterMap Exchange.delivered?).length + 1)
      omega

/-- A run asks what its action asks, posts what that makes, and makes its pauses. -/
theorem keeps_runFrom {asks : Query → Prop} (hinquiry : ∀ q, q.IsInquiry → asks q)
    (hpause : asks (.pause s.delay)) (hact : act.Makes fun m => asks (.post m))
    (requested : UInt32) (left : Nat) (posted : UInt32) :
    (s.runFrom Bot.outlet name act.run requested left posted).Keeps (fun _ _ => True) asks
      fun _ => True := by
  induction left generalizing posted with
  | zero => exact .done trivial
  | succ left ih =>
    refine Job.Keeps.bind (Job.Keeps.mono_asks hact hinquiry) ?_
    intro made hmade
    cases made with
    | error f => exact .done trivial
    | ok m =>
      refine (Job.keeps_query (q := .post m) hmade).bind ?_
      intro outcome _
      cases outcome with
      | error f => exact .done trivial
      | ok u =>
        refine (Job.keeps_query (q := .pause s.delay) hpause).bind ?_
        intro _ _
        exact ih (posted + 1)

end Schedule

/-! ## The account of a message -/

/-- What becomes of a message by a schedule: the result, and what has been asked and told. -/
structure Handled (s : Schedule) (m : Incoming) (result : Option RunReport)
    (xs : List Exchange) : Prop where
  /-- There is no report for a text that is no command, and for no other. -/
  none_iff : result = none ↔ Command.parse m.text = none
  /-- Nothing is asked for it, nothing is posted, and no time is spent on it. -/
  idle : result = none → xs = []
  /-- A command goes the way of its action as the schedule runs it, and the report is of that run. -/
  course : ∀ c, Command.parse m.text = some c →
    let action := CommandTable.builtIn.resolve c.name
    ∃ report, result = some report ∧
      (s.run Bot.outlet action.name (action.run c.args m).run c.runs).Course xs (.done report)
  /-- It asks for its runs, up to the cap. -/
  requested_eq : ∀ c report, Command.parse m.text = some c → result = some report →
    report.requested.toNat = s.maxRuns.elim c.runs.toNat fun max => min c.runs.toNat max.toNat
  /-- Its report counts the messages that have been posted. -/
  posted_eq : ∀ report, result = some report →
    report.posted.toNat = (xs.filterMap Exchange.delivered?).length ∧
      report.posted.toNat ≤ report.requested.toNat
  /-- Whatever it posts or tries to is a reply by the action that its name stands for. -/
  replies : ∀ c, Command.parse m.text = some c →
    ∀ post ∈ xs.filterMap Exchange.post?, IsReply m (CommandTable.builtIn.resolve c.name) post.1

namespace Bot

variable {announce : String} {schedule : Schedule}

/-- A message is handled by inquiries, pauses and posts of what its action makes. -/
theorem keeps_handle {asks : Query → Prop} {m : Incoming} {c : Command}
    (hparse : Command.parse m.text = some c) (hinquiry : ∀ q, q.IsInquiry → asks q)
    (hpause : asks (.pause schedule.delay))
    (hact : ((CommandTable.builtIn.resolve c.name).run c.args m).Makes fun reply =>
      asks (.post reply)) :
    (Bot.handle { announce, schedule } m).Keeps (fun _ _ => True) asks fun _ => True := by
  have hrun := schedule.keeps_runFrom (CommandTable.builtIn.resolve c.name).name hinquiry hpause
    hact (schedule.clamp c.runs) (schedule.clamp c.runs).toNat 0
  rw [handle, hparse]
  exact hrun.map fun _ _ => trivial

/-- What a command posts are replies. -/
theorem keeps_handle_replies {m : Incoming} {c : Command}
    (hparse : Command.parse m.text = some c) :
    (Bot.handle { announce, schedule } m).Keeps (fun _ _ => True)
      (fun q => ∀ reply, q = .post reply → IsReply m (CommandTable.builtIn.resolve c.name) reply)
      fun _ => True := by
  refine keeps_handle hparse ?_ ?_ ?_
  · rintro _ hq reply rfl
    exact hq.elim
  · rintro reply ⟨⟩
  · refine (CommandTable.makes_resolve_builtIn c.name c.args m).mono ?_
    rintro reply hreply _ ⟨⟩
    exact hreply

variable {m : Incoming} {result : Option RunReport} {xs : List Exchange}

/-- A text that is no command. -/
theorem handled_of_not_command (hparse : Command.parse m.text = none)
    (hcourse : (Bot.handle { announce, schedule } m).Course xs (.done result)) :
    Handled schedule m result xs := by
  rw [handle, hparse] at hcourse
  cases hcourse with
  | nil =>
    constructor
    case none_iff => simp [hparse]
    case idle => exact fun _ => rfl
    case course => simp [hparse]
    case requested_eq => simp
    case posted_eq => simp
    case replies => simp

/-- A command. -/
theorem handled_of_command {c : Command} (hparse : Command.parse m.text = some c)
    (hcourse : (Bot.handle { announce, schedule } m).Course xs (.done result)) :
    Handled schedule m result xs := by
  have hasks := ((keeps_handle_replies hparse).of_course hcourse fun _ _ => trivial).1
  rw [handle, hparse] at hcourse
  obtain ⟨ys, zs, report, rfl, hrun, hdone⟩ := Job.Course.split hcourse
  cases hdone with | nil
  rw [List.append_nil] at hasks ⊢
  have hact : ((CommandTable.builtIn.resolve c.name).run c.args m).Makes fun _ => True :=
    (CommandTable.makes_resolve_builtIn c.name c.args m).mono fun _ _ => trivial
  have hfit : (0 : UInt32).toNat + (schedule.clamp c.runs).toNat =
      (schedule.clamp c.runs).toNat := Nat.zero_add _
  obtain ⟨hrequested, hposted, hle⟩ := schedule.course_runFrom _ hact hfit hrun
  constructor
  case none_iff => simp [hparse]
  case idle => rintro ⟨⟩
  case course =>
    rintro _ hc
    cases hparse.symm.trans hc
    exact ⟨report, rfl, hrun⟩
  case requested_eq =>
    rintro _ _ hc ⟨⟩
    cases hparse.symm.trans hc
    rw [hrequested, Schedule.clamp_toNat]
  case posted_eq =>
    rintro _ ⟨⟩
    rw [hrequested]
    exact ⟨hposted.trans (Nat.zero_add _), hle⟩
  case replies =>
    rintro _ hc ⟨reply, outcome⟩ hpost
    cases hparse.symm.trans hc
    obtain ⟨x, hx, hsome⟩ := List.mem_filterMap.mp hpost
    obtain rfl := Exchange.eq_of_post? hsome
    exact hasks _ hx reply rfl

/-- Whoever answers, a message comes to an end: one that is no command at once, and a command with a
report of what it has posted, in the channel of the message alone. -/
theorem handle_account (announce : String) (schedule : Schedule) (m : Incoming)
    (answer : (q : Query) → σ → q.Answer × σ) (world : σ) :
    Handled schedule m ((Bot.handle { announce, schedule } m).conclude answer world).1
      ((Bot.handle { announce, schedule } m).conclude answer world).2.1 := by
  have hcourse := Job.course_conclude answer (Bot.handle { announce, schedule } m) world
  cases hparse : Command.parse m.text with
  | none => exact handled_of_not_command hparse hcourse
  | some c => exact handled_of_command hparse hcourse

/-- A command that is to run five times, of which two are let through. -/
theorem handle_account_village :
    let m : Incoming := ⟨"U1", "C1", "$ ojichat me -c 5"⟩
    let schedule : Schedule := ⟨500, some 2⟩
    let handled := (Bot.handle { announce := "C0", schedule } m).conclude
      (fun q (n : Nat) => (Pool.village.answer (some ⟨"UBOT", "herald"⟩) q, n + 1)) 0
    Handled schedule m handled.1 handled.2.1 ∧ handled.1 = some ⟨2, 2, none⟩ ∧
      (handled.2.1.filterMap Exchange.delivered?).map (fun reply => (reply.channel, reply.username)) =
        [("C1", some Action.Ojichat.personaName), ("C1", some Action.Ojichat.personaName)] :=
  ⟨handle_account _ _ _ _ _, by decide +kernel, by decide +kernel⟩

end Bot

end Herald
