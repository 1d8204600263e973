import Herald.Generator
import Herald.Proofs.Conduct
import Herald.Proofs.Life
import Herald.Slack.Client

/-!
# Jobs of a bot that knows itself

A job asks who the bot is, and fails if nobody knows; that is up to the bot alone, since whatever the
client and the generator answer, it is no such failure (`Life.mayAnswer_channel` and its like).

`Job.Knows` says that a job goes well for a bot that knows itself, whatever it is told otherwise: it never
offers the bot among the candidates of a random choice, and its result has some property. With the
built-in commands all jobs do, and no command fails for want of the identity (`Bot.knows_handle`,
`Bot.knows_route`).
-/

namespace Herald

/-! ## What the world may answer -/

namespace Slack

open Life (IsWorldly)

theorem isWorldly_inContext {x : Except Failure α} (h : IsWorldly x) (context : Context) :
    IsWorldly (inContext context x) := by
  cases x with
  | ok a => trivial
  | error f => exact h

theorem isWorldly_accept (method : Method) (outcome : Http.Outcome) :
    IsWorldly (accept method outcome) := by
  unfold accept
  repeat' split
  all_goals first | trivial | exact nofun

theorem isWorldly_receive (method : Method) (read : Json → Option α) (outcome : Http.Outcome) :
    IsWorldly (receive method read outcome) := by
  have haccept := isWorldly_accept method outcome
  unfold receive
  cases h : accept method outcome with
  | error f =>
    rw [h] at haccept
    exact haccept
  | ok body =>
    cases hread : read body.lastWins with
    | some a => simp only [bind, Except.bind, hread]; trivial
    | none => simp only [bind, Except.bind, hread]; exact nofun

/-- A dialogue ends in what its last outcome is made of. -/
theorem Dialogue.isWorldly_of_run {d : Dialogue σ α}
    (h : ∀ s outcome result, d.next s outcome = .inr result → IsWorldly result)
    {outcomes : List Http.Outcome} {s : σ} {asked : List Exchange} {result : Except Failure α}
    (hrun : d.run s outcomes = (asked, .finished result)) : IsWorldly result := by
  induction outcomes generalizing s asked with
  | nil => cases hrun
  | cons outcome rest ih =>
    rw [Dialogue.run] at hrun
    cases hnext : d.next s outcome with
    | inl s' =>
      rw [hnext] at hrun
      exact ih (Prod.ext rfl (Prod.mk.inj hrun).2)
    | inr last =>
      rw [hnext] at hrun
      cases hrun
      exact h s outcome result hnext

end Slack

namespace Life

open Slack (Client)

variable (held : Option Identity) {asked : List Slack.Exchange} {outcomes : List Http.Outcome}

theorem mayAnswer_channel (client : Client) (id : String) {a : Except Failure Channel}
    (h : (client.channel id).run .info outcomes = (asked, .finished a)) :
    MayAnswer held (.channel id) a := by
  refine Slack.Dialogue.isWorldly_of_run ?_ h
  intro s outcome result hnext
  cases s with
  | info =>
    have hinfo := Slack.isWorldly_inContext
      (Slack.isWorldly_receive .channelInfo Slack.channelOf? outcome) (.fetchingChannel id)
    simp only [Client.channel] at hnext
    split at hnext
    · next f hf =>
      cases hnext
      rw [hf] at hinfo
      exact hinfo
    · cases hnext
  | members channel gathered cursor =>
    -- a failure of any page is passed on as it is
    have hmembers := Slack.isWorldly_receive .channelMembers Slack.MembersPage.ofJson? outcome
    simp only [Client.channel] at hnext
    split at hnext
    · next f hf =>
      cases hnext
      rw [hf] at hmembers
      exact hmembers
    · split at hnext
      · cases hnext
        trivial
      · cases hnext

theorem mayAnswer_user (client : Client) (id : String) {a : Except Failure User}
    (h : (client.user id).run () outcomes = (asked, .finished a)) :
    MayAnswer held (.user id) a := by
  refine Slack.Dialogue.isWorldly_of_run ?_ h
  intro s outcome result hnext
  cases hnext
  exact Slack.isWorldly_inContext (Slack.isWorldly_receive _ _ outcome) _

/-- What the client may make of a look-up. -/
def Finds (client : Client) : (l : LookUp) → l.Answer → Prop
  | .channel id, a => ∃ asked outcomes, (client.channel id).run .info outcomes = (asked, .finished a)
  | .user id, a => ∃ asked outcomes, (client.user id).run () outcomes = (asked, .finished a)

/-- A look-up that is under way is answered like one that is waited for. -/
theorem mayAnswer_lookUp {client : Client} {l : LookUp} {a : l.Answer} (h : Finds client l a) :
    MayAnswer held (.start l) (some a) ∧ MayAnswer held (.await l) a ∧
      (∀ r, MayAnswer held (.race l r) (.inl a)) ∧ ∀ k, MayAnswer held (.race k l) (.inr a) := by
  have hworldly : IsWorldly a := by
    cases l with
    | channel id =>
      obtain ⟨asked, outcomes, h⟩ := h
      exact mayAnswer_channel held client id h
    | user id =>
      obtain ⟨asked, outcomes, h⟩ := h
      exact mayAnswer_user held client id h
  refine ⟨?_, hworldly, fun _ => hworldly, fun _ => hworldly⟩
  rintro _ ⟨⟩
  exact hworldly

theorem mayAnswer_post (client : Client) (m : Message) {a : Except Failure Unit}
    (h : (client.postMessage m).run () outcomes = (asked, .finished a)) :
    MayAnswer held (.post m) a := by
  refine Slack.Dialogue.isWorldly_of_run ?_ h
  intro s outcome result hnext
  cases hnext
  exact Slack.isWorldly_receive _ _ outcome

theorem mayAnswer_generate (command name : String) (seconds : UInt64)
    (outcome : Generator.Outcome) :
    MayAnswer held (.generate name) (Generator.text command name seconds outcome) := by
  change IsWorldly _
  unfold Generator.text
  repeat' split
  all_goals first | trivial | exact nofun

end Life

/-! ## Jobs of a bot that knows itself -/

/-- A query that does not pick the bot. -/
def Query.Spares (me : Identity) : Query → Prop
  | .pick first rest => me.id ∉ first :: rest
  | _ => True

/-- The job goes well for a bot that is `me`: it spares the bot, and its result has the property. -/
abbrev Job.Knows (me : Identity) (result : α → Prop) : Job α → Prop :=
  Job.Keeps (Life.MayAnswer (some me)) (Query.Spares me) result

/-- The same of work that may fail, but not for want of the identity. -/
abbrev Attempt.Knows (me : Identity) (result : α → Prop) : Attempt α → Prop :=
  Attempt.Keeps (Life.MayAnswer (some me)) (Query.Spares me) result
    fun f => f.cause ≠ .identityNotReady

variable {me : Identity}

namespace Attempt

theorem ends_of_isWorldly {a : Except Failure α} (h : Life.IsWorldly a) :
    Ends (fun _ => True) (fun f => f.cause ≠ .identityNotReady) a := by
  cases a with
  | ok a => trivial
  | error f => exact h

theorem knows_channel (id : String) : (channel id).Knows me fun _ => True :=
  (Job.keeps_query (q := .channel id) trivial).mono fun _ ha => ends_of_isWorldly ha

theorem knows_user (id : String) : (user id).Knows me fun _ => True :=
  (Job.keeps_query (q := .user id) trivial).mono fun _ ha => ends_of_isWorldly ha

theorem knows_generate (name : String) : (generate name).Knows me fun _ => True :=
  (Job.keeps_query (q := .generate name) trivial).mono fun _ ha => ends_of_isWorldly ha

theorem knows_identity : identity.Knows me (· = me) := by
  refine keeps_query (q := .identity) trivial ?_
  rintro held rfl
  rfl

/-- Two look-ups at once are answered by the world as well. -/
theorem knows_overlap {F : LookUp → Type} {take : (l : LookUp) → l.Answer → Except Failure (F l)}
    (htake : ∀ l a, Life.IsWorldly a →
      Ends (fun _ => True) (fun f => f.cause ≠ .identityNotReady) (take l a)) (l r : LookUp) :
    (overlap take l r).Knows me fun _ => True := by
  refine keeps_overlap ?_ ?_ ?_ l r
  · intro l
    refine keeps_query (q := .start l) trivial ?_
    intro soon hsoon
    cases soon with
    | none => trivial
    | some a => exact (htake l a (hsoon a rfl)).map fun _ _ => trivial
  · intro l
    exact keeps_query (q := .await l) trivial fun a ha => htake l a ha
  · intro l r
    refine keeps_query (q := .race l r) trivial ?_
    intro first hfirst
    cases first with
    | inl a => exact (htake l a hfirst).map fun _ _ => trivial
    | inr b => exact (htake r b hfirst).map fun _ _ => trivial

theorem knows_pick {first : String} {rest : List String} (h : me.id ∉ first :: rest) :
    (pick first rest).Knows me fun _ => True :=
  keeps_query (q := .pick first rest) h fun _ _ => trivial

end Attempt

/-- The action makes its reply, to any message and with any arguments, like a bot that knows
itself. -/
def Action.Knows (me : Identity) (action : Action) : Prop :=
  ∀ args m, (action.run args m).Knows me fun _ => True

namespace Action

theorem Ojichat.knows_anyMember (channel : Channel) :
    (anyMember channel).Knows me fun _ => True := by
  refine Attempt.knows_identity.bind ?_
  rintro held rfl
  split
  · exact Attempt.keeps_fail nofun
  · next first rest hmembers =>
    refine Attempt.knows_pick ?_
    rw [← hmembers]
    simp

theorem knows_ojichat : ojichat.Knows me := by
  intro args m
  refine (Attempt.knows_channel m.channel).bind fun channel _ => ?_
  have htarget : (Ojichat.targetId channel (Ojichat.target args m.sender)).Knows me
      fun _ => True := by
    cases Ojichat.target args m.sender with
    | user id => exact Attempt.keeps_pure trivial
    | anyone => exact Ojichat.knows_anyMember channel
  refine htarget.bind fun id _ => ?_
  refine ((Attempt.knows_user id).within fun f hf => hf).bind fun user _ => ?_
  refine (Attempt.knows_generate user.name).bind fun generated _ => ?_
  exact Attempt.keeps_pure trivial

theorem knows_stats : stats.Knows me := by
  intro args m
  refine (Attempt.knows_channel m.channel).bind fun channel _ => ?_
  have hcreator : (Stats.creatorText channel).Knows me fun _ => True := by
    unfold Stats.creatorText
    split
    · exact Attempt.keeps_pure trivial
    · exact (Attempt.knows_user channel.creator).bind fun _ _ => Attempt.keeps_pure trivial
  exact hcreator.bind fun _ _ => Attempt.keeps_pure trivial

end Action

namespace CommandTable

theorem knows_resolve_builtIn (name : String) : (builtIn.resolve name).Knows me := by
  unfold resolve
  cases hfind : builtIn.find? name with
  | none => exact fun _ _ => Attempt.keeps_pure trivial
  | some action =>
    have haction : action ∈ [Action.ojichat, Action.stats, Action.version] :=
      List.mem_of_find?_eq_some hfind
    simp only [List.mem_cons, List.not_mem_nil, or_false] at haction
    rcases haction with rfl | rfl | rfl
    · exact Action.knows_ojichat
    · exact Action.knows_stats
    · exact fun _ _ => Attempt.keeps_pure trivial

end CommandTable

/-- A report of a run that has not failed for want of the identity. -/
def RunReport.IsAware (r : RunReport) : Prop :=
  ∀ f, r.error = some f → f.cause ≠ .identityNotReady

theorem Schedule.knows_runFrom (s : Schedule) (name : String) {act : Attempt Message}
    (h : act.Knows me fun _ => True) (requested : UInt32) (left : Nat) (posted : UInt32) :
    (s.runFrom Bot.outlet name act.run requested left posted).Knows me RunReport.IsAware := by
  induction left generalizing posted with
  | zero => exact .done nofun
  | succ left ih =>
    refine Job.Keeps.bind h fun made hmade => ?_
    cases made with
    | error f =>
      -- the error of the report is that of the action
      refine .done ?_
      rintro _ ⟨⟩
      exact hmade
    | ok message =>
      refine (Job.keeps_query (q := .post message) trivial).bind fun outcome houtcome => ?_
      cases outcome with
      | error f =>
        -- or that of the post
        refine .done ?_
        rintro _ ⟨⟩
        exact houtcome
      | ok done =>
        refine (Job.keeps_query (q := .pause s.delay) trivial).bind fun _ _ => ?_
        exact ih (posted + 1)

namespace Notice

theorem knows_channelAndUser (channel user : String) :
    (channelAndUser channel user).Knows me fun _ => True := by
  have hboth : (Attempt.join (.channel channel) (.user user)).Knows me fun _ => True := by
    refine Attempt.knows_overlap ?_ _ _
    intro l a _
    trivial
  refine hboth.bind ?_
  rintro ⟨foundChannel, foundUser⟩ -
  cases foundChannel <;> cases foundUser
  case ok.ok => exact Attempt.keeps_pure trivial
  all_goals exact Attempt.keeps_fail nofun

theorem knows_render (announce : String) (event : Event) :
    (render announce event).Knows me fun _ => True := by
  cases event with
  | emojiChanged change => cases change <;> exact Attempt.keeps_pure trivial
  | channelArchive channel user | channelUnarchive channel user =>
    exact (knows_channelAndUser channel user).bind fun _ _ => Attempt.keeps_pure trivial
  | channelCreated channel =>
    obtain ⟨-, name, creator⟩ := channel
    cases creator with
    | none => exact Attempt.keeps_fail nofun
    | some id => exact (Attempt.knows_user id).bind fun _ _ => Attempt.keeps_pure trivial
  | memberJoined user channel =>
    exact (Attempt.knows_user user).bind fun _ _ => Attempt.keeps_pure trivial
  | memberLeft user channel =>
    refine (Attempt.knows_channel channel).bind fun info _ => ?_
    have hboth : (Attempt.tryJoin (.user info.creator) (.user user)).Knows me fun _ => True := by
      refine Attempt.knows_overlap ?_ _ _
      intro l a ha
      exact Attempt.ends_of_isWorldly ha
    exact hboth.bind fun _ _ => Attempt.keeps_pure trivial
  | channelDeleted _ | channelRename _ | fileCreated _ | message _ | other =>
    exact Attempt.keeps_pure trivial

end Notice

namespace Bot

theorem knows_postAll (messages : List Message) : (postAll messages).Knows me fun _ => True := by
  induction messages with
  | nil => exact .done trivial
  | cons m rest ih => exact (Job.keeps_query (q := .post m) trivial).bind fun _ _ => ih

theorem knows_notify (bot : Bot) (event : Event) : (bot.notify event).Knows me fun _ => True := by
  refine Job.Keeps.bind (Notice.knows_render bot.announce event) fun made _ => ?_
  cases made with
  | ok messages => exact knows_postAll messages
  | error f => exact .done trivial

variable {announce : String} {schedule : Schedule}

theorem knows_handle (m : Incoming) :
    (Bot.handle { announce, schedule } m).Knows me fun r => ∀ report ∈ r, report.IsAware := by
  unfold handle
  split
  · exact .done nofun
  · next command _ =>
    have haction : (CommandTable.builtIn.resolve command.name).Knows me :=
      CommandTable.knows_resolve_builtIn command.name
    refine (schedule.knows_runFrom _ (haction command.args m) _ _ _).map fun report hreport => ?_
    rintro _ ⟨⟩
    exact hreport

/-- The jobs of all events go well for a bot that knows itself. -/
theorem knows_route {event : Event} {job : Job Unit}
    (hroute : Bot.route { announce, schedule } event = some job) : job.Knows me fun _ => True := by
  cases event with
  | message m =>
    obtain ⟨incoming, -, rfl⟩ := Option.map_eq_some_iff.mp hroute
    exact (knows_handle incoming).bind fun _ _ => .done trivial
  | other => cases hroute
  | _ =>
    cases hroute
    exact knows_notify _ _

end Bot

end Herald
