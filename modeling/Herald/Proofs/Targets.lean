import Herald.Proofs.Replies

/-!
# Whom a text is about

The action `ojichat` writes about the user that its first argument mentions, about the sender of the
message for the argument `me`, and otherwise about anyone in the channel but the bot. Which queries
this takes, in which order, and what they come to is read off the courses of the action.

* `Tells` is what is asked about a target that is known by its id, and `TellsAnyone` what is asked
  where the target is still to be picked.
* `course_anyMember`: someone is picked among the members that the channel has just been found with,
  and only where there is someone beside the bot.
* `targeted_of_course`: an invocation of the action, whatever it is told.
* `ojichat_targets`: each turn of a run is such an invocation, from the channel on.
-/

namespace Herald.Action.Ojichat

/-- The first argument, if there is one, mentions nobody and does not ask for the sender. -/
def AsksForAnyone (args : List String) : Prop :=
  ∀ arg ∈ args.head?, Mention.user? arg = none ∧ arg ≠ "me"

/-- There is nobody to pick in a channel: it is not known who the bot is, or it is the only member,
however often. -/
def NobodyIn (channel : Channel) (held : Option Identity) : Prop :=
  ∀ me ∈ held, ∀ id ∈ channel.members, id = me.id

/-- What is asked about a target, and what the reply is then: the user is looked up, and one text is
written about the name found. -/
inductive Tells (m : Incoming) (id : String) : List Exchange → Except Failure Message → Prop where
  | noUser (f : Failure) : Tells m id [⟨.user id, .error f⟩] (.error (f.within .fetchingTarget))
  | noText (user : User) (f : Failure) :
      Tells m id [⟨.user id, .ok user⟩, ⟨.generate user.name, .error f⟩] (.error f)
  | told (user : User) (text : String) :
      Tells m id [⟨.user id, .ok user⟩, ⟨.generate user.name, .ok text⟩]
        (.ok ((m.reply (decorate text user.name)).withPersona personaName personaIcon))

/-- What is asked about anyone in a channel: who the bot is, and if there is nobody to pick, it ends
with that. Otherwise a member who is not the bot is picked, and the reply is about that one. -/
def TellsAnyone (m : Incoming) (channel : Channel) (asked : List Exchange)
    (made : Except Failure Message) : Prop :=
  ∃ held behind, asked = ⟨.identity, held⟩ :: behind ∧
    (NobodyIn channel held → behind = [] ∧ made = .error
      (.of (held.elim .identityNotReady fun _ => .nobodyToPick channel.name))) ∧
    (¬ NobodyIn channel held → ∃ me first others choice told, held = some me ∧
      channel.members.filter (· ≠ me.id) = first :: others ∧
      behind = ⟨.pick first others, choice⟩ :: told ∧
      choice.val ∈ channel.members ∧ choice.val ≠ me.id ∧ Tells m choice.val told made)

/-- An invocation of the action: what it has asked and been told, and what it has made. -/
structure Targeted (args : List String) (m : Incoming) (asked : List Exchange)
    (made : Except Failure Message) : Prop where
  /-- The channel of the message is looked up first. -/
  channel_first : ∃ found rest, asked = ⟨.channel m.channel, found⟩ :: rest
  /-- If it is not found, nothing else is asked. -/
  no_channel : ∀ f rest, asked = ⟨.channel m.channel, .error f⟩ :: rest →
    rest = [] ∧ made = .error f
  /-- The user that the first argument mentions is looked up at once. -/
  mentioned : ∀ channel rest arg others id, asked = ⟨.channel m.channel, .ok channel⟩ :: rest →
    args = arg :: others → Mention.user? arg = some id → Tells m id rest made
  /-- So is the sender. -/
  sender : ∀ channel rest others, asked = ⟨.channel m.channel, .ok channel⟩ :: rest →
    args = "me" :: others → Tells m m.sender rest made
  /-- Anyone is picked in the channel just found. -/
  anyone : ∀ channel rest, asked = ⟨.channel m.channel, .ok channel⟩ :: rest →
    AsksForAnyone args → TellsAnyone m channel rest made

/-! ## The target -/

theorem target_of_mention {arg id : String} (h : Mention.user? arg = some id)
    (others : List String) (sender : String) : target (arg :: others) sender = .user id := by
  simp only [target, h]

theorem user?_me : Mention.user? "me" = none := by
  decide

theorem target_me (others : List String) (sender : String) :
    target ("me" :: others) sender = .user sender := by
  simp only [target, user?_me, if_true]

theorem target_of_anyone {args : List String} (h : AsksForAnyone args) (sender : String) :
    target args sender = .anyone := by
  cases args with
  | nil => rfl
  | cons arg others =>
    obtain ⟨hnone, hme⟩ := h arg rfl
    simp only [target, hnone, if_neg hme]

/-- Only the first argument counts. -/
theorem run_eq_of_first (arg : String) (others others' : List String) (m : Incoming) :
    run (arg :: others) m = run (arg :: others') m :=
  rfl

/-! ## The courses of the action -/

/-- The part of the action behind its target. -/
def replyAbout (m : Incoming) (id : String) : Attempt Message := do
  let user ← (Attempt.user id).within .fetchingTarget
  let generated ← Attempt.generate user.name
  return (m.reply (decorate generated user.name)).withPersona personaName personaIcon

theorem run_eq (args : List String) (m : Incoming) :
    run args m = (Attempt.channel m.channel >>= fun channel =>
      targetId channel (target args m.sender) >>= replyAbout m) :=
  rfl

/-- Once the target is known, the rest is about it. -/
theorem tells_of_course {m : Incoming} {id : String} {xs : List Exchange}
    {made : Except Failure Message}
    (h : (replyAbout m id).run.Course xs (.done made)) : Tells m id xs made := by
  rcases Attempt.course_bind h with ⟨e, hlookup, rfl⟩ | ⟨ys, zs, user, rfl, hlookup, hrest⟩
  · obtain ⟨found, rfl, hfound⟩ := Attempt.course_query (q := .user id) hlookup
    cases found with
    | ok user => cases hfound
    | error f =>
      cases hfound
      exact .noUser f
  · obtain ⟨found, rfl, hfound⟩ := Attempt.course_query (q := .user id) hlookup
    cases found with
    | error f => cases hfound
    | ok user =>
      cases hfound
      rcases Attempt.course_bind hrest with ⟨e, hquery, rfl⟩ | ⟨ys, zs, text, rfl, hquery, hreply⟩
      · obtain rfl := Job.Course.of_query hquery
        exact .noText user e
      · obtain rfl := Job.Course.of_query hquery
        obtain ⟨rfl, rfl⟩ := Attempt.course_pure hreply
        exact .told user text

theorem nobodyIn_iff {channel : Channel} {me : Identity} :
    NobodyIn channel (some me) ↔ channel.members.filter (· ≠ me.id) = [] := by
  simp [NobodyIn]

/-- Anyone is picked among the members that are not the bot, once it is known who that is. -/
theorem course_anyMember {channel : Channel} {xs : List Exchange} {r : Except Failure String}
    (h : (anyMember channel).run.Course xs (.done r)) :
    ∃ held behind, xs = ⟨.identity, held⟩ :: behind ∧
      (NobodyIn channel held → behind = [] ∧ r = .error
        (.of (held.elim .identityNotReady fun _ => .nobodyToPick channel.name))) ∧
      (¬ NobodyIn channel held → ∃ me first others choice, held = some me ∧
        channel.members.filter (· ≠ me.id) = first :: others ∧
        behind = [⟨.pick first others, choice⟩] ∧ r = .ok choice.val) := by
  rcases Attempt.course_bind h with ⟨e, hasked, rfl⟩ | ⟨ys, zs, me, rfl, hasked, hrest⟩
  · obtain ⟨held, rfl, hheld⟩ := Attempt.course_query (q := .identity) hasked
    cases held with
    | some me => cases hheld
    | none =>
      cases hheld
      exact ⟨none, [], rfl, fun _ => ⟨rfl, rfl⟩, fun hsome => absurd nofun hsome⟩
  · obtain ⟨held, rfl, hheld⟩ := Attempt.course_query (q := .identity) hasked
    cases held with
    | none => cases hheld
    | some me =>
      cases hheld
      refine ⟨some me, zs, rfl, ?_⟩
      rw [nobodyIn_iff]
      cases hcandidates : channel.members.filter (· ≠ me.id) with
      | nil =>
        simp only [hcandidates] at hrest
        exact ⟨fun _ => Attempt.course_fail hrest, fun hsome => absurd rfl hsome⟩
      | cons first others =>
        simp only [hcandidates] at hrest
        obtain ⟨choice, rfl, rfl⟩ := Attempt.course_query (q := .pick first others) hrest
        refine ⟨nofun, fun _ => ⟨me, first, others, choice, rfl, hcandidates, rfl, rfl⟩⟩

/-- A target that is anyone is picked first, if there is someone to pick. -/
theorem anyone_of_course {channel : Channel} {m : Incoming} {xs : List Exchange}
    {made : Except Failure Message}
    (h : (anyMember channel >>= replyAbout m).run.Course xs (.done made)) :
    TellsAnyone m channel xs made := by
  rcases Attempt.course_bind h with ⟨e, hmember, rfl⟩ | ⟨ys, zs, id, rfl, hmember, hrest⟩
  · obtain ⟨held, behind, rfl, hnobody, hsomeone⟩ := course_anyMember hmember
    refine ⟨held, behind, rfl, ?_, ?_⟩
    · intro h
      obtain ⟨hbehind, ⟨⟩⟩ := hnobody h
      exact ⟨hbehind, rfl⟩
    · intro h
      obtain ⟨_, _, _, _, -, -, -, ⟨⟩⟩ := hsomeone h
  · obtain ⟨held, behind, rfl, hnobody, hsomeone⟩ := course_anyMember hmember
    refine ⟨held, behind ++ zs, rfl, ?_, ?_⟩
    · intro h
      obtain ⟨-, ⟨⟩⟩ := hnobody h
    · intro h
      obtain ⟨me, first, others, choice, rfl, hcandidates, rfl, ⟨⟩⟩ := hsomeone h
      -- the candidates are members, and none of them is the bot
      have hchoice : choice.val ∈ channel.members.filter (· ≠ me.id) := by
        rw [hcandidates]
        exact choice.property
      obtain ⟨hmember, hother⟩ := List.mem_filter.mp hchoice
      exact ⟨me, first, others, choice, zs, rfl, hcandidates, rfl, hmember,
        of_decide_eq_true hother, tells_of_course hrest⟩

/-- An invocation of the action, whatever it is told. -/
theorem targeted_of_course {args : List String} {m : Incoming} {asked : List Exchange}
    {made : Except Failure Message} (h : (run args m).run.Course asked (.done made)) :
    Targeted args m asked made := by
  rw [run_eq] at h
  rcases Attempt.course_bind h with ⟨e, hquery, rfl⟩ | ⟨ys, behind, channel, rfl, hquery, hrest⟩
  · -- the channel is not found
    obtain rfl := Job.Course.of_query hquery
    constructor
    case channel_first => exact ⟨.error e, [], rfl⟩
    case no_channel =>
      rintro f rest ⟨⟩
      exact ⟨rfl, rfl⟩
    case mentioned => rintro _ _ _ _ _ ⟨⟩
    case sender => rintro _ _ _ ⟨⟩
    case anyone => rintro _ _ ⟨⟩
  · obtain rfl := Job.Course.of_query hquery
    have hknown : ∀ id, target args m.sender = .user id → Tells m id behind made := by
      intro id htarget
      rw [htarget] at hrest
      exact tells_of_course hrest
    constructor
    case channel_first => exact ⟨.ok channel, behind, rfl⟩
    case no_channel => rintro f rest ⟨⟩
    case mentioned =>
      rintro _ _ arg others id ⟨⟩ rfl hid
      exact hknown id (target_of_mention hid others m.sender)
    case sender =>
      rintro _ _ others ⟨⟩ rfl
      exact hknown m.sender (target_me others m.sender)
    case anyone =>
      rintro _ _ ⟨⟩ hanyone
      rw [target_of_anyone hanyone] at hrest
      exact anyone_of_course hrest

/-- Each turn of a run is an invocation of its own, which begins with the channel and ends with the
reply being posted, and arguments behind the first one make no difference. -/
theorem ojichat_targets (s : Schedule) (args : List String) (m : Incoming) (runs : UInt32)
    (answer : (q : Query) → σ → q.Answer × σ) (world : σ) :
    (∃ turns : List Schedule.Turn,
      ((s.run Bot.outlet ojichat.name (ojichat.run args m).run runs).conclude answer world).2.1 =
        turns.flatMap Schedule.Turn.exchanges ∧
      (turns = [] ↔ s.clamp runs = 0) ∧ turns.length ≤ (s.clamp runs).toNat ∧
      ∀ turn ∈ turns, Targeted args m turn.asked turn.made ∧
        Schedule.Turn.Ends s.delay turn.made turn.ending) ∧
    ∀ arg others others', ojichat.run (arg :: others) m = ojichat.run (arg :: others') m := by
  refine ⟨?_, fun arg others others' => run_eq_of_first arg others others' m⟩
  have hcourse := Job.course_conclude answer
    (s.run Bot.outlet ojichat.name (ojichat.run args m).run runs) world
  obtain ⟨turns, hexchanges, hlength, hnil, hturns⟩ := s.exists_turns ojichat.name hcourse
  refine ⟨turns, hexchanges, ?_, hlength, ?_⟩
  · rw [hnil, ← UInt32.toNat_inj]
    rfl
  · intro turn hturn
    obtain ⟨hinvoked, hends⟩ := hturns turn hturn
    exact ⟨targeted_of_course hinvoked, hends⟩

end Herald.Action.Ojichat
