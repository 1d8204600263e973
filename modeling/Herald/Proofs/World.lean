import Herald.Bot
import Herald.Proofs.Overlap

/-!
# A world that answers alike

A `World` answers each query by what is asked alone; only a choice among candidates may fall this
way or that, and of two look-ups under way either may come first.

What a job does by itself are its `deeds`: all that it asks but for the waits. A job settles
(`Job.Settles`) if in such a world its deeds and its result are always the same, whichever way it
goes. The jobs of a bot settle if its actions do (`Bot.settles_of_actions`), and the built-in
actions do if no choice has two candidates (`CommandTable.settles_builtIn`).
-/

namespace Herald

/-- What there is outside of the bot, for as long as it stays the same. -/
structure World where
  channel : String → Except Failure Channel
  user : String → Except Failure User
  generate : String → Except Failure String
  post : Message → Except Failure Unit
  /-- Whether the answer to a look-up is there at once. Otherwise it takes any time. -/
  prompt : LookUp → Bool := fun _ => false

namespace World

/-- What a look-up comes to. -/
def lookUp (world : World) : (l : LookUp) → l.Answer
  | .channel id => world.channel id
  | .user id => world.user id

/-- The answers that a query may get while an identity is held. -/
def Answers (world : World) (held : Option Identity) : (q : Query) → q.Answer → Prop
  | .identity, a => a = held
  | .channel id, a => a = world.channel id
  | .user id, a => a = world.user id
  | .start l, a => a = if world.prompt l then some (world.lookUp l) else none
  | .await l, a => a = world.lookUp l
  | .race l r, a => a = .inl (world.lookUp l) ∨ a = .inr (world.lookUp r)
  | .pick _ _, _ => True
  | .generate name, a => a = world.generate name
  | .post m, a => a = world.post m
  | .pause _, _ => True

/-- One of the answers: a choice falls on the first candidate, and so does a race. -/
def answer (world : World) (held : Option Identity) : (q : Query) → q.Answer
  | .identity => held
  | .channel id => world.channel id
  | .user id => world.user id
  | .start l => if world.prompt l then some (world.lookUp l) else none
  | .await l => world.lookUp l
  | .race l _ => .inl (world.lookUp l)
  | .pick first _ => ⟨first, List.mem_cons_self⟩
  | .generate name => world.generate name
  | .post m => world.post m
  | .pause _ => ()

theorem answers_answer (world : World) (held : Option Identity) (q : Query) :
    world.Answers held q (world.answer held q) := by
  cases q with
  | race l r => exact .inl rfl
  | pick | pause => trivial
  | _ => rfl

/-- What is told of a look-up is what it comes to in the world. -/
theorem eq_lookUp_of_told {world : World} {held : Option Identity} {xs : List Exchange}
    (h : ∀ x ∈ xs, world.Answers held x.1 x.2) : ∀ x ∈ told xs, x.2 = world.lookUp x.1 := by
  intro x hx
  obtain ⟨⟨q, a⟩, hmem, htold⟩ := List.mem_filterMap.mp hx
  have ha := h _ hmem
  -- which queries tell of a look-up is read off `told?`, one by one
  cases q with
  | channel | user | await =>
    cases htold
    exact ha
  | start l =>
    obtain ⟨found, hfound, rfl⟩ := Option.map_eq_some_iff.mp htold
    simp only [Answers, hfound] at ha
    split at ha
    · exact Option.some.inj ha
    · cases ha
  | race l r =>
    rcases ha with rfl | rfl <;> cases htold <;> rfl
  | _ => cases htold

/-- No channel has more than one member to choose from beside the bot. -/
def OneCandidate (world : World) (me : Identity) : Prop :=
  ∀ id channel, world.channel id = .ok channel → (channel.members.filter (· ≠ me.id)).length ≤ 1

end World

/-- What a job does by itself: whatever it asks but for waiting. -/
def deeds (xs : List Exchange) : List Exchange :=
  xs.filter (!·.1.isWait)

theorem deeds_append (xs ys : List Exchange) : deeds (xs ++ ys) = deeds xs ++ deeds ys :=
  List.filter_append ..

/-! ## Jobs that settle -/

section

variable (world : World) (me : Identity)

/-- All exchanges are such as the world answers. -/
def World.Grants (xs : List Exchange) : Prop :=
  ∀ x ∈ xs, world.Answers (some me) x.1 x.2

/-- Two jobs that come to their ends in the world have done the same, and their results are
related. -/
def Job.Agree (related : α → β → Prop) (t : Job α) (t' : Job β) : Prop :=
  ∀ xs ys a b, t.Course xs (.done a) → world.Grants me xs → t'.Course ys (.done b) →
    world.Grants me ys → deeds xs = deeds ys ∧ related a b

/-- The job does the same on all its courses. -/
def Job.Settles (t : Job α) : Prop :=
  Job.Agree world me (fun _ _ => True) t t

/-- Work that has failed, or come to the same, with the property. -/
inductive Attempt.Alike (result : α → Prop) : Except Failure α → Except Failure α → Prop where
  | failed (f g : Failure) : Alike result (.error f) (.error g)
  | same {a : α} (h : result a) : Alike result (.ok a) (.ok a)

/-- The work does the same and fails, or succeeds in the same way, on all its courses. -/
def Attempt.Settles (result : α → Prop) (work : Attempt α) : Prop :=
  Job.Agree world me (Alike result) work.run work.run

end

variable {world : World} {me : Identity}

namespace Job

theorem agree_done {related : α → β → Prop} {a : α} {b : β} (h : related a b) :
    Job.Agree world me related (.done a) (.done b) := by
  intro xs ys a' b' hxs _ hys _
  cases hxs with | nil
  cases hys with | nil
  exact ⟨rfl, h⟩

/-- Jobs that agree go on in agreement. -/
theorem Agree.bind {related : α → β → Prop} {related' : γ → δ → Prop} {t : Job α} {t' : Job β}
    {f : α → Job γ} {f' : β → Job δ} (h : Job.Agree world me related t t')
    (hf : ∀ a b, related a b → Job.Agree world me related' (f a) (f' b)) :
    Job.Agree world me related' (t >>= f) (t' >>= f') := by
  intro xs ys c d hxs hgrants hys hgrants'
  obtain ⟨xs₁, xs₂, a, rfl, hfirst, hrest⟩ := hxs.split
  obtain ⟨ys₁, ys₂, b, rfl, hfirst', hrest'⟩ := hys.split
  obtain ⟨hgrants₁, hgrants₂⟩ := List.forall_mem_append.mp hgrants
  obtain ⟨hgrants₁', hgrants₂'⟩ := List.forall_mem_append.mp hgrants'
  obtain ⟨hdeeds, hrelated⟩ := h _ _ a b hfirst hgrants₁ hfirst' hgrants₁'
  obtain ⟨hdeeds', hresult⟩ := hf a b hrelated _ _ c d hrest hgrants₂ hrest' hgrants₂'
  exact ⟨by rw [deeds_append, deeds_append, hdeeds, hdeeds'], hresult⟩

theorem Agree.map {related : α → β → Prop} {related' : γ → δ → Prop} {t : Job α} {t' : Job β}
    {f : α → γ} {f' : β → δ} (h : Job.Agree world me related t t')
    (hf : ∀ a b, related a b → related' (f a) (f' b)) :
    Job.Agree world me related' (f <$> t) (f' <$> t') := by
  rw [map_eq_pure_bind, map_eq_pure_bind]
  exact h.bind fun a b hab => agree_done (hf a b hab)

/-- A query that has one answer. -/
theorem agree_query {q : Query}
    (h : ∀ a, world.Answers (some me) q a → a = world.answer (some me) q) :
    Job.Agree world me (fun a b => a = world.answer (some me) q ∧ b = a) (query q) (query q) := by
  intro xs ys a b hxs hgrants hys hgrants'
  obtain rfl := hxs.of_query
  obtain rfl := hys.of_query
  have ha := h a (hgrants _ List.mem_cons_self)
  have hb := h b (hgrants' _ List.mem_cons_self)
  subst ha hb
  exact ⟨rfl, rfl, rfl⟩

/-- The same, and the job goes on with the answer. -/
theorem settles_query_bind {q : Query} {f : q.Answer → Job β}
    (h : ∀ a, world.Answers (some me) q a → a = world.answer (some me) q)
    (hf : ∀ a, (f a).Settles world me) : (query q >>= f).Settles world me := by
  refine (agree_query h).bind ?_
  rintro a _ ⟨-, rfl⟩
  exact hf _

theorem settles_done (a : α) : (done a).Settles world me :=
  agree_done trivial

/-- What a job does in the world when it is brought to its end on one of its courses. -/
def deedsIn (world : World) (me : Identity) (t : Job α) : List Exchange :=
  deeds (t.conclude (fun q s => (world.answer (some me) q, s)) ()).2.1

theorem grants_conclude (world : World) (me : Identity) (t : Job α) :
    world.Grants me (t.conclude (fun q s => (world.answer (some me) q, s)) ()).2.1 := by
  intro x hx
  rw [answer_of_mem_conclude (world.answer (some me)) t () x hx]
  exact world.answers_answer (some me) x.1

/-- On all of its courses a job that settles does the same, as far as it gets. -/
theorem Settles.deeds_of_course {t left : Job α} (h : t.Settles world me) {xs : List Exchange}
    (hcourse : t.Course xs left) (hgrants : world.Grants me xs) :
    deeds xs <+: t.deedsIn world me ∧ (∀ a, left = .done a → deeds xs = t.deedsIn world me) := by
  have hrest := left.course_conclude (fun q s => (world.answer (some me) q, s)) ()
  have hwhole := hcourse.append hrest
  have hgrants' := List.forall_mem_append.mpr ⟨hgrants, grants_conclude world me left⟩
  have halone := t.course_conclude (fun q s => (world.answer (some me) q, s)) ()
  obtain ⟨hdeeds, -⟩ := h _ _ _ _ hwhole hgrants' halone (grants_conclude world me t)
  rw [deeds_append] at hdeeds
  refine ⟨⟨_, hdeeds⟩, ?_⟩
  rintro a rfl
  exact (List.append_nil _).symm.trans hdeeds

end Job

namespace Attempt

theorem Settles.bind {result : α → Prop} {result' : β → Prop} {work : Attempt α}
    {f : α → Attempt β} (h : work.Settles world me result)
    (hf : ∀ a, result a → (f a).Settles world me result') :
    Attempt.Settles world me result' (work >>= f) := by
  refine Job.Agree.bind h ?_
  intro x y hxy
  cases hxy with
  | failed f g => exact Job.agree_done (.failed f g)
  | @same a ha => exact hf a ha

theorem settles_pure {result : α → Prop} {a : α} (h : result a) :
    Attempt.Settles world me result (pure a) :=
  Job.agree_done (.same h)

theorem settles_fail {result : α → Prop} (cause : Cause) :
    (fail cause : Attempt α).Settles world me result :=
  Job.agree_done (.failed _ _)

/-- Work of one query that has one answer. -/
theorem settles_query {q : Query} {f : q.Answer → Except Failure α}
    (h : ∀ a, world.Answers (some me) q a → a = world.answer (some me) q) :
    Attempt.Settles world me (fun a => f (world.answer (some me) q) = .ok a)
      (ExceptT.mk (f <$> Job.query q)) := by
  refine Job.Agree.map (Job.agree_query h) ?_
  rintro _ _ ⟨rfl, rfl⟩
  cases hf : f (world.answer (some me) q) with
  | error e => exact .failed e e
  | ok a => exact .same rfl

theorem Settles.mono {result result' : α → Prop} {work : Attempt α}
    (h : work.Settles world me result) (hresult : ∀ a, result a → result' a) :
    work.Settles world me result' := by
  intro xs ys x y hxs hgrants hys hgrants'
  obtain ⟨hdeeds, halike⟩ := h xs ys x y hxs hgrants hys hgrants'
  refine ⟨hdeeds, ?_⟩
  cases halike with
  | failed f g => exact .failed f g
  | same ha => exact .same (hresult _ ha)

theorem settles_channel (id : String) :
    (channel id).Settles world me (fun c => world.channel id = .ok c) :=
  settles_query (q := .channel id) (f := fun a => a) fun _ h => h

theorem settles_user (id : String) : (user id).Settles world me fun _ => True :=
  (settles_query (q := .user id) (f := fun a => a) fun _ h => h).mono fun _ _ => trivial

theorem settles_generate (name : String) : (generate name).Settles world me fun _ => True :=
  (settles_query (q := .generate name) (f := fun a => a) fun _ h => h).mono fun _ _ => trivial

/-- The identity is known. -/
theorem settles_identity : identity.Settles world me (· = me) := by
  refine (settles_query (q := .identity) fun _ h => h).mono ?_
  rintro held ⟨⟩
  rfl

/-- With one candidate there is nothing to choose. -/
theorem settles_pick (id : String) : (pick id []).Settles world me fun _ => True := by
  refine (settles_query (q := .pick id []) ?_).mono fun _ _ => trivial
  rintro ⟨chosen, hchosen⟩ -
  exact Subtype.ext (List.mem_singleton.mp hchosen)

theorem Settles.within {result : α → Prop} {work : Attempt α} (context : Context)
    (h : work.Settles world me result) : (work.within context).Settles world me result := by
  refine Job.Agree.map h ?_
  intro x y hxy
  cases hxy with
  | failed f g => exact .failed _ _
  | same ha => exact .same ha

end Attempt

/-! ## The actions -/

/-- The reply of an action settles, to any message and with any arguments. -/
def Action.Settles (world : World) (me : Identity) (action : Action) : Prop :=
  ∀ args m, (action.run args m).Settles world me fun _ => True

namespace Action

theorem Ojichat.settles_anyMember (hone : world.OneCandidate me) {id : String} {channel : Channel}
    (h : world.channel id = .ok channel) :
    (anyMember channel).Settles world me fun _ => True := by
  refine Attempt.settles_identity.bind ?_
  rintro held rfl
  have hcandidates := hone id channel h
  split
  · exact Attempt.settles_fail _
  · next first rest hmembers =>
    rw [hmembers, List.length_cons] at hcandidates
    obtain rfl : rest = [] := List.eq_nil_of_length_eq_zero (by omega)
    exact Attempt.settles_pick first

theorem settles_ojichat (hone : world.OneCandidate me) : ojichat.Settles world me := by
  intro args m
  -- that the channel is one of the world bounds the candidates
  refine (Attempt.settles_channel m.channel).bind fun channel hchannel => ?_
  have htarget : (Ojichat.targetId channel (Ojichat.target args m.sender)).Settles world me
      fun _ => True := by
    cases Ojichat.target args m.sender with
    | user id => exact Attempt.settles_pure trivial
    | anyone => exact Ojichat.settles_anyMember hone hchannel
  refine htarget.bind fun id _ => ?_
  refine ((Attempt.settles_user id).within .fetchingTarget).bind fun user _ => ?_
  refine (Attempt.settles_generate user.name).bind fun generated _ => ?_
  exact Attempt.settles_pure trivial

theorem settles_stats : stats.Settles world me := by
  intro args m
  refine (Attempt.settles_channel m.channel).bind fun channel _ => ?_
  have hcreator : (Stats.creatorText channel).Settles world me fun _ => True := by
    unfold Stats.creatorText
    split
    · exact Attempt.settles_pure trivial
    · exact (Attempt.settles_user channel.creator).bind fun _ _ => Attempt.settles_pure trivial
  exact hcreator.bind fun _ _ => Attempt.settles_pure trivial

end Action

namespace CommandTable

theorem settles_help (table : CommandTable) : table.help.Settles world me :=
  fun _ _ => Attempt.settles_pure trivial

theorem settles_resolve {table : CommandTable}
    (h : ∀ action ∈ table.actions, action.Settles world me) (name : String) :
    (table.resolve name).Settles world me := by
  unfold resolve
  cases hfind : table.find? name with
  | none => exact table.settles_help
  | some action => exact h action (List.mem_of_find?_eq_some hfind)

theorem settles_builtIn (hone : world.OneCandidate me) :
    ∀ action ∈ builtIn.actions, action.Settles world me := by
  have hactions : builtIn.actions = [Action.ojichat, Action.stats, Action.version] := rfl
  rw [hactions]
  intro action haction
  simp only [List.mem_cons, List.not_mem_nil, or_false] at haction
  rcases haction with rfl | rfl | rfl
  · exact Action.settles_ojichat hone
  · exact Action.settles_stats
  · exact fun _ _ => Attempt.settles_pure trivial

end CommandTable

/-! ## Look-ups at once -/

namespace Attempt

section

variable {F : LookUp → Type} {take : (l : LookUp) → l.Answer → Except Failure (F l)}
  {l r : LookUp} {xs : List Exchange}

/-- What two look-ups at once come to in the world. -/
theorem Comes.eq_ok_iff {findings : List Finding} {made : Except Failure (F l × F r)}
    (h : Comes take l r findings made) (hfound : ∀ x ∈ findings, x.2 = world.lookUp x.1) (a : F l)
    (b : F r) : made = .ok (a, b) ↔
      take l (world.lookUp l) = .ok a ∧ take r (world.lookUp r) = .ok b := by
  cases h with
  | @both found found' a' b' _ hl hr hperm =>
    have hleft : found = world.lookUp l := hfound ⟨l, found⟩ (hperm.mem_iff.mpr (by simp))
    have hright : found' = world.lookUp r := hfound ⟨r, found'⟩ (hperm.mem_iff.mpr (by simp))
    rw [← hleft, ← hright, hl, hr]
    simp
  | @failed front last f hmem hfront hlast =>
    refine iff_of_false nofun ?_
    rintro ⟨hl, hr⟩
    rw [hfound last (by simp)] at hlast
    obtain ⟨k, found⟩ := last
    rcases hmem ⟨k, found⟩ (by simp) with rfl | rfl
    · cases hl.symm.trans hlast
    · cases hr.symm.trans hlast

/-- So they fail if one of them does there. -/
theorem Comes.failed_iff_lookUp {findings : List Finding} {made : Except Failure (F l × F r)}
    (h : Comes take l r findings made) (hfound : ∀ x ∈ findings, x.2 = world.lookUp x.1) :
    Failed made ↔ Failed (take l (world.lookUp l)) ∨ Failed (take r (world.lookUp r)) := by
  have hiff := h.eq_ok_iff hfound
  cases hl : take l (world.lookUp l) with
  | error f =>
    cases made with
    | ok p => cases hl.symm.trans ((hiff p.1 p.2).mp rfl).1
    | error g => simp
  | ok a =>
    cases hr : take r (world.lookUp r) with
    | error f =>
      cases made with
      | ok p => cases hr.symm.trans ((hiff p.1 p.2).mp rfl).2
      | error g => simp
    | ok b =>
      rw [(hiff a b).mpr ⟨hl, hr⟩]
      simp

/-- What they do is to begin, which depends on the world alone. -/
theorem Overlapped.deeds_eq {ys : List Exchange} {made made' : Except Failure (F l × F r)}
    (h : Overlapped take l r xs made) (hgrants : world.Grants me xs)
    (h' : Overlapped take l r ys made') (hgrants' : world.Grants me ys) : deeds xs = deeds ys := by
  have hstart : ∀ {k : LookUp} (soon soon' : Option k.Answer),
      (⟨.start k, soon⟩ : Exchange) ∈ xs → (⟨.start k, soon'⟩ : Exchange) ∈ ys → soon = soon' :=
    fun _ _ hx hy => (hgrants _ hx).trans (hgrants' _ hy).symm
  have hdeeds : ∀ {x y : Exchange} {waits : List Exchange}, x.1.isWait = false →
      y.1.isWait = false → (∀ z ∈ waits, z.1.isWait = true) → deeds (x :: y :: waits) = [x, y] := by
    intro x y waits hx hy hwaits
    have hnone : waits.filter (!·.1.isWait) = [] := by
      rw [List.filter_eq_nil_iff]
      intro z hz
      simp [hwaits z hz]
    simp [deeds, hx, hy, hnone]
  rcases h.order with ⟨found, rfl, hfailed⟩ | ⟨soon, soon', waits, rfl, hsoon, hwaits⟩ <;>
    rcases h'.order with ⟨found', rfl, hfailed'⟩ | ⟨soon₂, soon₂', waits', rfl, hsoon', hwaits'⟩
  · cases hstart _ _ List.mem_cons_self List.mem_cons_self
    rfl
  · -- the first look-up fails at once always or never
    exact absurd hfailed (hsoon' _ (hstart _ _ List.mem_cons_self List.mem_cons_self).symm)
  · exact absurd hfailed' (hsoon _ (hstart _ _ List.mem_cons_self List.mem_cons_self))
  · obtain rfl := hstart soon soon₂ List.mem_cons_self List.mem_cons_self
    obtain rfl := hstart soon' soon₂'
      (List.mem_cons_of_mem _ List.mem_cons_self) (List.mem_cons_of_mem _ List.mem_cons_self)
    rw [hdeeds rfl rfl hwaits, hdeeds rfl rfl hwaits']

/-- Whichever answer comes first, both come to the same. -/
theorem settles_overlap (take : (l : LookUp) → l.Answer → Except Failure (F l)) (l r : LookUp) :
    (overlap take l r).Settles world me fun _ => True := by
  intro xs ys made made' hxs hgrants hys hgrants'
  have h := course_overlap hxs
  have h' := course_overlap hys
  refine ⟨h.deeds_eq hgrants h' hgrants', ?_⟩
  have hiff := h.comes.eq_ok_iff (World.eq_lookUp_of_told hgrants)
  have hiff' := h'.comes.eq_ok_iff (World.eq_lookUp_of_told hgrants')
  cases made with
  | ok p =>
    obtain rfl := (hiff' p.1 p.2).mpr ((hiff p.1 p.2).mp rfl)
    exact .same trivial
  | error f =>
    cases made' with
    | ok p => cases (hiff p.1 p.2).mpr ((hiff' p.1 p.2).mp rfl)
    | error g => exact .failed f g

end

end Attempt

/-! ## The jobs of the bot -/

theorem Schedule.settles_runFrom (s : Schedule) (name : String) {act : Attempt Message}
    (h : act.Settles world me fun _ => True) (requested : UInt32) (left : Nat) (posted : UInt32) :
    (s.runFrom Bot.outlet name act.run requested left posted).Settles world me := by
  induction left generalizing posted with
  | zero => exact Job.settles_done _
  | succ left ih =>
    refine Job.Agree.bind h ?_
    intro made made' halike
    cases halike with
    | failed f g => exact Job.agree_done trivial
    | @same message _ =>
      refine Job.settles_query_bind (q := .post message) (fun _ ha => ha) fun outcome => ?_
      cases outcome with
      | error f => exact Job.settles_done _
      | ok done =>
        refine Job.settles_query_bind (q := .pause s.delay) (fun _ _ => rfl) fun _ => ?_
        exact ih (posted + 1)

namespace Notice

theorem settles_channelAndUser (channel user : String) :
    (channelAndUser channel user).Settles world me fun _ => True := by
  refine (Attempt.settles_overlap _ (.channel channel) (.user user)).bind ?_
  rintro ⟨foundChannel, foundUser⟩ -
  cases foundChannel <;> cases foundUser
  case ok.ok => exact Attempt.settles_pure trivial
  all_goals exact Attempt.settles_fail _

theorem settles_render (announce : String) (event : Event) :
    (render announce event).Settles world me fun _ => True := by
  cases event with
  | emojiChanged change => cases change <;> exact Attempt.settles_pure trivial
  | channelArchive channel user | channelUnarchive channel user =>
    exact (settles_channelAndUser channel user).bind fun _ _ => Attempt.settles_pure trivial
  | channelCreated channel =>
    obtain ⟨-, name, creator⟩ := channel
    cases creator with
    | none => exact Attempt.settles_fail (.creatorUnnamed name)
    | some id => exact (Attempt.settles_user id).bind fun _ _ => Attempt.settles_pure trivial
  | memberJoined user channel =>
    exact (Attempt.settles_user user).bind fun _ _ => Attempt.settles_pure trivial
  | memberLeft user channel =>
    refine (Attempt.settles_channel channel).bind fun info _ => ?_
    refine (Attempt.settles_overlap _ (.user info.creator) (.user user)).bind fun _ _ => ?_
    exact Attempt.settles_pure trivial
  | channelDeleted _ | channelRename _ | fileCreated _ | message _ | other =>
    exact Attempt.settles_pure trivial

end Notice

namespace Bot

theorem settles_postAll (messages : List Message) : (postAll messages).Settles world me := by
  induction messages with
  | nil => exact Job.settles_done _
  | cons m rest ih => exact Job.settles_query_bind (q := .post m) (fun _ h => h) fun _ => ih

theorem settles_notify (bot : Bot) (event : Event) : (bot.notify event).Settles world me := by
  refine Job.Agree.bind (Notice.settles_render bot.announce event) ?_
  intro made made' halike
  -- the notices are posted if they could be made
  cases halike with
  | failed f g => exact Job.settles_done _
  | @same messages _ => exact settles_postAll messages

theorem settles_handle {bot : Bot} (h : ∀ action ∈ bot.table.actions, action.Settles world me)
    (m : Incoming) : (bot.handle m).Settles world me := by
  unfold handle
  split
  · exact Job.settles_done _
  · next command _ =>
    have haction := CommandTable.settles_resolve h command.name command.args m
    exact (bot.schedule.settles_runFrom _ haction _ _ _).map fun _ _ _ => trivial

/-- The jobs of all events settle. -/
def Settles (world : World) (me : Identity) (bot : Bot) : Prop :=
  ∀ event job, bot.route event = some job → job.Settles world me

theorem settles_of_actions {bot : Bot} (h : ∀ action ∈ bot.table.actions, action.Settles world me) :
    bot.Settles world me := by
  intro event job hroute
  cases event with
  | message m =>
    obtain ⟨incoming, -, rfl⟩ := Option.map_eq_some_iff.mp hroute
    exact (settles_handle h incoming).bind fun _ _ _ => Job.settles_done _
  | other => cases hroute
  | _ =>
    cases hroute
    exact settles_notify bot _

end Bot

end Herald
