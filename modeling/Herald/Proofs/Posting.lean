import Herald.Proofs.Notices

/-!
# Posting the notices

The messages about an event are posted one after another, and none of them waits for the success of
another one. A command does otherwise: it ends with the first message that cannot be posted.

* `Bot.conclude_postAll`: all messages are tried.
* `Schedule.pairwise_runFrom`: nothing follows a lost message in a run.
* `Bot.notify_account`: what becomes of the notices of any event, whoever answers.
-/

namespace Herald

/-- A message that could not be posted. -/
def Exchange.IsLoss (x : Exchange) : Prop :=
  ∃ m f, x = ⟨.post m, .error f⟩

theorem Exchange.post?_of_inquiry {x : Exchange} (h : x.1.IsInquiry) : x.post? = none := by
  obtain ⟨q, a⟩ := x
  cases q with
  | post m => exact h.elim
  | _ => rfl

theorem Exchange.not_isLoss_of_inquiry {x : Exchange} (h : x.1.IsInquiry) : ¬ x.IsLoss := by
  rintro ⟨m, f, rfl⟩
  exact h

/-- Messages that are posted one after another, and what becomes of each. -/
def posting (messages : List Message) (outcomes : List (Except Failure Unit)) : List Exchange :=
  List.zipWith (fun m outcome => ⟨.post m, outcome⟩) messages outcomes

theorem filterMap_post?_posting (messages : List Message) (outcomes : List (Except Failure Unit)) :
    (posting messages outcomes).filterMap Exchange.post? = messages.zip outcomes := by
  induction messages generalizing outcomes with
  | nil => rfl
  | cons m rest ih =>
    cases outcomes with
    | nil => rfl
    | cons outcome outcomes => exact congrArg _ (ih outcomes)

/-- The messages that arrive are those whose own post has succeeded. -/
theorem filterMap_delivered?_posting (messages : List Message)
    (outcomes : List (Except Failure Unit)) :
    (posting messages outcomes).filterMap Exchange.delivered? =
      ((messages.zip outcomes).filter (·.2.isOk)).map (·.1) := by
  induction messages generalizing outcomes with
  | nil => rfl
  | cons m rest ih =>
    cases outcomes with
    | nil => rfl
    | cons outcome outcomes =>
      cases outcome with
      | error f => exact ih outcomes
      | ok u => exact congrArg _ (ih outcomes)

/-- A run of a command asks nothing behind a message that it could not post. -/
theorem Schedule.pairwise_runFrom (s : Schedule) (name : String) {act : Attempt Message}
    (hact : act.Makes fun _ => True) {requested : UInt32} {left : Nat} {posted : UInt32}
    {xs : List Exchange} {report : RunReport}
    (h : (s.runFrom Bot.outlet name act.run requested left posted).Course xs (.done report)) :
    xs.Pairwise fun x _ => ¬ x.IsLoss := by
  have hasked : ∀ {ys made}, act.run.Course ys (.done made) → ∀ x ∈ ys, ¬ x.IsLoss :=
    fun hmade x hx =>
      Exchange.not_isLoss_of_inquiry ((hact.of_course hmade fun _ _ => trivial).1 x hx)
  have hturn : ∀ {ys zs made}, act.run.Course ys (.done made) →
      zs.Pairwise (fun x _ => ¬ Exchange.IsLoss x) →
        (ys ++ zs).Pairwise fun x _ => ¬ Exchange.IsLoss x := by
    intro ys zs made hmade hzs
    have hys := hasked hmade
    have hpairwise : ys.Pairwise fun x _ => ¬ Exchange.IsLoss x :=
      List.pairwise_of_forall_mem_list fun x hx _ _ => hys x hx
    exact List.pairwise_append.mpr ⟨hpairwise, hzs, fun x hx _ _ => hys x hx⟩
  induction left generalizing posted xs with
  | zero =>
    cases h with
    | nil => exact .nil
  | succ left ih =>
    rcases s.turn_of_course name h with ⟨f, hmade, -⟩ | ⟨ys, m, f, hmade, rfl, -⟩ |
      ⟨ys, m, zs, hmade, rfl, hrest⟩
    · simpa using hturn hmade .nil
    · exact hturn hmade (List.pairwise_singleton _ _)
    · -- what has been posted is no loss, and neither is the pause behind it
      refine hturn hmade (.cons ?_ (.cons ?_ (ih hrest))) <;>
      · rintro _ - ⟨_, _, ⟨⟩⟩

namespace Bot

/-- All messages are tried in their order, whatever becomes of them. -/
theorem conclude_postAll (answer : (q : Query) → σ → q.Answer × σ) (messages : List Message)
    (s : σ) : ∃ outcomes : List (Except Failure Unit), outcomes.length = messages.length ∧
      ((postAll messages).conclude answer s).2.1 = posting messages outcomes := by
  induction messages generalizing s with
  | nil => exact ⟨[], rfl, rfl⟩
  | cons m rest ih =>
    obtain ⟨outcomes, hlength, hposted⟩ := ih (answer (.post m) s).2
    refine ⟨(answer (.post m) s).1 :: outcomes, congrArg _ hlength, ?_⟩
    exact congrArg _ hposted

/-- The job for an event: what has been looked up for it, what has been made of that, and all that
the job has asked and been told. -/
structure Notified (bot : Bot) (event : Event) (asked : List Exchange)
    (made : Except Failure (List Message)) (xs : List Exchange) : Prop where
  /-- If the messages cannot be made, nothing is posted. -/
  silent : Failed made → xs = asked ∧ xs.filterMap Exchange.post? = []
  /-- Otherwise each of them is posted once and in order, whatever becomes of the others, and those
  arrive whose own post has succeeded. -/
  posted : ∀ messages, made = .ok messages → ∃ outcomes : List (Except Failure Unit),
    outcomes.length = messages.length ∧ xs = asked ++ posting messages outcomes ∧
      xs.filterMap Exchange.post? = messages.zip outcomes ∧
      xs.filterMap Exchange.delivered? = ((messages.zip outcomes).filter (·.2.isOk)).map (·.1)
  /-- So each of the emoji that are gone is told of, as often as it is named. -/
  removed : ∀ names, event = .emojiChanged (.remove names) →
    ∃ outcomes : List (Except Failure Unit), outcomes.length = names.length ∧
      xs = posting (names.map fun name =>
        { channel := bot.announce, text := ":" ++ name ++ ": has been removed" }) outcomes
  /-- It is the job that the bot does for the event, if it does one. -/
  routed : ∀ job, bot.route event = some job → (∀ m, event ≠ .message m) → job = bot.notify event

theorem eq_notify_of_route {bot : Bot} {event : Event} {job : Job Unit}
    (h : bot.route event = some job) (hother : ∀ m, event ≠ .message m) :
    job = bot.notify event := by
  cases event with
  | message m => exact absurd rfl (hother m)
  | other => cases h
  | _ =>
    cases h
    rfl

/-- The job posts behind the rendering, which posts nothing itself. -/
theorem notified (bot : Bot) (event : Event) (answer : (q : Query) → σ → q.Answer × σ) (s : σ) :
    Notified bot event ((Notice.render bot.announce event).run.conclude answer s).2.1
      ((Notice.render bot.announce event).run.conclude answer s).1
      ((bot.notify event).conclude answer s).2.1 := by
  have hrendered := Notice.rendered_of_course
    (Job.course_conclude answer (Notice.render bot.announce event).run s)
  have hinquiry := Notice.isInquiry_of_inquires hrendered.inquires
  have hnothing : ∀ {β} {f : Exchange → Option β}, (∀ x : Exchange, x.1.IsInquiry → f x = none) →
      ((Notice.render bot.announce event).run.conclude answer s).2.1.filterMap f = [] :=
    fun hf => List.filterMap_eq_nil_iff.mpr fun x hx => hf x (hinquiry x hx)
  have hasked := hnothing fun _ => Exchange.post?_of_inquiry
  have hundelivered := hnothing fun _ => Exchange.delivered?_of_inquiry
  rw [notify, Job.conclude_bind]
  generalize (Notice.render bot.announce event).run.conclude answer s = rendering at *
  obtain ⟨made, asked, s'⟩ := rendering
  dsimp only at *
  constructor
  case silent =>
    rintro ⟨f, rfl⟩
    exact ⟨List.append_nil _, by simpa [Job.conclude] using hasked⟩
  case posted =>
    rintro messages rfl
    obtain ⟨outcomes, hlength, hposted⟩ := conclude_postAll answer messages s'
    refine ⟨outcomes, hlength, congrArg _ hposted, ?_, ?_⟩
    · rw [hposted, List.filterMap_append, hasked, filterMap_post?_posting, List.nil_append]
    · rw [hposted, List.filterMap_append, hundelivered, filterMap_delivered?_posting,
        List.nil_append]
  case removed =>
    rintro names rfl
    obtain rfl := hrendered.inquires
    cases made with
    | error f =>
      exact absurd (hrendered.failed_iff.mp (failed_error f)) (by simp [Notice.Unnamed, told])
    | ok messages =>
      obtain rfl := (hrendered.tells messages rfl).removed names rfl
      obtain ⟨outcomes, hlength, hposted⟩ := conclude_postAll answer _ s'
      exact ⟨outcomes, by simpa using hlength, hposted⟩
  case routed => exact fun _ => eq_notify_of_route

/-- A command asks nothing behind a message that it could not post. -/
theorem pairwise_handle {announce : String} {schedule : Schedule} {m : Incoming}
    {xs : List Exchange} {result : Option RunReport}
    (h : (Bot.handle { announce, schedule } m).Course xs (.done result)) :
    xs.Pairwise fun x _ => ¬ x.IsLoss := by
  unfold handle at h
  split at h
  · cases h with
    | nil => exact .nil
  · next command _ =>
    obtain ⟨report, hrun, -⟩ := Job.Course.of_map h
    refine schedule.pairwise_runFrom _ ?_ hrun
    exact (CommandTable.makes_resolve_builtIn command.name command.args m).mono fun _ _ => trivial

theorem eq_nil_of_isLoss {announce : String} {schedule : Schedule} {m : Incoming}
    {front back : List Exchange} {x : Exchange} {result : Option RunReport}
    (h : (Bot.handle { announce, schedule } m).Course (front ++ x :: back) (.done result))
    (hx : x.IsLoss) : back = [] := by
  obtain ⟨-, hback, -⟩ := List.pairwise_append.mp (pairwise_handle h)
  cases back with
  | nil => rfl
  | cons y rest => exact absurd hx ((List.pairwise_cons.mp hback).1 y List.mem_cons_self)

/-- The notices of an event are tried one by one. Unlike that, a command asks nothing more once a
message could not be posted. -/
theorem notify_account (bot : Bot) (event : Event) (answer : (q : Query) → σ → q.Answer × σ)
    (s : σ) :
    Notified bot event ((Notice.render bot.announce event).run.conclude answer s).2.1
      ((Notice.render bot.announce event).run.conclude answer s).1
      ((bot.notify event).conclude answer s).2.1 ∧
    ∀ m front x back, ((Bot.handle { bot with table := .builtIn } m).conclude answer s).2.1 =
      front ++ x :: back → x.IsLoss → back = [] := by
  refine ⟨notified bot event answer s, fun m front x back h => ?_⟩
  have hcourse := Job.course_conclude answer (Bot.handle { bot with table := .builtIn } m) s
  rw [h] at hcourse
  exact eq_nil_of_isLoss hcourse

end Bot

end Herald
