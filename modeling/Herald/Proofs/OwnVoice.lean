import Herald.Proofs.Acquaintance
import Herald.Proofs.CommandWriting
import Herald.Proofs.Registration
import Herald.Proofs.Replies
import Herald.Proofs.Sessions

/-!
# What the bot says under its own name

The platform may report to the bot what the bot has posted itself. Its notices, its greeting and its replies
under its own name are all written so that none of them is a command, whatever names, ids and
descriptions they quote.

* `Command.opening_of_parse`: a command begins with the trigger or with the first word of a reminder.
* `Notice.makes_render` and `CommandTable.begins_helpText`: so begins nothing that the bot says.
* `Bot.says_utterances`: with the built-in commands, it says nothing else under its own name.
* `own_messages_unanswered` draws the conclusions, for each message and for all lives of the bot.
-/

namespace Herald

/-! ## What a command begins with -/

namespace Command

/-- The first token of a text stands at its start. -/
theorem prefix_of_tokenize {raw token : String} {rest : List String}
    (h : tokenize raw = token :: rest) : token.toList <+: raw.toList := by
  have hspaced := spaced_tokenize raw
  rw [h] at hspaced
  have hperiod : dropPeriod raw.toList <+: raw.toList := by
    unfold dropPeriod
    split
    · exact List.dropLast_prefix _
    · exact List.prefix_rfl
  exact hspaced.head_prefix.trans hperiod

/-- The trigger, and the first words of reminders. -/
def openings : List String :=
  [trigger, "Reminder:", "リマインダー"]

/-- A command begins with one of them. -/
theorem opening_of_parse {raw : String} {c : Command} (h : parse raw = some c) :
    ∃ word ∈ openings, word.toList <+: raw.toList := by
  obtain ⟨behind, hstrip, -⟩ := ofTokens_of_parse h
  have htokens : ∃ word ∈ openings, ∃ rest, tokenize raw = word :: rest := by
    unfold stripReminder at hstrip
    split at hstrip
    · next rest heq => exact ⟨"Reminder:", by decide, rest, heq⟩
    · next rest heq => exact ⟨"リマインダー", by decide, ":" :: rest, heq⟩
    · exact ⟨trigger, by decide, behind, hstrip⟩
  obtain ⟨word, hword, rest, heq⟩ := htokens
  exact ⟨word, hword, prefix_of_tokenize heq⟩

/-- A text with another first letter is no command. -/
theorem parse_eq_none_of_head {raw : String} {letter : Char}
    (h : raw.toList.head? = some letter)
    (hother : ∀ word ∈ openings, word.toList.head? ≠ some letter) : parse raw = none := by
  cases hparse : parse raw with
  | none => rfl
  | some c =>
    obtain ⟨word, hword, hprefix⟩ := opening_of_parse hparse
    refine absurd ?_ (hother word hword)
    cases hlist : word.toList with
    | nil =>
      have hall : ∀ word ∈ openings, word.toList ≠ [] := by decide
      exact absurd hlist (hall word hword)
    | cons first others =>
      rw [hlist] at hprefix
      obtain ⟨rest, hrest⟩ := hprefix
      rw [← hrest] at h
      exact h

end Command

/-! ## What the texts of the bot begin with -/

theorem begins_append {s : String} {letter : Char} (h : s.toList.head? = some letter)
    (t : String) : (s ++ t).toList.head? = some letter := by
  rw [String.toList_append, List.head?_append, h]
  rfl

theorem begins_intercalate {s : String} {letter : Char} (h : s.toList.head? = some letter)
    (separator : String) (rest : List String) :
    (separator.intercalate (s :: rest)).toList.head? = some letter := by
  rw [String.toList_intercalate]
  cases rest with
  | nil => simpa [List.intercalate] using h
  | cons next rest => simp [List.intercalate, List.head?_append, h]

/-- A colon begins all that the bot tells of channels, users and itself. -/
theorem begins_hello (name version : String) :
    (Notice.hello name version).toList.head? = some ':' :=
  begins_append (begins_append (begins_append (begins_append (by decide) _) _) _) _

theorem begins_stats (channel : Channel) (creator : String) :
    (Action.Stats.text channel creator).toList.head? = some ':' := by
  unfold Action.Stats.text
  exact begins_append (begins_append (begins_append (begins_append (begins_append (begins_append
    (begins_append (by decide) _) _) _) _) _) _) _

/-- The help begins with its heading, whatever has been registered. -/
theorem CommandTable.begins_helpText {table : CommandTable} {history : List Action}
    (h : Registered table history) : table.helpText.toList.head? = some 'a' := by
  rw [(kept_of_registered h).helpText_eq]
  exact begins_intercalate (by decide) _ _

namespace Notice

theorem makes_channelAndUser (channel user : String) :
    (channelAndUser channel user).Makes fun _ => True := by
  refine (Attempt.makes_overlap (fun _ => .ok) (.channel channel) (.user user)).bind ?_
  rintro ⟨foundChannel, foundUser⟩ -
  cases foundChannel <;> cases foundUser
  case ok.ok => exact Attempt.keeps_pure trivial
  all_goals exact Attempt.keeps_fail trivial

/-- A message under the bot's own name that begins with a colon. -/
def IsPlain (m : Message) : Prop :=
  m.asUser = true ∧ m.text.toList.head? = some ':'

theorem forall_isPlain {m : Message} (hown : m.asUser = true)
    (h : m.text.toList.head? = some ':') : ∀ m' ∈ [m], IsPlain m' := by
  intro m' hm'
  rw [List.mem_singleton.mp hm']
  exact ⟨hown, h⟩

/-- All notices are such messages. -/
theorem makes_render (announce : String) (event : Event) :
    (render announce event).Makes fun messages => ∀ m ∈ messages, IsPlain m := by
  cases event with
  | emojiChanged change =>
    cases change with
    | add name value =>
      exact Attempt.keeps_pure (forall_isPlain rfl (begins_append (begins_append (by decide) _) _))
    | remove names =>
      refine Attempt.keeps_pure ?_
      intro m hm
      obtain ⟨name, -, rfl⟩ := List.mem_map.mp hm
      exact ⟨rfl, begins_append (begins_append (by decide) _) _⟩
    | other => exact Attempt.keeps_pure (by simp)
  | channelArchive channel user | channelUnarchive channel user =>
    refine (makes_channelAndUser channel user).bind ?_
    intro names _
    exact Attempt.keeps_pure (forall_isPlain rfl
      (begins_append (begins_append (begins_append (by decide) _) _) _))
  | channelCreated channel =>
    obtain ⟨id, name, creator⟩ := channel
    cases creator with
    | none => exact Attempt.keeps_fail trivial
    | some id =>
      refine (Attempt.makes_user id).bind ?_
      intro creator _
      exact Attempt.keeps_pure (forall_isPlain rfl
        (begins_append (begins_append (begins_append (by decide) _) _) _))
  | channelDeleted channel | fileCreated file =>
    exact Attempt.keeps_pure (forall_isPlain rfl (begins_append (begins_append (by decide) _) _))
  | channelRename channel =>
    exact Attempt.keeps_pure (forall_isPlain rfl (begins_append (by decide) _))
  | memberJoined user channel =>
    refine (Attempt.makes_user user).bind ?_
    intro joined _
    exact Attempt.keeps_pure (forall_isPlain rfl (begins_append (by decide) _))
  | memberLeft user channel =>
    refine (Attempt.makes_channel channel).bind ?_
    intro info _
    refine (Attempt.makes_overlap (fun _ a => a) (.user info.creator) (.user user)).bind ?_
    rintro ⟨creator, left⟩ -
    exact Attempt.keeps_pure (forall_isPlain rfl
      (begins_append (begins_append (begins_append (by decide) _) _) _))
  | message m | other => exact Attempt.keeps_pure (by simp)

end Notice

/-! ## What becomes of it -/

/-- What the bot may say under its own name, whatever it has been told: its notices, its greeting, and the
replies of the built-in actions other than `ojichat`. The help is that of any table. -/
inductive Utterance : Message → Prop where
  | notice {announce : String} {event : Event} {messages : List Message} {m : Message}
      (h : (Notice.render announce event).run.Yields (.ok messages)) (hm : m ∈ messages) :
      Utterance m
  | greeting (announce name version : String) :
      Utterance { channel := announce, text := Notice.hello name version }
  | reply {table : CommandTable} {history : List Action}
      (htable : CommandTable.Registered table history) {action : Action}
      (haction : action ∈ [Action.stats, Action.version, table.help]) {args : List String}
      {m : Incoming} {reply : Message} (h : (action.run args m).run.Yields (.ok reply)) :
      Utterance reply

/-- A message of the bot itself that makes it do nothing when it is reported back. -/
structure Message.IsUnanswered (m : Message) : Prop where
  asUser : m.asUser = true
  no_command : Command.parse m.text = none
  /-- Nothing is looked up and nothing is posted, whoever reports the text and wherever. -/
  idle : ∀ (bot : Bot) (sender channel : String), bot.handle ⟨sender, channel, m.text⟩ = .done none

theorem Message.isUnanswered_of_head {m : Message} {letter : Char} (hown : m.asUser = true)
    (h : m.text.toList.head? = some letter)
    (hother : ∀ word ∈ Command.openings, word.toList.head? ≠ some letter) : m.IsUnanswered := by
  have hparse := Command.parse_eq_none_of_head h hother
  constructor
  case asUser => exact hown
  case no_command => exact hparse
  case idle =>
    intro bot sender channel
    rw [Bot.handle, hparse]

/-- No utterance begins like a command. -/
theorem Utterance.isUnanswered {m : Message} (h : Utterance m) : m.IsUnanswered := by
  cases h with
  | notice h hm =>
    obtain ⟨hown, hcolon⟩ := (Notice.makes_render _ _).of_yields h m hm
    exact Message.isUnanswered_of_head hown hcolon (by decide)
  | greeting announce name version =>
    exact Message.isUnanswered_of_head rfl (begins_hello name version) (by decide)
  | @reply table history htable action haction args incoming reply h =>
    simp only [List.mem_cons, List.not_mem_nil, or_false] at haction
    rcases haction with rfl | rfl | rfl
    · obtain ⟨channel, creator, rfl⟩ := (Action.makes_stats args incoming).of_yields h
      exact Message.isUnanswered_of_head rfl (begins_stats channel creator) (by decide)
    · obtain rfl := (Action.makes_version args incoming).of_yields h
      have hdigit : version.toList.head? = some '0' := by decide
      exact Message.isUnanswered_of_head rfl hdigit (by decide)
    · obtain rfl := (table.makes_help args incoming).of_yields h
      exact Message.isUnanswered_of_head rfl (CommandTable.begins_helpText htable) (by decide)

/-! ## All that the bot says -/

/-- A query that says nothing under the name of the bot but utterances. -/
def Query.IsCandid (q : Query) : Prop :=
  ∀ m, q = .post m → m.asUser = true → Utterance m

namespace Bot

variable {announce : String} {schedule : Schedule}

theorem keeps_postAll {asks : Query → Prop} {messages : List Message}
    (h : ∀ m ∈ messages, asks (.post m)) :
    (postAll messages).Keeps (fun _ _ => True) asks fun _ => True := by
  induction messages with
  | nil => exact .done trivial
  | cons m rest ih =>
    obtain ⟨hm, hrest⟩ := List.forall_mem_cons.mp h
    exact (Job.keeps_query (q := .post m) hm).bind fun _ _ => ih hrest

theorem says_notify (bot : Bot) (event : Event) :
    (bot.notify event).Keeps (fun _ _ => True) Query.IsCandid fun _ => True := by
  have hrender := (Notice.makes_render bot.announce event).and_yields
  refine Job.Keeps.bind (hrender.mono_asks ?_) ?_
  · rintro _ hq m rfl
    exact hq.elim
  · intro made hmade
    cases made with
    | error f => exact .done trivial
    | ok messages =>
      refine keeps_postAll ?_
      rintro m hm _ ⟨⟩ -
      exact .notice hmade.2 hm

theorem says_handle (m : Incoming) :
    (Bot.handle { announce, schedule } m).Keeps (fun _ _ => True) Query.IsCandid
      fun _ => True := by
  cases hparse : Command.parse m.text with
  | none =>
    rw [handle, hparse]
    exact .done trivial
  | some c =>
    refine keeps_handle hparse ?_ ?_ ?_
    · rintro _ hq reply rfl
      exact hq.elim
    · rintro reply ⟨⟩
    · refine (CommandTable.makes_resolve_builtIn c.name c.args m).and_yields.mono ?_
      rintro reply ⟨hreply, hyields⟩ _ ⟨⟩ hown
      rcases CommandTable.resolve_builtIn_cases c.name with h | h
      · -- the persona is another name
        rw [(hreply.persona h).1] at hown
        cases hown
      · refine .reply .builtIn ?_ hyields
        simpa using h

/-- Whatever event it takes up, the bot says nothing under its own name but utterances. -/
theorem says_utterances {event : Event} {job : Job Unit}
    (hroute : Bot.route { announce, schedule } event = some job) :
    job.Keeps (fun _ _ => True) Query.IsCandid fun _ => True := by
  cases event with
  | message m =>
    obtain ⟨incoming, -, rfl⟩ := Option.map_eq_some_iff.mp hroute
    exact (says_handle incoming).bind fun _ _ => .done trivial
  | other => cases hroute
  | _ =>
    cases hroute
    exact says_notify _ _

end Bot

/-- On its turns the bot says nothing but its greeting. -/
theorem Lifecycle.Turns.utterance_of_post {bot : Bot} {first last : Phase} {since since' : Nat}
    {l : Chronicle} (h : Turns bot first since l last since') :
    ∀ m ∈ l.filterMap Chronicle.post?, Utterance m := by
  induction h with
  | nil => simp
  | forwarded _ ih => exact ih
  | told hturn _ _ _ ih =>
    cases hturn with
    | connected session =>
      refine List.forall_mem_cons.mpr ⟨?_, ih⟩
      exact .greeting bot.announce session.me.name Herald.version
    | _ => exact ih

namespace Life

variable {announce : String} {schedule : Schedule} {p : Life}

/-- The messages that the bot and its tasks have posted, or have tried to. -/
def said (p : Life) : List Message :=
  p.chronicle.filterMap Chronicle.post? ++
    p.history.filterMap fun entry => entry.2.post?.map (·.1)

/-- Whatever the bot says under its own name is an utterance. -/
theorem utterance_of_said (hrun : Run { announce, schedule } {} p) {m : Message}
    (hm : m ∈ p.said) (hown : m.asUser = true) : Utterance m := by
  rcases List.mem_append.mp hm with hchronicle | hhistory
  · obtain ⟨l, hl, hturns⟩ := (tidy_of_run hrun).turns
    rw [hl] at hchronicle
    exact hturns.utterance_of_post m hchronicle
  · obtain ⟨⟨i, x⟩, hx, hpost⟩ := List.mem_filterMap.mp hhistory
    obtain ⟨⟨m, outcome⟩, hsome, rfl⟩ := Option.map_eq_some_iff.mp hpost
    obtain rfl := Exchange.eq_of_post? hsome
    -- the task that has posted it has gone a part of its way
    have hfamiliar := familiar_of_run hrun
    obtain ⟨job, hroute, hcourse⟩ := hfamiliar.course i _
      (List.getElem?_eq_getElem (hfamiliar.owned _ hx))
    obtain ⟨hasks, -⟩ := (Bot.says_utterances hroute).of_course hcourse fun _ _ => trivial
    exact hasks _ (mem_exchangesOf.mpr hx) m rfl hown

/-- A task is done with a text that is no command as soon as it has started. -/
theorem idle_of_not_command (hrun : Run { announce, schedule } {} p) {i : Nat} {e : MessageEvent}
    {job : Job Unit} (htask : p.tasks[i]? = some ⟨.message e, job⟩) {text : String}
    (htext : e.text = some text) (hparse : Command.parse text = none) :
    job = .done () ∧ p.exchangesOf i = [] := by
  obtain ⟨whole, hroute, hcourse⟩ := (familiar_of_run hrun).course i _ htask
  obtain ⟨incoming, hincoming, rfl⟩ := Option.map_eq_some_iff.mp hroute
  have hsame : incoming.text = text := by
    obtain ⟨subtype, user, channel, typed⟩ := e
    cases htext
    cases subtype <;> cases user <;> cases channel <;> cases hincoming
    rfl
  have hdone : Bot.handle { announce, schedule } incoming = .done none := by
    rw [Bot.handle, hsame, hparse]
  rw [hdone] at hcourse
  show job = .done () ∧ p.history.of i = []
  generalize p.history.of i = asked at hcourse ⊢
  cases hcourse with
  | nil => exact ⟨rfl, rfl⟩

end Life

/-- The bot cannot call on itself. What it may say under its own name is no command, whatever it quotes;
and in all its lives it says nothing else, so that a task which is told of such a message is done without
a word. -/
theorem own_messages_unanswered (announce : String) (schedule : Schedule) :
    (∀ m, Utterance m → m.IsUnanswered) ∧
      ∀ p, Life.Run { announce, schedule } {} p → ∀ m ∈ p.said, m.asUser = true →
        Utterance m ∧ ∀ i e job, p.tasks[i]? = some ⟨.message e, job⟩ → e.text = some m.text →
          job = .done () ∧ p.exchangesOf i = [] := by
  constructor
  · intro m h
    exact h.isUnanswered
  · intro p hrun m hm hown
    have hutterance := Life.utterance_of_said hrun hm hown
    constructor
    · exact hutterance
    · intro i e job htask htext
      exact Life.idle_of_not_command hrun htask htext hutterance.isUnanswered.no_command

/-- An emoji whose name is a command is removed, and the notice of that is reported back. -/
theorem own_messages_unanswered_emoji :
    let bot : Bot := { announce := "C0", schedule := ⟨500, none⟩ }
    let notice : Message := { channel := "C0", text := ":Reminder: $ stats.: has been removed" }
    let echo : MessageEvent := ⟨none, some "UBOT", some "C0", some notice.text⟩
    ∃ p, Life.Run bot {} p ∧ notice ∈ p.said ∧ notice.asUser = true ∧ Utterance notice ∧
      notice.IsUnanswered ∧ ∃ job, p.tasks[1]? = some ⟨.message echo, job⟩ ∧
        echo.text = some notice.text ∧ job = .done () ∧ p.exchangesOf 1 = [] := by
  intro bot notice echo
  let session : Slack.Session := ⟨"wss://a/", ⟨"UBOT", "herald"⟩⟩
  let removal : Listener.Receipt := ⟨.text
    "\x7b\"type\":\"emoji_changed\",\"subtype\":\"remove\",\"names\":[\"Reminder: $ stats.\"]\x7d",
    true⟩
  let report : Listener.Receipt := ⟨.text
    ("\x7b\"type\":\"message\",\"user\":\"UBOT\",\"channel\":\"C0\"," ++
      "\"text\":\":Reminder: $ stats.: has been removed\"\x7d"), true⟩
  have hremoval : Listener.react removal =
      .forward (.emojiChanged (.remove ["Reminder: $ stats."])) := by decide +kernel
  have hreport : Listener.react report = .forward (.message echo) := by decide +kernel
  have hopen : Life.Run bot {} _ := Relation.ReflTransGen.refl
    |>.tail (.connected rfl (.ok session)) |>.tail (.posted rfl (.ok ()))
    |>.tail (.opened rfl [removal, report])
  have hrun := hopen
    |>.trans (Life.run_hear bot rfl rfl rfl rfl hremoval)
    |>.trans (Life.run_hear bot rfl rfl rfl rfl hreport)
    |>.trans (Life.run_work bot Life.mayAnswer_village [0] _)
  have hlife : ∃ p, Life.Run bot {} p ∧ notice ∈ p.said ∧
      ∃ job, p.tasks[1]? = some ⟨.message echo, job⟩ := ⟨_, hrun, by decide +kernel, _, rfl⟩
  obtain ⟨p, hrun, hnotice, job, htask⟩ := hlife
  obtain ⟨hunanswered, hsaid⟩ := own_messages_unanswered "C0" ⟨500, none⟩
  obtain ⟨hutterance, hidle⟩ := hsaid p hrun notice hnotice rfl
  exact ⟨p, hrun, hnotice, rfl, hutterance, hunanswered notice hutterance, job, htask, rfl,
    hidle 1 echo job htask rfl⟩

end Herald
