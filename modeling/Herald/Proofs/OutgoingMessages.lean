import Herald.Proofs.Answers
import Herald.Proofs.JsonWriting
import Herald.Proofs.Requests

/-!
# Messages on their way

A message is made in steps, each of which sets the persona or adds an attachment, and is sent as a
JSON object.

* `Made.step`: what one step does to a message, and what it leaves as it was.
* `members_toJson`: the members that any message is sent as. Those that stand for the name, the icon
  and the attachments are there just if the message has some.
* `Members.unique`: the members tell the message, so nothing of it is lost on its way.
* `messages_kept`: so it is for what steps have made, and for the request that carries it.
-/

namespace Herald

namespace Message

/-! ## Steps -/

/-- A step in making a message. -/
inductive Step where
  | persona (username icon : String)
  | attachment (a : Attachment)

/-- The name and the icon that a step sets. -/
def Step.persona? : Step → Option (String × String)
  | persona username icon => some (username, icon)
  | attachment _ => none

/-- The attachment that a step adds. -/
def Step.attachment? : Step → Option Attachment
  | persona _ _ => none
  | attachment a => some a

/-- The message after a step. -/
def take (m : Message) : Step → Message
  | .persona username icon => m.withPersona username icon
  | .attachment a => m.withAttachment a

/-- The message that steps make of a text for a channel. -/
def make (channel text : String) (steps : List Step) : Message :=
  steps.foldl take { channel, text }

/-- What steps have made of a text for a channel. -/
structure Made (channel text : String) (steps : List Step) (m : Message) : Prop where
  channel_eq : m.channel = channel
  text_eq : m.text = text
  linkNames_eq : m.linkNames = true
  /-- It is the bot's own unless a persona has been set. -/
  asUser_iff : m.asUser = true ↔ ∀ step ∈ steps, step.persona? = none
  /-- The last persona counts, and sets the name and the icon both. -/
  username_eq : m.username = (steps.filterMap Step.persona?).getLast?.map (·.1)
  icon_eq : m.icon = (steps.filterMap Step.persona?).getLast?.map (·.2)
  /-- All attachments are there, in their order. -/
  attachments_eq : m.attachments = steps.filterMap Step.attachment?

variable {channel text : String} {steps : List Step} {m : Message}

theorem made_start (channel text : String) : Made channel text [] { channel, text } where
  channel_eq := rfl
  text_eq := rfl
  linkNames_eq := rfl
  asUser_iff := by simp
  username_eq := rfl
  icon_eq := rfl
  attachments_eq := rfl

/-- A step sets the persona or adds an attachment, and leaves all else as it was. -/
theorem Made.step (h : Made channel text steps m) (step : Step) :
    Made channel text (steps ++ [step]) (m.take step) := by
  cases step with
  | persona username icon =>
    constructor
    case channel_eq => exact h.channel_eq
    case text_eq => exact h.text_eq
    case linkNames_eq => exact h.linkNames_eq
    case asUser_iff => simp [take, withPersona, Step.persona?]
    case username_eq => simp [take, withPersona, Step.persona?]
    case icon_eq => simp [take, withPersona, Step.persona?]
    case attachments_eq =>
      rw [List.filterMap_append, ← h.attachments_eq]
      exact (List.append_nil _).symm
  | attachment a =>
    have hpersona : (steps ++ [Step.attachment a]).filterMap Step.persona? =
        steps.filterMap Step.persona? := by
      rw [List.filterMap_append]
      exact List.append_nil _
    constructor
    case channel_eq => exact h.channel_eq
    case text_eq => exact h.text_eq
    case linkNames_eq => exact h.linkNames_eq
    case asUser_iff =>
      rw [List.forall_mem_append, ← h.asUser_iff, List.forall_mem_singleton]
      exact (and_iff_left rfl).symm
    case username_eq =>
      rw [hpersona]
      exact h.username_eq
    case icon_eq =>
      rw [hpersona]
      exact h.icon_eq
    case attachments_eq =>
      rw [List.filterMap_append, ← h.attachments_eq]
      rfl

/-- A message has a name just if a persona has been set. -/
theorem Made.username_iff (h : Made channel text steps m) :
    m.username ≠ none ↔ ∃ step ∈ steps, step.persona? ≠ none := by
  simp [h.username_eq]

theorem Made.icon_iff (h : Made channel text steps m) :
    m.icon ≠ none ↔ ∃ step ∈ steps, step.persona? ≠ none := by
  simp [h.icon_eq]

theorem Made.attachments_iff (h : Made channel text steps m) :
    m.attachments ≠ [] ↔ ∃ step ∈ steps, step.attachment? ≠ none := by
  simp [h.attachments_eq]

theorem made_make (channel text : String) (steps : List Step) :
    Made channel text steps (make channel text steps) := by
  induction steps using List.reverseRecOn with
  | nil => exact made_start channel text
  | append_singleton steps step ih =>
    have hlast : make channel text (steps ++ [step]) = (make channel text steps).take step := by
      simp [make]
    rw [hlast]
    exact ih.step step

/-! ## The members of a message -/

/-- The members of the object that a message is sent as. -/
structure Members (m : Message) (members : List (String × Json)) : Prop where
  distinct : (members.map (·.1)).Nodup
  text : members.lookup "text" = some (.string m.text)
  channel : members.lookup "channel" = some (.string m.channel)
  asUser : members.lookup "as_user" = some (.bool m.asUser)
  linkNames : members.lookup "link_names" = some (.bool m.linkNames)
  /-- Name and icon are there just if the message has them, be they empty or not. -/
  username : members.lookup "username" = m.username.map .string
  icon : members.lookup "icon_emoji" = m.icon.map .string
  username_iff : "username" ∈ members.map (·.1) ↔ m.username ≠ none
  icon_iff : "icon_emoji" ∈ members.map (·.1) ↔ m.icon ≠ none
  /-- The attachments are there just if there are some. -/
  attachments : m.attachments ≠ [] →
    members.lookup "attachments" = some (.array (m.attachments.map Attachment.toJson))
  attachments_iff : "attachments" ∈ members.map (·.1) ↔ m.attachments ≠ []

theorem members_toJson (m : Message) : ∃ members, m.toJson = .object members ∧ Members m members := by
  refine ⟨_, rfl, ?_⟩
  obtain ⟨channel, text, asUser, linkNames, username, icon, attachments⟩ := m
  cases username <;> cases icon <;> cases attachments <;> constructor <;> simp [List.lookup_cons]

theorem attachment_toJson_injective : Function.Injective Attachment.toJson := by
  rintro ⟨color, title, imageUrl⟩ ⟨color', title', imageUrl'⟩ h
  simpa [Attachment.toJson] using h

theorem string_map_injective : Function.Injective (Option.map Json.string) :=
  Option.map_injective fun _ _ => Json.string.inj

/-- The members tell the message. -/
theorem Members.unique {members : List (String × Json)} {m m' : Message} (h : Members m members)
    (h' : Members m' members) : m = m' := by
  have htext := h.text.symm.trans h'.text
  have hchannel := h.channel.symm.trans h'.channel
  have hasUser := h.asUser.symm.trans h'.asUser
  have hlinkNames := h.linkNames.symm.trans h'.linkNames
  have husername := string_map_injective (h.username.symm.trans h'.username)
  have hicon := string_map_injective (h.icon.symm.trans h'.icon)
  have hattachments : m.attachments = m'.attachments := by
    -- a message without attachments is sent without that member, so either both have some or none
    have hiff := h.attachments_iff.symm.trans h'.attachments_iff
    by_cases hnil : m.attachments = []
    · rw [hnil]
      by_contra hne
      exact hiff.mpr (Ne.symm hne) hnil
    · have hitems := (h.attachments hnil).symm.trans (h'.attachments (hiff.mp hnil))
      simp only [Option.some.injEq, Json.array.injEq] at hitems
      exact List.map_injective_iff.mpr attachment_toJson_injective hitems
  obtain ⟨channel, text, asUser, linkNames, username, icon, attachments⟩ := m
  obtain ⟨channel', text', asUser', linkNames', username', icon', attachments'⟩ := m'
  simp_all

/-! ## The body of a request -/

theorem spells_attachment (depth : Nat) (a : Attachment) :
    Json.Spells (depth + 1) (Json.write a.toJson) a.toJson := by
  refine Json.spells_object ?_
  simp only [List.forall_mem_cons, Json.spells_string, true_and]
  exact List.forall_mem_nil _

/-- A member that may be left out is a string if it is there. -/
theorem spells_optional (depth : Nat) (name : String) (value : Option String) :
    ∀ member ∈ (value.map fun v => (name, Json.string v)).toList,
      Json.Spells depth (Json.write member.2) member.2 := by
  intro member hmember
  obtain ⟨v, -, rfl⟩ := Option.map_eq_some_iff.mp (Option.mem_toList.mp hmember)
  exact Json.spells_string depth v

theorem isText_toJson (m : Message) : Json.IsText m.toJson.toText m.toJson := by
  have hlimit : Json.depthLimit = 126 + 1 := rfl
  refine Json.isText_toText ?_
  rw [hlimit]
  refine Json.spells_object ?_
  refine List.forall_mem_append.mpr ⟨List.forall_mem_append.mpr
    ⟨List.forall_mem_append.mpr ⟨?_, spells_optional _ _ _⟩, spells_optional _ _ _⟩, ?_⟩
  · simp only [List.forall_mem_cons, Json.spells_string, Json.spells_bool, true_and]
    exact List.forall_mem_nil _
  · split
    · exact List.forall_mem_nil _
    · refine List.forall_mem_singleton.mpr (Json.spells_array ?_)
      intro v hv
      obtain ⟨a, -, rfl⟩ := List.mem_map.mp hv
      exact spells_attachment _ a

/-- The bytes that a message is sent as are an object with its members. -/
theorem isBody_toJson (m : Message) : ∃ members,
    Slack.IsBody (Text.Utf8.encode m.toJson.toText.toList) (.object members) ∧
      Members m members := by
  obtain ⟨members, hjson, hmembers⟩ := members_toJson m
  have htext := isText_toJson m
  rw [hjson] at htext ⊢
  exact ⟨members, ⟨_, rfl, htext⟩, hmembers⟩

/-- Read as JSON, no two messages are sent as the same body. -/
theorem body_injective :
    Function.Injective fun m : Message => Slack.body? (Text.Utf8.encode m.toJson.toText.toList) := by
  intro m m' h
  obtain ⟨members, hbody, hmembers⟩ := isBody_toJson m
  obtain ⟨members', hbody', hmembers'⟩ := isBody_toJson m'
  have hsame : some (Json.object members) = some (Json.object members') :=
    (Slack.body?_eq_some_iff.mpr hbody).symm.trans (h.trans (Slack.body?_eq_some_iff.mpr hbody'))
  cases hsame
  exact hmembers.unique hmembers'

/-- What a client sends for a message. -/
structure Carried (c : Slack.Client) (m : Message) : Prop where
  /-- The body is the message as JSON, whatever it holds. -/
  body : ∃ members, Slack.IsBody (Text.Utf8.encode m.toJson.toText.toList) (.object members) ∧
    Members m members
  /-- The request that is built posts it. -/
  verbatim : ∀ r, ((c.postMessage m).ask ()).request = some r →
    Slack.Posts c .postMessage m.toJson.toText r
  /-- There is such a request wherever messages can be posted. -/
  built : c.Reaches .postMessage 0 →
    ∃ r, ((c.postMessage m).ask ()).request = some r ∧ Slack.Posts c .postMessage m.toJson.toText r

theorem carried (c : Slack.Client) (m : Message) : Carried c m where
  body := isBody_toJson m
  verbatim _ h := Slack.Client.posts_post h
  built h := Slack.Client.exists_post h m.toJson

/-- The members that are there just if some step has set them. -/
structure Present (steps : List Step) (members : List (String × Json)) : Prop where
  username_iff : "username" ∈ members.map (·.1) ↔ ∃ step ∈ steps, step.persona? ≠ none
  icon_iff : "icon_emoji" ∈ members.map (·.1) ↔ ∃ step ∈ steps, step.persona? ≠ none
  attachments_iff : "attachments" ∈ members.map (·.1) ↔ ∃ step ∈ steps, step.attachment? ≠ none

theorem Made.present (h : Made channel text steps m) {members : List (String × Json)}
    (hmembers : Members m members) : Present steps members where
  username_iff := hmembers.username_iff.trans h.username_iff
  icon_iff := hmembers.icon_iff.trans h.icon_iff
  attachments_iff := hmembers.attachments_iff.trans h.attachments_iff

/-- A message keeps its text and its channel, and is otherwise what its last persona and all of its
attachments make of it. The body that it is sent as has a name and an icon just if a persona has been
set, and attachments just if there are some, and tells the whole message. -/
theorem messages_kept (channel text : String) (steps : List Step) (c : Slack.Client) :
    Made channel text steps (make channel text steps) ∧
    (∀ members, Members (make channel text steps) members → Present steps members) ∧
    (∀ m : Message, Carried c m) ∧
    Function.Injective fun m : Message => Slack.body? (Text.Utf8.encode m.toJson.toText.toList) :=
  ⟨made_make channel text steps, fun _ => (made_make channel text steps).present, carried c,
    body_injective⟩

/-- The persona of empty texts that is set last takes the place of the first one. -/
theorem messages_kept_persona :
    let c : Slack.Client := ⟨"https://slack.com/api", "xoxb-1"⟩
    let steps := [.persona "おじ" ":older_man:", .attachment ⟨"#36a64f", "新", "https://e/1.png"⟩,
      .persona "" ""]
    let m := make "C1" "裸\n" steps
    let r : Http.Request := {
      method := .post
      url := Slack.slackAddress .postMessage
      authorization := ["Bearer xoxb-1"]
      body := some ("\x7b\"text\":\"裸\\n\",\"channel\":\"C1\",\"as_user\":false," ++
        "\"link_names\":true,\"username\":\"\",\"icon_emoji\":\"\",\"attachments\":[" ++
        "\x7b\"color\":\"#36a64f\",\"title\":\"新\",\"image_url\":\"https://e/1.png\"\x7d]\x7d") }
    Made "C1" "裸\n" steps m ∧ ((c.postMessage m).ask ()).request = some r ∧
      Slack.Posts c .postMessage m.toJson.toText r ∧
      String.ofList r.url.toText = "https://slack.com/api/chat.postMessage" := by
  intro c steps m r
  obtain ⟨hmade, -, hcarried, -⟩ := messages_kept "C1" "裸\n" steps c
  have hrequest : ((c.postMessage m).ask ()).request = some r :=
    (Slack.Client.post_slack "xoxb-1" .postMessage m.toJson).trans (by decide +kernel)
  exact ⟨hmade, hrequest, (hcarried m).verbatim r hrequest, by decide +kernel⟩

end Message

end Herald
