import Herald.Event
import Herald.Proofs.JsonReading
import Mathlib.Data.List.Basic

/-!
# The format of events

`Event.Describes` says by which fields a record describes an event: its type comes as a text, and each
type has fields of its own. It speaks of the fields alone, so neither their order nor further fields
matter.

`Event.parse_format`: the text of an object, in which no name is given twice, is read as an event if
and only if its fields describe it. Records that come as arrays and tags that come as numbers are left
aside.
-/

namespace Herald

/-! ## Fields -/

namespace Json

/-- A field that may be absent or null gives a text or none. -/
inductive MayText : Option Json → Option String → Prop where
  | absent : MayText none none
  | null : MayText (some .null) none
  | text (s : String) : MayText (some (.string s)) (some s)

/-- No name is given twice. -/
def Distinct (members : List (String × Json)) : Prop :=
  (members.map Prod.fst).Nodup

instance (members : List (String × Json)) : Decidable (Distinct members) :=
  inferInstanceAs (Decidable (List.Nodup _))

theorem string?_eq_some_iff {v : Json} {s : String} : v.string? = some s ↔ v = .string s := by
  cases v <;> simp [string?]

theorem optionalString?_eq_some_iff {v : Option Json} {s : Option String} :
    optionalString? v = some s ↔ MayText v s := by
  constructor
  · intro h
    rcases v with _ | v
    · cases h
      exact .absent
    · cases v with
      | null =>
        cases h
        exact .null
      | string s =>
        cases h
        exact .text s
      | _ => cases h
  · rintro (_ | _ | s) <;> rfl

theorem strings?_eq_some_iff {v : Json} {names : List String} :
    v.strings? = some names ↔ v = .array (names.map .string) := by
  cases v with
  | array items =>
    rw [strings?, Json.array.injEq]
    induction items generalizing names with
    | nil => cases names <;> simp
    | cons item items ih =>
      cases names with
      | nil => simp [List.mapM_cons, Option.bind_eq_some_iff]
      | cons name names =>
        simp only [List.mapM_cons, Option.bind_eq_bind, Option.bind_eq_some_iff, List.map_cons,
          List.cons.injEq, ← ih, string?_eq_some_iff]
        constructor
        · rintro ⟨name', rfl, names', hnames, ⟨⟩⟩
          exact ⟨rfl, hnames⟩
        · rintro ⟨rfl, hnames⟩
          exact ⟨name, rfl, names, hnames, rfl⟩
  | _ => simp [strings?]

variable {members : List (String × Json)}

theorem member?_eq (h : Distinct members) (name : String) :
    member? members name = some (members.lookup name) := by
  induction members with
  | nil => rfl
  | cons entry members ih =>
    obtain ⟨key, v⟩ := entry
    obtain ⟨hkey, hmembers⟩ := List.nodup_cons.mp h
    by_cases hname : key = name
    · subst hname
      -- the others have other names
      have hnone : members.filter (·.1 = key) = [] := by
        rw [List.filter_eq_nil_iff]
        intro entry hentry heq
        exact hkey (List.mem_map.mpr ⟨entry, hentry, by simpa using heq⟩)
      simp only [member?, List.filter_cons, decide_true, if_true, hnone, List.lookup_cons_self]
    · have hbeq : (name == key) = false := by
        rw [beq_eq_false_iff_ne]
        exact fun heq => hname heq.symm
      simp only [member?, List.filter_cons, hname, decide_false, Bool.false_eq_true, if_false,
        List.lookup_cons, hbeq]
      exact ih hmembers

theorem fields?_object (h : Distinct members) (names : List String) :
    (Json.object members).fields? names = some (names.map (members.lookup ·)) := by
  rw [fields?]
  induction names with
  | nil => rfl
  | cons name names ih =>
    rw [List.mapM_cons, member?_eq h, ih]
    rfl

/-- The fields that are left when one has been taken off. -/
theorem lookup_filter {name other : String} (h : other ≠ name) :
    (members.filter (·.1 ≠ name)).lookup other = members.lookup other := by
  induction members with
  | nil => rfl
  | cons entry members ih =>
    obtain ⟨key, v⟩ := entry
    by_cases hkey : key = name
    · -- the field that is taken off is another one
      have hbeq : (other == key) = false := by
        rw [beq_eq_false_iff_ne, hkey]
        exact h
      simp only [List.filter_cons, hkey, ne_eq, not_true, decide_false, Bool.false_eq_true, if_false,
        ih]
      rw [← hkey, List.lookup_cons, hbeq]
    · simp only [List.filter_cons, hkey, ne_eq, not_false_iff, decide_true, if_true, List.lookup_cons,
        ih]

theorem Distinct.filter (h : Distinct members) (p : String × Json → Bool) :
    Distinct (members.filter p) :=
  List.Nodup.sublist (List.Sublist.map _ List.filter_sublist) h

theorem untag?_object (h : Distinct members) (name : String) :
    (Json.object members).untag? name =
      (members.lookup name).map (·, .object (members.filter (·.1 ≠ name))) := by
  rw [untag?, member?_eq h]
  cases members.lookup name <;> rfl

theorem oneField?_object (h : Distinct members) (name : String) :
    (Json.object members).oneField? name = members.lookup name := by
  rw [oneField?, fields?_object h]
  cases hname : members.lookup name <;> simp [hname]

theorem twoStrings?_object (h : Distinct members) {first second a b : String} :
    (Json.object members).twoStrings? first second = some (a, b) ↔
      members.lookup first = some (.string a) ∧ members.lookup second = some (.string b) := by
  rw [twoStrings?, fields?_object h]
  cases hfirst : members.lookup first <;> cases hsecond : members.lookup second <;>
    simp [hfirst, hsecond, Option.bind_eq_some_iff, string?_eq_some_iff]

end Json

/-! ## The format -/

/-- A channel is described by an object with an id and a name. -/
inductive ChannelRef.Describes : Json → ChannelRef → Prop where
  | mk {inner : List (String × Json)} {id name : String} {creator : Option String}
      (hid : inner.lookup "id" = some (.string id))
      (hname : inner.lookup "name" = some (.string name))
      (hcreator : Json.MayText (inner.lookup "creator") creator) :
      Describes (.object inner) ⟨id, name, creator⟩

/-- A file is described by an object with an id. -/
inductive FileDescribes : Json → String → Prop where
  | mk {inner : List (String × Json)} {id : String}
      (hid : inner.lookup "id" = some (.string id)) : FileDescribes (.object inner) id

/-- A change of the emoji is described by its subtype and the fields of that. -/
inductive EmojiChange.Describes (field : String → Option Json) : EmojiChange → Prop where
  | add {name value : String} (hsubtype : field "subtype" = some (.string "add"))
      (hname : field "name" = some (.string name))
      (hvalue : field "value" = some (.string value)) : Describes field (.add name value)
  | remove {names : List String} (hsubtype : field "subtype" = some (.string "remove"))
      (hnames : field "names" = some (.array (names.map .string))) :
      Describes field (.remove names)
  | other {kind : String} (hsubtype : field "subtype" = some (.string kind))
      (hkind : kind ≠ "add" ∧ kind ≠ "remove") : Describes field .other

namespace Event

/-- The types of the events that the bot reacts to. -/
def types : List String :=
  ["message", "channel_archive", "channel_unarchive", "channel_created", "channel_deleted",
    "channel_rename", "emoji_changed", "member_joined_channel", "member_left_channel",
    "file_created"]

/-- The fields describe the event. -/
inductive Describes (field : String → Option Json) : Event → Prop where
  | message {subtype user channel text : Option String}
      (htype : field "type" = some (.string "message"))
      (hsubtype : Json.MayText (field "subtype") subtype)
      (huser : Json.MayText (field "user") user)
      (hchannel : Json.MayText (field "channel") channel)
      (htext : Json.MayText (field "text") text) :
      Describes field (.message ⟨subtype, user, channel, text⟩)
  | channelArchive {channel user : String} (htype : field "type" = some (.string "channel_archive"))
      (hchannel : field "channel" = some (.string channel))
      (huser : field "user" = some (.string user)) : Describes field (.channelArchive channel user)
  | channelUnarchive {channel user : String}
      (htype : field "type" = some (.string "channel_unarchive"))
      (hchannel : field "channel" = some (.string channel))
      (huser : field "user" = some (.string user)) :
      Describes field (.channelUnarchive channel user)
  | channelCreated {v : Json} {channel : ChannelRef}
      (htype : field "type" = some (.string "channel_created"))
      (hchannel : field "channel" = some v) (h : ChannelRef.Describes v channel) :
      Describes field (.channelCreated channel)
  | channelDeleted {channel : String} (htype : field "type" = some (.string "channel_deleted"))
      (hchannel : field "channel" = some (.string channel)) :
      Describes field (.channelDeleted channel)
  | channelRename {v : Json} {channel : ChannelRef}
      (htype : field "type" = some (.string "channel_rename"))
      (hchannel : field "channel" = some v) (h : ChannelRef.Describes v channel) :
      Describes field (.channelRename channel)
  | emojiChanged {change : EmojiChange} (htype : field "type" = some (.string "emoji_changed"))
      (h : EmojiChange.Describes field change) : Describes field (.emojiChanged change)
  | memberJoined {user channel : String}
      (htype : field "type" = some (.string "member_joined_channel"))
      (huser : field "user" = some (.string user))
      (hchannel : field "channel" = some (.string channel)) :
      Describes field (.memberJoined user channel)
  | memberLeft {user channel : String}
      (htype : field "type" = some (.string "member_left_channel"))
      (huser : field "user" = some (.string user))
      (hchannel : field "channel" = some (.string channel)) :
      Describes field (.memberLeft user channel)
  | fileCreated {v : Json} {file : String} (htype : field "type" = some (.string "file_created"))
      (hfile : field "file" = some v) (h : FileDescribes v file) :
      Describes field (.fileCreated file)
  | other {type : String} (htype : field "type" = some (.string type)) (hother : type ∉ types) :
      Describes field .other

/-- No name is given twice where the event is described. -/
structure IsDistinct (members : List (String × Json)) : Prop where
  outer : Json.Distinct members
  inner : ∀ name ∈ ["channel", "file"], ∀ inner,
    members.lookup name = some (.object inner) → Json.Distinct inner

/-- The records inside come as objects, and the subtype of a change does not come as a number. -/
structure IsPlain (field : String → Option Json) : Prop where
  channel : ∀ type ∈ ["channel_created", "channel_rename"], field "type" = some (.string type) →
    ∀ items, field "channel" ≠ some (.array items)
  file : field "type" = some (.string "file_created") → ∀ items, field "file" ≠ some (.array items)
  subtype : field "type" = some (.string "emoji_changed") →
    ∀ n, field "subtype" ≠ some (.integer n)

end Event

/-! ## Reading -/

variable {members : List (String × Json)}

theorem ChannelRef.Describes.ofJson?_eq {v : Json} {channel : ChannelRef} (h : Describes v channel)
    (hdistinct : ∀ inner, v = .object inner → Json.Distinct inner) :
    ChannelRef.ofJson? v = some channel := by
  obtain ⟨hid, hname, hcreator⟩ := h
  rw [ofJson?, Json.fields?_object (hdistinct _ rfl)]
  simp only [List.map_cons, List.map_nil, hid, hname, Option.bind_eq_bind, Option.bind_some,
    Json.string?, Json.optionalString?_eq_some_iff.mpr hcreator]
  rfl

theorem ChannelRef.describes_of_ofJson? {v : Json} {channel : ChannelRef}
    (harray : ∀ items, v ≠ .array items)
    (hdistinct : ∀ inner, v = .object inner → Json.Distinct inner)
    (h : ChannelRef.ofJson? v = some channel) : Describes v channel := by
  cases v with
  | array items => exact (harray items rfl).elim
  | object inner =>
    rw [ofJson?, Json.fields?_object (hdistinct inner rfl)] at h
    simp only [List.map_cons, List.map_nil, Option.bind_eq_bind, Option.bind_some] at h
    split at h
    · next id name creator heq =>
      simp only [List.cons.injEq, and_true] at heq
      obtain ⟨hid, hname, rfl⟩ := heq
      simp only [Option.bind_eq_some_iff, Json.string?_eq_some_iff,
        Json.optionalString?_eq_some_iff] at h
      obtain ⟨id', rfl, name', rfl, creator', hcreator, ⟨⟩⟩ := h
      exact .mk hid hname hcreator
    · cases h
  | _ => cases h

theorem FileDescribes.id_eq {v : Json} {file : String} (h : FileDescribes v file)
    (hdistinct : ∀ inner, v = .object inner → Json.Distinct inner) :
    (v.oneField? "id").bind Json.string? = some file := by
  obtain ⟨hid⟩ := h
  rw [Json.oneField?_object (hdistinct _ rfl), hid]
  rfl

theorem fileDescribes_of_id {v : Json} {file : String} (harray : ∀ items, v ≠ .array items)
    (hdistinct : ∀ inner, v = .object inner → Json.Distinct inner)
    (h : (v.oneField? "id").bind Json.string? = some file) : FileDescribes v file := by
  cases v with
  | array items => exact (harray items rfl).elim
  | object inner =>
    rw [Json.oneField?_object (hdistinct inner rfl)] at h
    obtain ⟨id, hid, hstring⟩ := Option.bind_eq_some_iff.mp h
    rw [Json.string?_eq_some_iff.mp hstring] at hid
    exact .mk hid
  | _ => cases h

theorem MessageEvent.ofJson?_object (h : Json.Distinct members) {m : MessageEvent} :
    ofJson? (.object members) = some m ↔
      Json.MayText (members.lookup "subtype") m.subtype ∧
      Json.MayText (members.lookup "user") m.user ∧
      Json.MayText (members.lookup "channel") m.channel ∧
      Json.MayText (members.lookup "text") m.text := by
  rw [ofJson?, Json.fields?_object h]
  simp only [List.map_cons, List.map_nil, Option.bind_eq_bind, Option.bind_some,
    Option.bind_eq_some_iff, Json.optionalString?_eq_some_iff]
  constructor
  · rintro ⟨subtype, hsubtype, user, huser, channel, hchannel, text, htext, ⟨⟩⟩
    exact ⟨hsubtype, huser, hchannel, htext⟩
  · rintro ⟨hsubtype, huser, hchannel, htext⟩
    exact ⟨_, hsubtype, _, huser, _, hchannel, _, htext, rfl⟩

namespace EmojiChange

theorem Kind.ofTag?_string (kind : String) :
    Kind.ofTag? (.string kind) =
      if kind = "add" then some .add else if kind = "remove" then some .remove else some .other := by
  unfold Kind.ofTag?
  split <;> simp_all

/-- A change is read by its subtype, once that is a text. -/
theorem ofJson?_of_string (h : Json.Distinct members) {kind : String}
    (hsubtype : members.lookup "subtype" = some (.string kind)) {change : EmojiChange} :
    ofJson? (.object members) = some change ↔
      if kind = "add" then ∃ name value, members.lookup "name" = some (.string name) ∧
        members.lookup "value" = some (.string value) ∧ change = .add name value
      else if kind = "remove" then ∃ names,
        members.lookup "names" = some (.array (names.map .string)) ∧ change = .remove names
      else change = .other := by
  have hrest := h.filter (·.1 ≠ "subtype")
  rw [ofJson?, Json.untag?_object h, hsubtype]
  simp only [Option.map_some, Option.bind_eq_bind, Option.bind_some, Kind.ofTag?_string]
  by_cases hadd : kind = "add"
  · simp only [if_pos hadd, Option.bind_some, Option.bind_eq_some_iff, Prod.exists,
      Json.twoStrings?_object hrest]
    rw [Json.lookup_filter (by decide), Json.lookup_filter (by decide)]
    constructor
    · rintro ⟨name, value, ⟨hname, hvalue⟩, ⟨⟩⟩
      exact ⟨name, value, hname, hvalue, rfl⟩
    · rintro ⟨name, value, hname, hvalue, rfl⟩
      exact ⟨name, value, ⟨hname, hvalue⟩, rfl⟩
  · by_cases hremove : kind = "remove"
    · simp only [if_neg hadd, if_pos hremove, Option.bind_some, Option.bind_eq_some_iff,
        Json.oneField?_object hrest, Json.strings?_eq_some_iff]
      rw [Json.lookup_filter (by decide)]
      constructor
      · rintro ⟨v, hnames, names, rfl, ⟨⟩⟩
        exact ⟨names, hnames, rfl⟩
      · rintro ⟨names, hnames, rfl⟩
        exact ⟨_, hnames, names, rfl, rfl⟩
    · simp only [if_neg hadd, if_neg hremove, Option.bind_some, Json.isVacant, if_true]
      constructor
      · rintro ⟨⟩
        rfl
      · rintro rfl
        rfl

theorem ofJson?_object (h : Json.Distinct members)
    (hplain : ∀ n, members.lookup "subtype" ≠ some (.integer n)) {change : EmojiChange} :
    ofJson? (.object members) = some change ↔ Describes (members.lookup ·) change := by
  constructor
  · intro hread
    cases hsubtype : members.lookup "subtype" with
    | none =>
      rw [ofJson?, Json.untag?_object h, hsubtype] at hread
      cases hread
    | some tag =>
      cases tag with
      | integer n => exact (hplain n hsubtype).elim
      | string kind =>
        rw [ofJson?_of_string h hsubtype] at hread
        split at hread
        · next hadd =>
          subst hadd
          obtain ⟨name, value, hname, hvalue, rfl⟩ := hread
          exact .add hsubtype hname hvalue
        · next hadd =>
          split at hread
          · next hremove =>
            subst hremove
            obtain ⟨names, hnames, rfl⟩ := hread
            exact .remove hsubtype hnames
          · next hremove =>
            subst hread
            exact .other hsubtype ⟨hadd, hremove⟩
      | _ =>
        rw [ofJson?, Json.untag?_object h, hsubtype] at hread
        cases hread
  · intro hdescribes
    cases hdescribes with
    | add hsubtype hname hvalue =>
      exact (ofJson?_of_string h hsubtype).mpr ⟨_, _, hname, hvalue, rfl⟩
    | remove hsubtype hnames => exact (ofJson?_of_string h hsubtype).mpr ⟨_, hnames, rfl⟩
    | other hsubtype hkind =>
      rw [ofJson?_of_string h hsubtype, if_neg hkind.1, if_neg hkind.2]

theorem Describes.subtype_ne_integer {field : String → Option Json} {change : EmojiChange}
    (h : Describes field change) (n : Int) : field "subtype" ≠ some (.integer n) := by
  intro hn
  cases h with
  | add hsubtype | remove hsubtype | other hsubtype =>
    rw [hn] at hsubtype
    cases hsubtype

/-- The type of the event does not matter for the change. -/
theorem Describes.congr {field field' : String → Option Json} {change : EmojiChange}
    (h : Describes field change) (hfield : ∀ name, name ≠ "type" → field name = field' name) :
    Describes field' change := by
  cases h with
  | add hsubtype hname hvalue =>
    rw [hfield _ (by decide)] at hsubtype hname hvalue
    exact .add hsubtype hname hvalue
  | remove hsubtype hnames =>
    rw [hfield _ (by decide)] at hsubtype hnames
    exact .remove hsubtype hnames
  | other hsubtype hkind =>
    rw [hfield _ (by decide)] at hsubtype
    exact .other hsubtype hkind

end EmojiChange

namespace Event

/-- An event is read by its type, from the other fields. -/
theorem ofJson?_of_type (h : Json.Distinct members) {type : String}
    (htype : members.lookup "type" = some (.string type)) :
    ofJson? (.object members) = ofTyped? type (.object (members.filter (·.1 ≠ "type"))) := by
  rw [ofJson?, Json.untag?_object h, htype]
  rfl

theorem ofTyped?_of_not_mem {type : String} (h : type ∉ types) (rest : List (String × Json)) :
    ofTyped? type (.object rest) = some .other := by
  unfold ofTyped?
  split
  case h_11 => rfl
  all_goals exact (h (by decide)).elim

section

variable {rest : List (String × Json)} {field : String → Option Json}

theorem twoStrings?_rest (h : Json.Distinct rest)
    (hrest : ∀ name, name ≠ "type" → rest.lookup name = field name) {first second a b : String}
    (hfirst : first ≠ "type") (hsecond : second ≠ "type") :
    (Json.object rest).twoStrings? first second = some (a, b) ↔
      field first = some (.string a) ∧ field second = some (.string b) := by
  rw [Json.twoStrings?_object h, hrest first hfirst, hrest second hsecond]

theorem oneField?_rest (h : Json.Distinct rest)
    (hrest : ∀ name, name ≠ "type" → rest.lookup name = field name) {name : String}
    (hname : name ≠ "type") : (Json.object rest).oneField? name = field name := by
  rw [Json.oneField?_object h, hrest name hname]

/-- What is read of a type is described. -/
theorem describes_of_ofTyped? (h : Json.Distinct rest)
    (hrest : ∀ name, name ≠ "type" → rest.lookup name = field name)
    (hinner : ∀ name ∈ ["channel", "file"], ∀ inner,
      field name = some (.object inner) → Json.Distinct inner)
    (hplain : IsPlain field) {type : String} (htype : field "type" = some (.string type))
    {e : Event} (hread : ofTyped? type (.object rest) = some e) : Describes field e := by
  have hrecord : ∀ {v : Json} {channel : ChannelRef},
      (∀ items, field "channel" ≠ some (.array items)) → field "channel" = some v →
      ChannelRef.ofJson? v = some channel → ChannelRef.Describes v channel := by
    intro v channel harray hv
    refine ChannelRef.describes_of_ofJson? ?_ ?_
    · rintro items rfl
      exact harray items hv
    · rintro inner rfl
      exact hinner "channel" (by decide) inner hv
  -- one case for each type, and the last for those that the bot does not react to
  unfold ofTyped? at hread
  split at hread
  · obtain ⟨m, hm, rfl⟩ := Option.map_eq_some_iff.mp hread
    obtain ⟨hsubtype, huser, hchannel, htext⟩ := (MessageEvent.ofJson?_object h).mp hm
    rw [hrest _ (by decide)] at hsubtype huser hchannel htext
    exact .message htype hsubtype huser hchannel htext
  · obtain ⟨⟨channel, user⟩, hboth, ⟨⟩⟩ := Option.bind_eq_some_iff.mp hread
    obtain ⟨hchannel, huser⟩ := (twoStrings?_rest h hrest (by decide) (by decide)).mp hboth
    exact .channelArchive htype hchannel huser
  · obtain ⟨⟨channel, user⟩, hboth, ⟨⟩⟩ := Option.bind_eq_some_iff.mp hread
    obtain ⟨hchannel, huser⟩ := (twoStrings?_rest h hrest (by decide) (by decide)).mp hboth
    exact .channelUnarchive htype hchannel huser
  · obtain ⟨v, hv, hmore⟩ := Option.bind_eq_some_iff.mp hread
    obtain ⟨channel, hc, ⟨⟩⟩ := Option.bind_eq_some_iff.mp hmore
    rw [oneField?_rest h hrest (by decide)] at hv
    exact .channelCreated htype hv (hrecord (hplain.channel _ (by decide) htype) hv hc)
  · obtain ⟨v, hv, hmore⟩ := Option.bind_eq_some_iff.mp hread
    obtain ⟨channel, hc, ⟨⟩⟩ := Option.bind_eq_some_iff.mp hmore
    rw [oneField?_rest h hrest (by decide)] at hv
    exact .channelRename htype hv (hrecord (hplain.channel _ (by decide) htype) hv hc)
  · obtain ⟨v, hv, hmore⟩ := Option.bind_eq_some_iff.mp hread
    obtain ⟨channel, hc, ⟨⟩⟩ := Option.bind_eq_some_iff.mp hmore
    rw [oneField?_rest h hrest (by decide), Json.string?_eq_some_iff.mp hc] at hv
    exact .channelDeleted htype hv
  · obtain ⟨change, hchange, rfl⟩ := Option.map_eq_some_iff.mp hread
    have hsubtype : ∀ n, rest.lookup "subtype" ≠ some (.integer n) := by
      rw [hrest _ (by decide)]
      exact hplain.subtype htype
    exact .emojiChanged htype (((EmojiChange.ofJson?_object h hsubtype).mp hchange).congr hrest)
  · obtain ⟨⟨user, channel⟩, hboth, ⟨⟩⟩ := Option.bind_eq_some_iff.mp hread
    obtain ⟨huser, hchannel⟩ := (twoStrings?_rest h hrest (by decide) (by decide)).mp hboth
    exact .memberJoined htype huser hchannel
  · obtain ⟨⟨user, channel⟩, hboth, ⟨⟩⟩ := Option.bind_eq_some_iff.mp hread
    obtain ⟨huser, hchannel⟩ := (twoStrings?_rest h hrest (by decide) (by decide)).mp hboth
    exact .memberLeft htype huser hchannel
  · obtain ⟨v, hv, hmore⟩ := Option.bind_eq_some_iff.mp hread
    obtain ⟨id, hid, hmore⟩ := Option.bind_eq_some_iff.mp hmore
    obtain ⟨file, hfile, ⟨⟩⟩ := Option.bind_eq_some_iff.mp hmore
    rw [oneField?_rest h hrest (by decide)] at hv
    refine .fileCreated htype hv (fileDescribes_of_id ?_ ?_
      (Option.bind_eq_some_iff.mpr ⟨id, hid, hfile⟩))
    · rintro items rfl
      exact hplain.file htype items hv
    · rintro inner rfl
      exact hinner "file" (by decide) inner hv
  · next hmessage harchive hunarchive hcreated hrename hdeleted hemoji hjoined hleft hfile =>
    cases hread
    refine .other htype ?_
    simp only [types, List.mem_cons, List.not_mem_nil, or_false, not_or]
    exact ⟨hmessage, harchive, hunarchive, hcreated, hdeleted, hrename, hemoji, hjoined, hleft,
      hfile⟩

/-- What is described is read. -/
theorem ofTyped?_of_describes (h : Json.Distinct rest)
    (hrest : ∀ name, name ≠ "type" → rest.lookup name = field name)
    (hinner : ∀ name ∈ ["channel", "file"], ∀ inner,
      field name = some (.object inner) → Json.Distinct inner)
    {e : Event} (hdescribes : Describes field e) :
    ∃ type, field "type" = some (.string type) ∧ ofTyped? type (.object rest) = some e := by
  cases hdescribes with
  | message htype hsubtype huser hchannel htext =>
    refine ⟨_, htype, ?_⟩
    rw [← hrest _ (by decide)] at hsubtype huser hchannel htext
    rw [ofTyped?, (MessageEvent.ofJson?_object h (m := ⟨_, _, _, _⟩)).mpr
      ⟨hsubtype, huser, hchannel, htext⟩]
    rfl
  | channelArchive htype hchannel huser =>
    refine ⟨_, htype, ?_⟩
    rw [ofTyped?, (twoStrings?_rest h hrest (by decide) (by decide)).mpr ⟨hchannel, huser⟩]
    rfl
  | channelUnarchive htype hchannel huser =>
    refine ⟨_, htype, ?_⟩
    rw [ofTyped?, (twoStrings?_rest h hrest (by decide) (by decide)).mpr ⟨hchannel, huser⟩]
    rfl
  | channelCreated htype hchannel hv =>
    have hread := hv.ofJson?_eq fun inner heq =>
      hinner "channel" (by decide) inner (hchannel.trans (congrArg some heq))
    rw [← oneField?_rest h hrest (by decide)] at hchannel
    refine ⟨_, htype, ?_⟩
    simp only [ofTyped?, hchannel, hread, Option.bind_eq_bind, Option.bind_some]
    rfl
  | channelDeleted htype hchannel =>
    refine ⟨_, htype, ?_⟩
    rw [ofTyped?, oneField?_rest h hrest (by decide), hchannel]
    rfl
  | channelRename htype hchannel hv =>
    have hread := hv.ofJson?_eq fun inner heq =>
      hinner "channel" (by decide) inner (hchannel.trans (congrArg some heq))
    rw [← oneField?_rest h hrest (by decide)] at hchannel
    refine ⟨_, htype, ?_⟩
    simp only [ofTyped?, hchannel, hread, Option.bind_eq_bind, Option.bind_some]
    rfl
  | emojiChanged htype hchange =>
    refine ⟨_, htype, ?_⟩
    have hchange' := hchange.congr fun name hname => (hrest name hname).symm
    rw [ofTyped?, (EmojiChange.ofJson?_object h hchange'.subtype_ne_integer).mpr hchange']
    rfl
  | memberJoined htype huser hchannel =>
    refine ⟨_, htype, ?_⟩
    rw [ofTyped?, (twoStrings?_rest h hrest (by decide) (by decide)).mpr ⟨huser, hchannel⟩]
    rfl
  | memberLeft htype huser hchannel =>
    refine ⟨_, htype, ?_⟩
    rw [ofTyped?, (twoStrings?_rest h hrest (by decide) (by decide)).mpr ⟨huser, hchannel⟩]
    rfl
  | fileCreated htype hfile hv =>
    obtain ⟨id, hid, hstring⟩ := Option.bind_eq_some_iff.mp (hv.id_eq fun inner heq =>
      hinner "file" (by decide) inner (hfile.trans (congrArg some heq)))
    rw [← oneField?_rest h hrest (by decide)] at hfile
    refine ⟨_, htype, ?_⟩
    simp only [ofTyped?, hfile, hid, hstring, Option.bind_eq_bind, Option.bind_some]
    rfl
  | other htype hother => exact ⟨_, htype, ofTyped?_of_not_mem hother rest⟩

end

/-- An object is read as an event if and only if its fields describe it. -/
theorem ofJson?_object (hdistinct : IsDistinct members) (hplain : IsPlain (members.lookup ·))
    {e : Event} : ofJson? (.object members) = some e ↔ Describes (members.lookup ·) e := by
  have hrest := hdistinct.outer.filter (·.1 ≠ "type")
  have hlookup : ∀ name, name ≠ "type" →
      (members.filter (·.1 ≠ "type")).lookup name = members.lookup name :=
    fun name hname => Json.lookup_filter hname
  constructor
  · intro hread
    cases htype : members.lookup "type" with
    | none =>
      rw [ofJson?, Json.untag?_object hdistinct.outer, htype] at hread
      cases hread
    | some tag =>
      cases tag with
      | string type =>
        rw [ofJson?_of_type hdistinct.outer htype] at hread
        exact describes_of_ofTyped? hrest hlookup hdistinct.inner hplain htype hread
      | _ =>
        rw [ofJson?, Json.untag?_object hdistinct.outer, htype] at hread
        cases hread
  · intro hdescribes
    obtain ⟨type, htype, hread⟩ := ofTyped?_of_describes hrest hlookup hdistinct.inner hdescribes
    rw [ofJson?_of_type hdistinct.outer htype, hread]

/-- Whatever is read as an event is a document of JSON. -/
theorem exists_isText_of_parse {frame : String} {e : Event} (h : parse frame = .ok e) :
    ∃ v, Json.IsText frame v := by
  unfold parse at h
  split at h
  · next event hread =>
    obtain ⟨v, hv, -⟩ := Option.bind_eq_some_iff.mp hread
    exact ⟨v, Json.ofText?_eq_some_iff.mp hv⟩
  · cases h

/-- The text of an object is read as an event if and only if the fields of the object describe it, in
whatever order they come and whatever else comes with them. Otherwise it is malformed. -/
theorem parse_format {frame : String} (htext : Json.IsText frame (.object members))
    (hdistinct : IsDistinct members) (hplain : IsPlain (members.lookup ·)) :
    (∀ e, parse frame = .ok e ↔ Describes (members.lookup ·) e) ∧
      ((∀ e, ¬ Describes (members.lookup ·) e) → parse frame = .error (.outside .readingEvent)) := by
  -- the text spells these members alone
  have hparse : parse frame =
      (ofJson? (.object members)).elim (.error (.outside .readingEvent)) .ok := by
    rw [parse, Json.ofText?_of_isText htext]
    cases hread : ofJson? (.object members) <;> simp only [Option.bind_some, hread, Option.elim]
  constructor
  · intro e
    rw [hparse, ← ofJson?_object hdistinct hplain]
    cases ofJson? (.object members) <;> simp
  · intro hnone
    rw [hparse]
    cases hread : ofJson? (.object members) with
    | none => rfl
    | some e => exact (hnone e ((ofJson?_object hdistinct hplain).mp hread)).elim

/-- A channel whose name comes before its id, and the type at the end. -/
theorem parse_format_unordered :
    let frame := "\x7b\"channel\":\x7b\"name\":\"lab\",\"id\":\"C9\"\x7d, \"type\":\"channel_created\"\x7d"
    let members : List (String × Json) := [
      ("channel", .object [("name", .string "lab"), ("id", .string "C9")]),
      ("type", .string "channel_created")]
    Json.IsText frame (.object members) ∧ IsDistinct members ∧ IsPlain (members.lookup ·) ∧
      parse frame = .ok (.channelCreated ⟨"C9", "lab", none⟩) := by
  intro frame members
  have hstring : ∀ depth s, Json.isPlain s = true →
      Json.Spells (depth + 1) ('"' :: (s.toList ++ ['"'])) (.string s) :=
    fun _ _ hs => .scalar (Json.spells_of_isPlain hs)
  have hinner : Json.SpellsItems (Json.SpellsMember (Json.Spells 125)) _
      [("name", .string "lab"), ("id", .string "C9")] :=
    .cons Json.blank_nil
      (Json.spellsMember_of_isPlain (by decide +kernel) (hstring 124 "lab" (by decide +kernel)))
      Json.blank_nil (.last Json.blank_nil
        (Json.spellsMember_of_isPlain (by decide +kernel) (hstring 124 "C9" (by decide +kernel)))
        Json.blank_nil)
  have hspace : Json.Blank [' '] := by
    intro c hc
    rw [List.mem_singleton.mp hc]
    rfl
  have houter : Json.SpellsItems (Json.SpellsMember (Json.Spells 126)) _ members :=
    .cons Json.blank_nil
      (Json.spellsMember_of_isPlain (by decide +kernel) (Json.SpellsValue.object (.items hinner)))
      Json.blank_nil (.last hspace
        (Json.spellsMember_of_isPlain (by decide +kernel)
          (hstring 125 "channel_created" (by decide +kernel)))
        Json.blank_nil)
  have htext : Json.IsText frame (.object members) :=
    ⟨[], _, [], by decide +kernel, Json.blank_nil, Json.blank_nil,
      Json.SpellsValue.object (.items houter)⟩
  have hdistinct : IsDistinct members := by
    refine ⟨by decide, ?_⟩
    intro name hname inner hinner
    simp only [List.mem_cons, List.not_mem_nil, or_false] at hname
    rcases hname with rfl | rfl
    · cases hinner
      decide
    · cases hinner
  have hplain : IsPlain (members.lookup ·) := by
    refine ⟨?_, ?_, ?_⟩
    · intro type _ _ items hitems
      cases hitems
    · intro htype
      exact absurd (Json.string.inj (Option.some.inj htype)) (by decide)
    · intro htype
      exact absurd (Json.string.inj (Option.some.inj htype)) (by decide)
  refine ⟨htext, hdistinct, hplain, ?_⟩
  exact ((parse_format htext hdistinct hplain).1 _).mpr
    (.channelCreated rfl rfl (.mk rfl rfl .absent))

end Event

end Herald
