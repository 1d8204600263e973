import Herald.Proofs.EventFormat
import Herald.Slack.Answer
import Mathlib.Data.List.Induction
import Mathlib.Data.List.Nodup

/-!
# The shapes of answers

`Json.Record` says what the fields of a record hold, whether it comes as an object, of whose members
with one name the last one counts, or as an array of its values. On top of it `Describes` says for
users, channels, sessions and pages of members by which fields a value describes one.

* `Json.fields?_lastWins`: the fields of a record are read as `Json.Record` says.
* `User.ofJson?_lastWins` and its like: what is read of an answer is what the answer describes.
-/

namespace Herald

namespace Json

/-! ## Members of which the last one counts -/

/-- The last member of a name has a value. -/
def IsLast (members : List (String × Json)) (name : String) (v : Json) : Prop :=
  ∃ front back, members = front ++ (name, v) :: back ∧ ∀ m ∈ back, m.1 ≠ name

@[simp] theorem last?_nil (name : String) : last? name [] = none := rfl

theorem last?_concat (members : List (String × Json)) (key name : String) (v : Json) :
    last? name (members ++ [(key, v)]) = if key = name then some v else last? name members := by
  simp [last?, List.foldl_append]

theorem last?_map (f : Json → Json) (name : String) (members : List (String × Json)) :
    last? name (members.map fun m => (m.1, f m.2)) = (last? name members).map f := by
  induction members using List.reverseRecOn with
  | nil => rfl
  | append_singleton members entry ih =>
    obtain ⟨key, v⟩ := entry
    rw [List.map_append, List.map_singleton, last?_concat, last?_concat, ih]
    split <;> rfl

theorem last?_eq_none_iff {members : List (String × Json)} {name : String} :
    last? name members = none ↔ ∀ m ∈ members, m.1 ≠ name := by
  induction members using List.reverseRecOn with
  | nil => simp
  | append_singleton members entry ih =>
    obtain ⟨key, v⟩ := entry
    rw [last?_concat]
    by_cases hkey : key = name <;> simp [hkey, ih, or_imp, forall_and]

theorem last?_cons (key name : String) (v : Json) (members : List (String × Json)) :
    last? name ((key, v) :: members) =
      (last? name members).or (if key = name then some v else none) := by
  induction members using List.reverseRecOn with
  | nil =>
    have hone := last?_concat [] key name v
    rwa [List.nil_append, last?_nil] at hone
  | append_singleton members entry ih =>
    obtain ⟨key', w⟩ := entry
    rw [← List.cons_append, last?_concat, last?_concat, ih]
    split <;> simp

/-- The member that is found is the last one of its name. -/
theorem last?_eq_some_iff {members : List (String × Json)} {name : String} {v : Json} :
    last? name members = some v ↔ IsLast members name v := by
  induction members with
  | nil => simp [IsLast]
  | cons entry members ih =>
    obtain ⟨key, w⟩ := entry
    rw [last?_cons, Option.or_eq_some_iff, ih, last?_eq_none_iff]
    constructor
    · rintro (⟨front, back, rfl, hback⟩ | ⟨hnone, hkey⟩)
      · exact ⟨(key, w) :: front, back, rfl, hback⟩
      · split at hkey
        · next heq =>
          cases heq
          cases hkey
          exact ⟨[], members, rfl, hnone⟩
        · cases hkey
    · rintro ⟨_ | ⟨m, front⟩, back, heq, hback⟩
      · cases heq
        exact .inr ⟨hback, if_pos rfl⟩
      · cases heq
        exact .inl ⟨front, back, rfl, hback⟩

/-- The members that are left are the last ones of their names. -/
theorem lookup_dropShadowed (name : String) (members : List (String × Json)) :
    (dropShadowed members).lookup name = last? name members := by
  induction members with
  | nil => rfl
  | cons entry members ih =>
    obtain ⟨key, v⟩ := entry
    rw [last?_cons, dropShadowed]
    by_cases hshadowed : members.any (·.1 = key)
    · rw [if_pos hshadowed, ih]
      by_cases hkey : key = name
      · -- the one in front has a later one of its name
        subst hkey
        obtain ⟨m, hm, hname⟩ := List.any_eq_true.mp hshadowed
        cases hlast : last? key members with
        | some w => rfl
        | none => exact absurd (of_decide_eq_true hname) (last?_eq_none_iff.mp hlast m hm)
      · rw [if_neg hkey, Option.or_none]
    · rw [if_neg hshadowed, List.lookup_cons]
      by_cases hkey : key = name
      · subst hkey
        have hnone : last? key members = none := by
          rw [last?_eq_none_iff]
          intro m hm hname
          exact hshadowed (List.any_eq_true.mpr ⟨m, hm, decide_eq_true hname⟩)
        simp [hnone]
      · have hbeq : (name == key) = false := by
          rw [beq_eq_false_iff_ne]
          exact Ne.symm hkey
        rw [hbeq, ih, if_neg hkey, Option.or_none]

theorem dropShadowed_sublist (members : List (String × Json)) :
    (dropShadowed members).Sublist members := by
  induction members with
  | nil => exact .slnil
  | cons entry members ih =>
    rw [dropShadowed]
    split
    · exact ih.cons entry
    · exact ih.cons_cons entry

theorem distinct_dropShadowed (members : List (String × Json)) :
    Distinct (dropShadowed members) := by
  induction members with
  | nil => exact List.nodup_nil
  | cons entry members ih =>
    obtain ⟨key, v⟩ := entry
    rw [dropShadowed]
    split
    · exact ih
    · next hshadowed =>
      refine List.nodup_cons.mpr ⟨?_, ih⟩
      intro hmem
      obtain ⟨m, hm, hname⟩ := List.mem_map.mp hmem
      have hlater := (dropShadowed_sublist members).subset hm
      exact hshadowed (List.any_eq_true.mpr ⟨m, hlater, decide_eq_true hname⟩)

theorem lastWinsItems_eq (items : List Json) : lastWinsItems items = items.map lastWins := by
  induction items with
  | nil => rfl
  | cons item items ih => rw [lastWinsItems, ih, List.map_cons]

theorem lastWinsMembers_eq (members : List (String × Json)) :
    lastWinsMembers members = members.map fun m => (m.1, lastWins m.2) := by
  induction members with
  | nil => rfl
  | cons entry members ih => rw [lastWinsMembers, ih, List.map_cons]

/-! ## Records -/

/-- What the fields of a record hold, which has these fields in this order. -/
inductive Record (names : List String) : Json → (String → Option Json) → Prop where
  | object (members : List (String × Json)) : Record names (.object members) (last? · members)
  | array {items : List Json} (h : items.length ≤ names.length) :
      Record names (.array items) fun name => items[names.idxOf name]?

theorem values_eq_map_idxOf {names : List String} (hnames : names.Nodup) (items : List α)
    (h : items.length ≤ names.length) :
    items.map some ++ List.replicate (names.length - items.length) none =
      names.map fun name => items[names.idxOf name]? := by
  refine List.ext_getElem (by simp; omega) ?_
  intro i hi hi'
  rw [List.length_map] at hi'
  rw [List.getElem_map, hnames.idxOf_getElem]
  by_cases hitem : i < items.length
  · rw [List.getElem_append_left (by simpa using hitem), List.getElem_map,
      List.getElem?_eq_getElem hitem]
  · rw [List.getElem_append_right (by simpa using hitem), List.getElem_replicate,
      List.getElem?_eq_none (by omega)]

/-- The fields of a record are read. -/
theorem fields?_lastWins (names : List String) (hnames : names.Nodup) {v : Json}
    {values : List (Option Json)} : v.lastWins.fields? names = some values ↔
      ∃ field, Record names v field ∧ values = names.map fun name => (field name).map lastWins := by
  cases v with
  | object members =>
    have hlast : ∀ name, (dropShadowed (lastWinsMembers members)).lookup name =
        (last? name members).map lastWins := by
      intro name
      rw [lookup_dropShadowed, lastWinsMembers_eq, last?_map]
    rw [lastWins, fields?_object (distinct_dropShadowed _)]
    simp only [hlast, Option.some.injEq]
    constructor
    · rintro rfl
      exact ⟨_, .object members, rfl⟩
    · rintro ⟨field, ⟨⟩, rfl⟩
      rfl
  | array items =>
    rw [lastWins, lastWinsItems_eq, fields?, List.length_map]
    have hvalues : ∀ h : items.length ≤ names.length,
        (items.map lastWins).map some ++ List.replicate (names.length - items.length) none =
          names.map fun name => (items[names.idxOf name]?).map lastWins := by
      intro h
      have heq := values_eq_map_idxOf hnames (items.map lastWins) (by simpa using h)
      simpa only [List.length_map, List.getElem?_map] using heq
    constructor
    · intro h
      split at h
      · next hlen =>
        cases h
        exact ⟨_, .array hlen, hvalues hlen⟩
      · cases h
    · rintro ⟨field, hrecord, rfl⟩
      cases hrecord with
      | array hlen => rw [if_pos hlen, hvalues hlen]
  | _ =>
    simp only [lastWins, fields?, reduceCtorEq, false_iff]
    rintro ⟨field, ⟨⟩, -⟩

/-- What is made of the fields of a record. -/
theorem bind_fields?_lastWins (names : List String) (hnames : names.Nodup) {v : Json}
    {k : List (Option Json) → Option α} {a : α} : v.lastWins.fields? names >>= k = some a ↔
      ∃ field, Record names v field ∧
        k (names.map fun name => (field name).map lastWins) = some a := by
  rw [Option.bind_eq_bind, Option.bind_eq_some_iff]
  constructor
  · rintro ⟨values, hvalues, h⟩
    obtain ⟨field, hrecord, rfl⟩ := (fields?_lastWins names hnames).mp hvalues
    exact ⟨field, hrecord, h⟩
  · rintro ⟨field, hrecord, h⟩
    exact ⟨_, (fields?_lastWins names hnames).mpr ⟨field, hrecord, rfl⟩, h⟩

/-- A field that may be absent, and then stands for a default. -/
inductive Given (is : Json → α → Prop) (default : α) : Option Json → α → Prop where
  | absent : Given is default none default
  | given {v : Json} {a : α} (h : is v a) : Given is default (some v) a

theorem string?_lastWins {v : Json} {s : String} :
    v.lastWins.string? = some s ↔ v = .string s := by
  rw [string?_eq_some_iff]
  cases v <;> simp [lastWins]

theorem strings?_lastWins {v : Json} {texts : List String} :
    v.lastWins.strings? = some texts ↔ v = .array (texts.map .string) := by
  rw [strings?_eq_some_iff]
  cases v with
  | array items =>
    rw [lastWins, lastWinsItems_eq, array.injEq, array.injEq]
    induction items generalizing texts with
    | nil => cases texts <;> simp
    | cons item items ih =>
      cases texts with
      | nil => simp
      | cons text texts =>
        rw [List.map_cons, List.map_cons, List.cons.injEq, List.cons.injEq, ih]
        cases item <;> simp [lastWins]
  | _ => simp [lastWins]

theorem int64?_lastWins {v : Json} {n : Int64} :
    v.lastWins.int64? = some n ↔ v = .integer n.toInt := by
  cases v with
  | integer m =>
    change (if Int64.minValue.toInt ≤ m ∧ m ≤ Int64.maxValue.toInt then some (Int64.ofInt m)
      else none) = some n ↔ _
    rw [integer.injEq]
    constructor
    · intro h
      split at h
      · next hrange =>
        cases h
        rw [Int64.toInt_minValue, Int64.toInt_maxValue] at hrange
        exact (Int64.toInt_ofInt_of_le hrange.1 (by omega)).symm
      · cases h
    · rintro rfl
      rw [if_pos ⟨n.minValue_le_toInt, n.toInt_le⟩, Int64.ofInt_toInt]
  | _ => exact iff_of_false nofun nofun

theorem orDefault_lastWins {read : Json → Option α} {is : Json → α → Prop} {default : α}
    (h : ∀ {v : Json} {a : α}, read v.lastWins = some a ↔ is v a) {v : Option Json} {a : α} :
    orDefault read default (v.map lastWins) = some a ↔ Given is default v a := by
  cases v with
  | none =>
    rw [Option.map_none, orDefault, Option.some.injEq]
    constructor
    · rintro rfl
      exact .absent
    · rintro ⟨⟩
      rfl
  | some v =>
    rw [Option.map_some, orDefault, h]
    constructor
    · exact .given
    · rintro ⟨⟩
      assumption

end Json

/-! ## What answers describe -/

/-- A record of a user. -/
inductive User.Describes : Json → User → Prop where
  | mk {v : Json} {field : String → Option Json} {id name : String}
      (h : Json.Record ["id", "name"] v field) (hid : field "id" = some (.string id))
      (hname : field "name" = some (.string name)) : Describes v ⟨id, name⟩

/-- A record of a channel. -/
inductive Channel.Describes : Json → Channel → Prop where
  | mk {v : Json} {field : String → Option Json} {id name creator : String} {created : Int64}
      {members : List String}
      (h : Json.Record ["id", "name", "created", "creator", "members"] v field)
      (hid : field "id" = some (.string id)) (hname : field "name" = some (.string name))
      (hcreated : Json.Given (fun w n => w = .integer n.toInt) 0 (field "created") created)
      (hcreator : Json.Given (fun w s => w = .string s) "" (field "creator") creator)
      (hmembers : Json.Given (fun w l => w = .array (l.map .string)) [] (field "members")
        members) : Describes v ⟨id, name, created, creator, members⟩

namespace Slack

/-- A record of a session: the address of its stream, and a user that is the bot. -/
inductive Session.Describes : Json → Session → Prop where
  | mk {v me : Json} {field : String → Option Json} {url : String} {user : User}
      (h : Json.Record ["url", "self"] v field) (hurl : field "url" = some (.string url))
      (hself : field "self" = some me) (hme : User.Describes me user) :
      Describes v ⟨url, ⟨user.id, user.name⟩⟩

/-- A record about a channel. -/
inductive AboutChannel : Json → Channel → Prop where
  | mk {v inner : Json} {field : String → Option Json} {channel : Channel}
      (h : Json.Record ["channel"] v field) (hinner : field "channel" = some inner)
      (hchannel : Channel.Describes inner channel) : AboutChannel v channel

/-- Where the next page starts, empty if there is none. -/
inductive NextCursor : Option Json → String → Prop where
  | absent : NextCursor none ""
  | null : NextCursor (some .null) ""
  | record {v : Json} {field : String → Option Json} {cursor : String}
      (h : Json.Record ["next_cursor"] v field)
      (hcursor : Json.Given (fun w s => w = .string s) "" (field "next_cursor") cursor) :
      NextCursor (some v) cursor

/-- A record of a page of members. -/
inductive MembersPage.Describes : Json → MembersPage → Prop where
  | mk {v : Json} {field : String → Option Json} {members : List String} {cursor : String}
      (h : Json.Record ["members", "response_metadata"] v field)
      (hmembers : field "members" = some (.array (members.map .string)))
      (hcursor : NextCursor (field "response_metadata") cursor) : Describes v ⟨members, cursor⟩

end Slack

/-! ## What is read of them -/

open Json (bind_fields?_lastWins string?_lastWins strings?_lastWins int64?_lastWins
  orDefault_lastWins)

theorem User.ofJson?_lastWins {v : Json} {user : User} :
    User.ofJson? v.lastWins = some user ↔ Describes v user := by
  rw [ofJson?]
  refine (bind_fields?_lastWins ["id", "name"] (by decide)).trans ?_
  constructor
  · rintro ⟨field, hrecord, h⟩
    simp only [List.map_cons, List.map_nil] at h
    cases hid : field "id" <;> cases hname : field "name" <;>
      simp only [hid, hname, Option.map_some, Option.map_none, reduceCtorEq] at h
    simp only [Option.bind_eq_bind, Option.bind_eq_some_iff, string?_lastWins, Option.pure_def,
      Option.some.injEq] at h
    obtain ⟨id, rfl, name, rfl, rfl⟩ := h
    exact .mk hrecord hid hname
  · rintro ⟨hrecord, hid, hname⟩
    refine ⟨_, hrecord, ?_⟩
    simp only [List.map_cons, List.map_nil, hid, hname, Option.map_some]
    rfl

theorem Channel.ofJson?_lastWins {v : Json} {channel : Channel} :
    Channel.ofJson? v.lastWins = some channel ↔ Describes v channel := by
  rw [ofJson?]
  have hnames : ["id", "name", "created", "creator", "members"].Nodup := by decide
  refine (bind_fields?_lastWins _ hnames).trans ?_
  constructor
  · rintro ⟨field, hrecord, h⟩
    simp only [List.map_cons, List.map_nil] at h
    cases hid : field "id" <;> cases hname : field "name" <;>
      simp only [hid, hname, Option.map_some, Option.map_none, reduceCtorEq] at h
    simp only [Option.bind_eq_bind, Option.bind_eq_some_iff, string?_lastWins,
      orDefault_lastWins int64?_lastWins, orDefault_lastWins string?_lastWins,
      orDefault_lastWins strings?_lastWins, Option.pure_def, Option.some.injEq] at h
    obtain ⟨id, rfl, name, rfl, created, hcreated, creator, hcreator, members, hmembers, rfl⟩ := h
    exact .mk hrecord hid hname hcreated hcreator hmembers
  · rintro ⟨hrecord, hid, hname, hcreated, hcreator, hmembers⟩
    refine ⟨_, hrecord, ?_⟩
    simp only [List.map_cons, List.map_nil, hid, hname, Option.map_some,
      (orDefault_lastWins int64?_lastWins).mpr hcreated,
      (orDefault_lastWins string?_lastWins).mpr hcreator,
      (orDefault_lastWins strings?_lastWins).mpr hmembers]
    rfl

namespace Slack

theorem Session.ofJson?_lastWins {v : Json} {session : Session} :
    Session.ofJson? v.lastWins = some session ↔ Describes v session := by
  rw [ofJson?]
  refine (bind_fields?_lastWins ["url", "self"] (by decide)).trans ?_
  constructor
  · rintro ⟨field, hrecord, h⟩
    simp only [List.map_cons, List.map_nil] at h
    cases hurl : field "url" <;> cases hself : field "self" <;>
      simp only [hurl, hself, Option.map_some, Option.map_none, reduceCtorEq] at h
    simp only [Option.bind_eq_bind, Option.bind_eq_some_iff, string?_lastWins, Identity.ofJson?,
      Option.map_eq_some_iff, User.ofJson?_lastWins, Option.pure_def, Option.some.injEq] at h
    obtain ⟨url, rfl, _, ⟨user, hme, rfl⟩, rfl⟩ := h
    exact .mk hrecord hurl hself hme
  · rintro ⟨hrecord, hurl, hself, hme⟩
    refine ⟨_, hrecord, ?_⟩
    simp only [List.map_cons, List.map_nil, hurl, hself, Option.map_some, Identity.ofJson?,
      User.ofJson?_lastWins.mpr hme]
    rfl

theorem channelOf?_lastWins {v : Json} {channel : Channel} :
    channelOf? v.lastWins = some channel ↔ AboutChannel v channel := by
  rw [channelOf?]
  refine (bind_fields?_lastWins ["channel"] (by decide)).trans ?_
  constructor
  · rintro ⟨field, hrecord, h⟩
    simp only [List.map_cons, List.map_nil] at h
    cases hinner : field "channel" <;>
      simp only [hinner, Option.map_some, Option.map_none, reduceCtorEq] at h
    exact .mk hrecord hinner (Channel.ofJson?_lastWins.mp h)
  · rintro ⟨hrecord, hinner, hchannel⟩
    refine ⟨_, hrecord, ?_⟩
    simp only [List.map_cons, List.map_nil, hinner, Option.map_some]
    exact Channel.ofJson?_lastWins.mpr hchannel

theorem cursor?_lastWins {v : Option Json} {cursor : String} :
    cursor? (v.map Json.lastWins) = some cursor ↔ NextCursor v cursor := by
  have hrecord : ∀ w : Json, w ≠ .null →
      (cursor? (some w.lastWins) = some cursor ↔ NextCursor (some w) cursor) := by
    intro w hw
    have hnull : w.lastWins ≠ .null := by
      cases w with
      | null => exact absurd rfl hw
      | _ => nofun
    unfold cursor?
    split
    · next h => cases h
    · next h => exact absurd (Option.some.inj h) hnull
    next h =>
    obtain rfl := Option.some.inj h
    refine (bind_fields?_lastWins ["next_cursor"] (by decide)).trans ?_
    constructor
    · rintro ⟨field, hrecord, h⟩
      exact .record hrecord ((orDefault_lastWins string?_lastWins).mp h)
    · intro h
      cases h with
      | null => exact absurd rfl hw
      | record hrecord hgiven =>
        exact ⟨_, hrecord, (orDefault_lastWins string?_lastWins).mpr hgiven⟩
  rcases v with _ | v
  · rw [Option.map_none, cursor?, Option.some.injEq]
    constructor
    · rintro rfl
      exact .absent
    · rintro ⟨⟩
      rfl
  · by_cases hv : v = .null
    · subst hv
      constructor
      · rintro ⟨⟩
        exact .null
      · intro h
        cases h with
        | null => rfl
        | record h => cases h
    · exact hrecord v hv

theorem MembersPage.ofJson?_lastWins {v : Json} {page : MembersPage} :
    MembersPage.ofJson? v.lastWins = some page ↔ Describes v page := by
  rw [ofJson?]
  refine (bind_fields?_lastWins ["members", "response_metadata"] (by decide)).trans ?_
  constructor
  · rintro ⟨field, hrecord, h⟩
    simp only [List.map_cons, List.map_nil] at h
    cases hmembers : field "members" <;>
      simp only [hmembers, Option.map_some, Option.map_none, reduceCtorEq] at h
    simp only [Option.bind_eq_bind, Option.bind_eq_some_iff, strings?_lastWins, cursor?_lastWins,
      Option.pure_def, Option.some.injEq] at h
    obtain ⟨members, rfl, cursor, hcursor, rfl⟩ := h
    exact .mk hrecord hmembers hcursor
  · rintro ⟨hrecord, hmembers, hcursor⟩
    refine ⟨_, hrecord, ?_⟩
    simp only [List.map_cons, List.map_nil, hmembers, Option.map_some,
      strings?_lastWins.mpr rfl, cursor?_lastWins.mpr hcursor]
    rfl

end Slack

end Herald
