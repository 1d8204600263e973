import Herald.Workspace
import Herald.Json.Fields
import Herald.Json.Reader

/-!
# Events

The stream reports events as JSON records tagged by `type`. Those that the bot reacts to have a
constructor each, and every other type is `other`. A change of the emoji is a record tagged by
`subtype`, in which a whole number may stand for the place of the kind among its kinds.
-/

namespace Herald

/-- A message as the stream reports it. Messages of the system have a subtype. -/
structure MessageEvent where
  subtype : Option String
  user : Option String
  channel : Option String
  text : Option String
  deriving Repr, DecidableEq

/-- A channel as an event names it. -/
structure ChannelRef where
  id : String
  name : String
  creator : Option String
  deriving Repr, DecidableEq

/-- What happened to the emoji of the workspace. -/
inductive EmojiChange where
  | add (name value : String)
  | remove (names : List String)
  | other
  deriving Repr, DecidableEq

/-- What the stream reports. -/
inductive Event where
  | message (m : MessageEvent)
  | channelArchive (channel user : String)
  | channelUnarchive (channel user : String)
  | channelCreated (channel : ChannelRef)
  | channelDeleted (channel : String)
  | channelRename (channel : ChannelRef)
  | emojiChanged (change : EmojiChange)
  | memberJoined (user channel : String)
  | memberLeft (user channel : String)
  | fileCreated (file : String)
  | other
  deriving Repr, DecidableEq

/-- The message, if a user typed it and it is complete. -/
def MessageEvent.typed? (m : MessageEvent) : Option Incoming :=
  match m with
  | ⟨none, some user, some channel, some text⟩ => some ⟨user, channel, text⟩
  | _ => none

/-- Reads the reference to a channel, whose creator may be absent or null. -/
def ChannelRef.ofJson? (value : Json) : Option ChannelRef := do
  match ← value.fields? ["id", "name", "creator"] with
  | [some id, some name, creator] =>
    return ⟨← id.string?, ← name.string?, ← Json.optionalString? creator⟩
  | _ => none

/-- Reads a message, of which every field may be absent or null. -/
def MessageEvent.ofJson? (value : Json) : Option MessageEvent := do
  match ← value.fields? ["subtype", "user", "channel", "text"] with
  | [subtype, user, channel, text] =>
    return ⟨← Json.optionalString? subtype, ← Json.optionalString? user,
      ← Json.optionalString? channel, ← Json.optionalString? text⟩
  | _ => none

namespace Json

/-- The texts of a record with two fields. -/
def twoStrings? (first second : String) (value : Json) : Option (String × String) := do
  match ← value.fields? [first, second] with
  | [some a, some b] => return (← a.string?, ← b.string?)
  | _ => none

/-- The one field of a record. -/
def oneField? (name : String) (value : Json) : Option Json := do
  match ← value.fields? [name] with
  | [some a] => return a
  | _ => none

/-- A record that has nothing to read: any object, and the array without items. -/
def isVacant : Json → Bool
  | .object _ => true
  | .array [] => true
  | _ => false

end Json

namespace EmojiChange

/-- The kinds of change, in their order. -/
inductive Kind where
  | add
  | remove
  | other

/-- The kind that a tag names, or whose place it gives. -/
def Kind.ofTag? : Json → Option Kind
  | .string "add" => some .add
  | .string "remove" => some .remove
  | .string _ => some .other
  | .integer 0 => some .add
  | .integer 1 => some .remove
  | .integer n => if n < 0 then none else some .other
  | _ => none

/-- Reads a change. -/
def ofJson? (value : Json) : Option EmojiChange := do
  let (tag, body) ← value.untag? "subtype"
  match ← Kind.ofTag? tag with
  | .add => do
    let (name, value) ← body.twoStrings? "name" "value"
    return .add name value
  | .remove => return .remove (← (← body.oneField? "names").strings?)
  | .other => if body.isVacant then return .other else none

end EmojiChange

namespace Event

/-- Reads the event of a type. -/
def ofTyped? (type : String) (body : Json) : Option Event :=
  match type with
  | "message" => .message <$> MessageEvent.ofJson? body
  | "channel_archive" => do
    let (channel, user) ← body.twoStrings? "channel" "user"
    return .channelArchive channel user
  | "channel_unarchive" => do
    let (channel, user) ← body.twoStrings? "channel" "user"
    return .channelUnarchive channel user
  | "channel_created" => do return .channelCreated (← ChannelRef.ofJson? (← body.oneField? "channel"))
  | "channel_rename" => do return .channelRename (← ChannelRef.ofJson? (← body.oneField? "channel"))
  | "channel_deleted" => do return .channelDeleted (← (← body.oneField? "channel").string?)
  | "emoji_changed" => .emojiChanged <$> EmojiChange.ofJson? body
  | "member_joined_channel" => do
    let (user, channel) ← body.twoStrings? "user" "channel"
    return .memberJoined user channel
  | "member_left_channel" => do
    let (user, channel) ← body.twoStrings? "user" "channel"
    return .memberLeft user channel
  | "file_created" => do return .fileCreated (← (← (← body.oneField? "file").oneField? "id").string?)
  | _ => if body.isVacant then some .other else none

/-- Reads an event. -/
def ofJson? (value : Json) : Option Event := do
  let (tag, body) ← value.untag? "type"
  ofTyped? (← tag.string?) body

/-- Reads the event of one frame of the stream. -/
def parse (frame : String) : Except Failure Event :=
  match (Json.ofText? frame).bind ofJson? with
  | some event => .ok event
  | none => .error (.outside .readingEvent)

/-- The name of the type of an event. -/
def kind : Event → String
  | message _ => "message"
  | channelArchive .. => "channel_archive"
  | channelUnarchive .. => "channel_unarchive"
  | channelCreated _ => "channel_created"
  | channelDeleted _ => "channel_deleted"
  | channelRename _ => "channel_rename"
  | emojiChanged _ => "emoji_changed"
  | memberJoined .. => "member_joined_channel"
  | memberLeft .. => "member_left_channel"
  | fileCreated _ => "file_created"
  | other => "other"

end Event

end Herald
