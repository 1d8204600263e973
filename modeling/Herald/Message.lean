import Herald.Json.Basic

/-!
# Outgoing messages

A message starts as one the bot posts under its own name, with `@name` links on. A persona is
another name and another icon to post it under, and attachments are added one after another. In JSON
the fields `username`, `icon_emoji` and `attachments` are left out while there are none.
-/

namespace Herald

/-- A picture with a title and a coloured edge, shown below a message. -/
structure Attachment where
  color : String
  title : String
  imageUrl : String
  deriving Repr, DecidableEq

/-- A message to post. -/
structure Message where
  channel : String
  text : String
  /-- Whether it is posted under the bot's own name. -/
  asUser : Bool := true
  linkNames : Bool := true
  username : Option String := none
  icon : Option String := none
  attachments : List Attachment := []
  deriving Repr, DecidableEq

namespace Message

/-- The message under another name and icon. -/
def withPersona (m : Message) (username icon : String) : Message :=
  { m with asUser := false, username := some username, icon := some icon }

/-- The message with one more attachment. -/
def withAttachment (m : Message) (attachment : Attachment) : Message :=
  { m with attachments := m.attachments ++ [attachment] }

end Message

/-- An attachment as JSON. -/
def Attachment.toJson (a : Attachment) : Json :=
  .object [("color", .string a.color), ("title", .string a.title), ("image_url", .string a.imageUrl)]

namespace Message

/-- A message as JSON. -/
def toJson (m : Message) : Json :=
  .object <|
    [("text", .string m.text), ("channel", .string m.channel), ("as_user", .bool m.asUser),
      ("link_names", .bool m.linkNames)]
    ++ (m.username.map fun name => ("username", Json.string name)).toList
    ++ (m.icon.map fun icon => ("icon_emoji", Json.string icon)).toList
    ++ (if m.attachments.isEmpty then []
      else [("attachments", .array (m.attachments.map Attachment.toJson))])

end Message

end Herald
