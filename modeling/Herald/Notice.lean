import Herald.Event
import Herald.Job
import Herald.Action.Stats

/-!
# Notices

`Notice.render` makes the messages that tell a workspace of an event. Most of them go to the
announce channel; those about a member joining or leaving go to the channel where it happened.
Messages of users and events of no interest have none.
-/

namespace Herald.Notice

/-- The edge of the picture of a new emoji. -/
def emojiColor : String := "#36a64f"

/-- The names of a channel and a user. Both are looked up at once and in any case, and the failure
says which of them could not be found. -/
def channelAndUser (channel user : String) : Attempt (String × String) := do
  let (foundChannel, foundUser) ← Attempt.join (.channel channel) (.user user)
  match foundChannel, foundUser with
  | .ok c, .ok u => return (c.name, u.name)
  | .ok _, .error _ => Attempt.fail (.userNotFound user)
  | .error _, .ok _ => Attempt.fail (.channelNotFound channel)
  | .error _, .error _ => Attempt.fail (.neitherFound user channel)

/-- The messages about an event. -/
def render (announce : String) : Event → Attempt (List Message)
  | .emojiChanged (.add name value) =>
    return [({ channel := announce, text := ":" ++ name ++ ":" } : Message).withAttachment
      ⟨emojiColor, name, value⟩]
  | .emojiChanged (.remove names) =>
    return names.map fun name => { channel := announce, text := ":" ++ name ++ ": has been removed" }
  | .channelArchive channel user => do
    let (channelName, userName) ← channelAndUser channel user
    return [{
      channel := announce
      text := ":skull: channel(#" ++ channelName ++ ") has been archived by @" ++ userName }]
  | .channelUnarchive channel user => do
    let (channelName, userName) ← channelAndUser channel user
    return [{
      channel := announce
      text := ":zombie: channel(#" ++ channelName ++ ") has been unarchived by @" ++ userName }]
  | .channelCreated channel =>
    match channel.creator with
    | none => Attempt.fail (.creatorUnnamed channel.name)
    | some id => do
      let creator ← Attempt.user id
      return [{
        channel := announce
        text := ":baby: channel created. #" ++ channel.name ++ " by @" ++ creator.name }]
  | .channelDeleted channel =>
    return [{
      channel := announce
      text := ":cop: channel(id: " ++ channel ++ ") has been *deleted* by *admin*" }]
  | .channelRename channel =>
    return [{
      channel := announce
      text := ":writing_hand: one channel has been renamed to #" ++ channel.name }]
  | .memberJoined user channel => do
    let joined ← Attempt.user user
    return [{ channel, text := ":+1: Welcome @" ++ joined.name }]
  | .memberLeft user channel => do
    let info ← Attempt.channel channel
    let (creator, left) ← Attempt.tryJoin (.user info.creator) (.user user)
    return [{
      channel
      text := ":loudspeaker: @" ++ creator.name ++ " 抜け忍を検知 => @" ++ left.name }]
  | .fileCreated file =>
    return [{
      channel := announce
      text := ":page_facing_up: a file has been uploaded (id: " ++ file ++ ")" }]
  | .emojiChanged .other | .message _ | .other => return []

/-- The text that greets the workspace when a session starts. -/
def hello (name version : String) : String :=
  ":information_source: " ++ name ++ "(version " ++ version ++ ")"

/-- The greeting of a bot in the announce channel. -/
def greeting (announce : String) (me : Identity) : Message :=
  { channel := announce, text := hello me.name Herald.version }

end Herald.Notice
