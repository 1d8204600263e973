import Herald.Http
import Herald.Json.Reader
import Herald.Workspace

/-!
# Answers of the Web API

Every answer is checked in one fixed order: the request was answered at all, the status is a
success, the body is JSON, it is an object that says `"ok": true`, and it has the shape that the
method promises. `accept` makes the checks but the last one, and `receive` makes them all. Of members
with one name the last one counts.
-/

namespace Herald.Slack

/-- The methods of the Web API that the bot uses. -/
inductive Method where
  | connect
  | userInfo
  | channelInfo
  | channelMembers
  | postMessage
  deriving Repr, DecidableEq

/-- The name of a method. -/
def Method.name : Method → String
  | connect => "rtm.connect"
  | userInfo => "users.info"
  | channelInfo => "conversations.info"
  | channelMembers => "conversations.members"
  | postMessage => "chat.postMessage"

/-- A JSON body. -/
def body? (bytes : List UInt8) : Option Json :=
  (Text.Utf8.decode? bytes).bind (Json.read? Json.depthLimit)

/-- The last member of a name, if a value is an object that has one. -/
def member? (name : String) : Json → Option Json
  | .object members => Json.last? name members
  | _ => none

/-- Whether a body says that the request was done. -/
def saysOk (body : Json) : Bool :=
  match member? "ok" body with
  | some (.bool true) => true
  | _ => false

/-- The reason that a body gives for not doing what was asked. -/
def reasonOf (body : Json) : String :=
  match member? "error" body with
  | some (.string reason) => reason
  | _ => "unknown"

/-- The body of an answer that says the request was done. -/
def accept (method : Method) : Http.Outcome → Except Failure Json
  | .unanswered => .error (.outside (.sending method.name))
  | .answered response =>
    if Http.isSuccess response.status then
      match body? response.body with
      | none => .error (.outside (.readingAnswer method.name))
      | some body =>
        if saysOk body then .ok body else .error (.of (.refused method.name (reasonOf body)))
    else .error (.of (.badStatus method.name (Http.statusText response.status) response.text))

/-- What an answer says when it was accepted: `read` finds it in the body. -/
def receive (method : Method) (read : Json → Option α) (outcome : Http.Outcome) :
    Except Failure α := do
  let body ← accept method outcome
  match read body.lastWins with
  | some a => .ok a
  | none => .error (.outside (.readingShape method.name))

/-- What a session is: where its stream is, and who the bot is. -/
structure Session where
  url : String
  me : Identity
  deriving Repr, DecidableEq

/-- One page of the members of a channel, and where the next one starts; empty after the last. -/
structure MembersPage where
  members : List String
  cursor : String
  deriving Repr, DecidableEq

/-- Reads a session. -/
def Session.ofJson? (body : Json) : Option Session := do
  match ← body.fields? ["url", "self"] with
  | [some url, some me] => return ⟨← url.string?, ← Identity.ofJson? me⟩
  | _ => none

/-- Reads where the next page starts. -/
def cursor? : Option Json → Option String
  | none => some ""
  | some .null => some ""
  | some metadata => do
    match ← metadata.fields? ["next_cursor"] with
    | [cursor] => Json.orDefault Json.string? "" cursor
    | _ => none

/-- Reads a page of members. -/
def MembersPage.ofJson? (body : Json) : Option MembersPage := do
  match ← body.fields? ["members", "response_metadata"] with
  | [some members, metadata] => return ⟨← members.strings?, ← cursor? metadata⟩
  | _ => none

/-- Reads the user that an answer is about. -/
def userOf? (body : Json) : Option User := do
  match ← body.fields? ["user"] with
  | [some user] => User.ofJson? user
  | _ => none

/-- Reads the channel that an answer is about. -/
def channelOf? (body : Json) : Option Channel := do
  match ← body.fields? ["channel"] with
  | [some channel] => Channel.ofJson? channel
  | _ => none

end Herald.Slack
