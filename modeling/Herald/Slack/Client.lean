import Herald.Config
import Herald.Json.Writer
import Herald.Slack.Answer

/-!
# The client of the Web API

The client knows the base address and the token. A method of the API is the last part of the
address; its parameters are query pairs, or a JSON body for a post. Every request carries the
token, after the user and the password that the base address may name. A request that cannot be
built counts as one that is not answered.

A call is a dialogue: it asks one request after another, and each outcome either leads to the next
one or ends the call. Only the look-up of a channel asks more than one: after the channel itself it
asks for the members, page by page.
-/

namespace Herald.Slack

/-- The client. -/
structure Client where
  base : String
  token : String
  deriving Repr, DecidableEq

/-- A request for a method; absent if it cannot be built. -/
structure Exchange where
  method : Method
  request : Option Http.Request
  deriving Repr, DecidableEq

namespace Client

/-- The client for the given settings. Slashes at the end of the base address do not count. -/
def ofSettings (settings : SlackSettings) : Client where
  base := String.ofList ((settings.apiBase.toList.reverse.dropWhile (· = '/')).reverse)
  token := settings.token

/-- The authorization for a user and a password. -/
def basicAuthorization (user : List Char) (password : Option (List Char)) : String :=
  let pair := user ++ ':' :: password.getD []
  "Basic " ++ String.ofList (Text.Base64.encode (Text.Utf8.encode pair))

/-- The request for an address. -/
def request? (c : Client) (kind : Http.Method) (url : Url) (body : Option String) :
    Option Http.Request :=
  let bearer := "Bearer " ++ c.token
  let (url, basic) := match url.credentials with
    | some (user, password) => (url.withoutUser, [basicAuthorization user password])
    | none => (url, [])
  if Http.isHeaderValue bearer ∧ url.toText.length ≤ Http.addressLimit then
    some ⟨kind, url, basic ++ [bearer], body⟩
  else none

/-- The address of a method. -/
def url? (c : Client) (method : Method) : Option Url :=
  Url.ofText? (c.base ++ "/" ++ method.name)

/-- Asks for a method with query pairs. -/
def get (c : Client) (method : Method) (pairs : List (String × String)) : Exchange where
  method := method
  request := do c.request? .get ((← c.url? method).addPairs pairs) none

/-- Asks for a method with a JSON body. -/
def post (c : Client) (method : Method) (body : Json) : Exchange where
  method := method
  request := do c.request? .post (← c.url? method) (some body.toText)

end Client

/-- A call that asks requests until it has a result. -/
structure Dialogue (σ α : Type) where
  ask : σ → Exchange
  next : σ → Http.Outcome → σ ⊕ Except Failure α

/-- How far a dialogue has come. -/
inductive Progress (σ α : Type) where
  | asking (s : σ)
  | finished (result : Except Failure α)

/-- Runs a dialogue over the outcomes of its requests, in order: the requests that got one, and how
far it came. -/
def Dialogue.run (d : Dialogue σ α) (s : σ) : List Http.Outcome → List Exchange × Progress σ α
  | [] => ([], .asking s)
  | outcome :: rest =>
    match d.next s outcome with
    | .inl s' =>
      let (asked, progress) := d.run s' rest
      (d.ask s :: asked, progress)
    | .inr result => ([d.ask s], .finished result)

/-- A call of one request. -/
def Dialogue.single (exchange : Exchange) (read : Http.Outcome → Except Failure α) :
    Dialogue Unit α where
  ask _ := exchange
  next _ outcome := .inr (read outcome)

/-- Starts a session. -/
def Client.connect (c : Client) : Dialogue Unit Session :=
  .single (c.get .connect []) (receive .connect Session.ofJson?)

/-- Looks up a user. -/
def Client.user (c : Client) (id : String) : Dialogue Unit User :=
  .single (c.get .userInfo [("user", id)])
    fun outcome => inContext (.fetchingUser id) (receive .userInfo userOf? outcome)

/-- Posts a message. -/
def Client.postMessage (c : Client) (m : Message) : Dialogue Unit Unit :=
  .single (c.post .postMessage m.toJson)
    fun outcome => receive .postMessage (fun _ => some ()) outcome

/-- How far the look-up of a channel has come. -/
inductive ChannelLookup where
  | info
  /-- The members so far, and where the next page starts; empty for the first. -/
  | members (channel : Channel) (gathered : List String) (cursor : String)

/-- The pairs that ask for a page of the members of a channel. -/
def memberPairs (id cursor : String) : List (String × String) :=
  [("channel", id), ("limit", "1000")] ++ if cursor.isEmpty then [] else [("cursor", cursor)]

/-- Looks up a channel and all of its members. -/
def Client.channel (c : Client) (id : String) : Dialogue ChannelLookup Channel where
  ask
    | .info => c.get .channelInfo [("channel", id)]
    | .members _ _ cursor => c.get .channelMembers (memberPairs id cursor)
  next
    | .info, outcome =>
      match inContext (.fetchingChannel id) (receive .channelInfo channelOf? outcome) with
      | .error f => .inr (.error f)
      | .ok channel => .inl (.members channel [] "")
    | .members channel gathered _, outcome =>
      match receive .channelMembers MembersPage.ofJson? outcome with
      | .error f => .inr (.error f)
      | .ok page =>
        let gathered := gathered ++ page.members
        if page.cursor.isEmpty then .inr (.ok { channel with members := gathered })
        else .inl (.members channel gathered page.cursor)

end Herald.Slack
