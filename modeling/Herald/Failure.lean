/-!
# Failures

What can go wrong is a cause, and what the bot was doing at that moment is a list of contexts
around it, outermost first. Wording lives in `Cause.text` and `Context.text` alone:
`Failure.message` joins the contexts and the cause with `": "`. A cause that lies outside the bot
(a malformed document, a broken connection, a file that cannot be read) has no text of its own.
-/

namespace Herald

/-- Why something failed. -/
inductive Cause where
  /-- The effective configuration has no token. -/
  | missingToken
  /-- The effective configuration has no announce channel. -/
  | missingChannel
  /-- No session has reported yet who the bot is. -/
  | identityNotReady
  /-- A channel has no member apart from the bot. -/
  | nobodyToPick (channelName : String)
  /-- A created channel was reported without its creator. -/
  | creatorUnnamed (channelName : String)
  /-- Of a channel and a user, the user could not be found. -/
  | userNotFound (user : String)
  /-- Of a channel and a user, the channel could not be found. -/
  | channelNotFound (channel : String)
  /-- Neither of a channel and a user could be found. -/
  | neitherFound (user channel : String)
  /-- The Web API answered with a status other than success. -/
  | badStatus (method status body : String)
  /-- The Web API answered that it did not do what was asked. -/
  | refused (method error : String)
  /-- The text generator did not end in time. -/
  | generatorTimeout (command target : String) (seconds : UInt64)
  /-- The text generator wrote to its error stream. -/
  | generatorComplained (command complaint : String)
  /-- The text generator ended with an exit code other than zero; a signal counts as minus one. -/
  | generatorExited (command : String) (code : Int)
  /-- A collaborator failed and said why in its own words. -/
  | reported (text : String)
  /-- The reason lies outside the bot and has no text here. -/
  | foreign
  deriving Repr, DecidableEq, Inhabited

/-- What was being done when something failed. -/
inductive Context where
  | loadingConfig (path : String)
  | readingConfig (path : String)
  | parsingConfig (path : String)
  | readingSettings
  | readingEvent
  | sending (method : String)
  | readingAnswer (method : String)
  | readingShape (method : String)
  | fetchingChannel (channel : String)
  | fetchingUser (user : String)
  | fetchingTarget
  | openingSocket
  | executing (command : String)
  | running (action : String) (iteration requested : UInt32)
  | posting (action : String) (iteration requested : UInt32)
  deriving Repr, DecidableEq

/-- A cause and the contexts it went through, the outermost first. -/
structure Failure where
  contexts : List Context := []
  cause : Cause
  deriving Repr, DecidableEq, Inhabited

/-- Whole seconds as a length of time: `5s`, and `0ns` for none. -/
def secondsText (seconds : UInt64) : String :=
  if seconds = 0 then "0ns" else toString seconds.toNat ++ "s"

/-- The wording of a cause, absent for one that lies outside the bot. -/
def Cause.text : Cause → Option String
  | missingToken => "Missing token: set [slack] bot_token or SLACK_TOKEN"
  | missingChannel => "Missing channel: set [slack] channel or SLACK_CHANNEL"
  | identityNotReady => "Bot identity is not ready yet"
  | nobodyToPick name => "No one to pick in channel #" ++ name
  | creatorUnnamed name => "channel #" ++ name ++ " has no creator"
  | userNotFound user => "Cannot find user: " ++ user
  | channelNotFound channel => "Cannot find channel: " ++ channel
  | neitherFound user channel => "Cannot find user: " ++ user ++ " and channel: " ++ channel
  | badStatus method status body => "Slack API error (" ++ method ++ ", " ++ status ++ "): " ++ body
  | refused method error => "Slack " ++ method ++ " failed: " ++ error
  | generatorTimeout command target seconds =>
    "timeout(cmd: '" ++ command ++ "', args: '" ++ target ++ "') after " ++ secondsText seconds
  | generatorComplained command complaint => command ++ " failed: " ++ complaint
  | generatorExited command code => command ++ " exited with code " ++ toString code
  | reported text => text
  | foreign => none

/-- `3/10`: the third of ten iterations. -/
def progressText (iteration requested : UInt32) : String :=
  toString iteration.toNat ++ "/" ++ toString requested.toNat

/-- The wording of a context. -/
def Context.text : Context → String
  | loadingConfig path => "Failed to load config from " ++ path
  | readingConfig path => "Failed to read config file: " ++ path
  | parsingConfig path => "Failed to parse config file: " ++ path
  | readingSettings => "Invalid TOML configuration"
  | readingEvent => "Malformed event payload"
  | sending method => "Failed to send request to Slack (" ++ method ++ ")"
  | readingAnswer method => "Failed to parse Slack response (" ++ method ++ ")"
  | readingShape method => "Unexpected Slack response (" ++ method ++ ")"
  | fetchingChannel channel => "failed to fetch channel info(id: " ++ channel ++ ")"
  | fetchingUser user => "Cannot find user: " ++ user
  | fetchingTarget => "failed to fetch user info"
  | openingSocket => "Failed to open RTM WebSocket"
  | executing command => "Failed to execute command: " ++ command
  | running action iteration requested =>
    action ++ " failed on iteration " ++ progressText iteration requested
  | posting action iteration requested =>
    "Failed to post " ++ action ++ " result on iteration " ++ progressText iteration requested

namespace Failure

/-- A failure for a cause alone. -/
def of (cause : Cause) : Failure :=
  ⟨[], cause⟩

/-- A failure that comes from outside, met in one context. -/
def outside (context : Context) : Failure :=
  ⟨[context], .foreign⟩

/-- The same failure seen from one context further out. -/
def within (context : Context) (f : Failure) : Failure :=
  ⟨context :: f.contexts, f.cause⟩

/-- Whether the cause lies outside the bot. -/
def isExternal (f : Failure) : Bool :=
  f.cause == .foreign

/-- Contexts and cause, outermost first, joined with a colon and a space. -/
def message (f : Failure) : String :=
  ": ".intercalate (f.contexts.map Context.text ++ f.cause.text.toList)

end Failure

/-- The result of `x`, its failure seen from one context further out. -/
def inContext (context : Context) (x : Except Failure α) : Except Failure α :=
  x.mapError (·.within context)

@[simp] theorem inContext_ok (context : Context) (a : α) :
    inContext context (.ok a : Except Failure α) = .ok a := rfl

@[simp] theorem inContext_error (context : Context) (f : Failure) :
    inContext context (.error f : Except Failure α) = .error (f.within context) := rfl

end Herald
