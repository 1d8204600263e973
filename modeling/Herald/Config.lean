import Herald.Failure
import Herald.Schedule
import Herald.Text.Utf8
import Herald.Toml.Document

/-!
# Configuration

A configuration file is a TOML document with three sections, each of which and each field of which
may be left out. The environment can replace the token and the channel, if it gives a text that is
not empty. In the end both have to be there, the token being looked at first.
-/

namespace Herald

/-- How to reach the Web API, and the channel for announcements. -/
structure SlackSettings where
  token : String := ""
  channel : String := ""
  apiBase : String := "https://slack.com/api"
  deriving Repr, DecidableEq

/-- The program that generates texts, and the time it may take. -/
structure GeneratorSettings where
  command : String := "ojichat"
  timeoutSeconds : UInt64 := 5
  deriving Repr, DecidableEq

/-- All settings of the bot. -/
structure Config where
  slack : SlackSettings := {}
  generator : GeneratorSettings := {}
  schedule : Schedule := ⟨1000, none⟩
  deriving Repr, DecidableEq

/-- The value of a field as `read` gives it, or a default if it is absent. -/
def Toml.orDefault (read : Toml → Option α) (default : α) : Option Toml → Option α
  | none => some default
  | some value => read value

/-- Reads the section `slack`. -/
def SlackSettings.ofToml? (value : Toml) : Option SlackSettings := do
  match ← value.fields? ["bot_token", "channel", "api_base_url"] with
  | [token, channel, apiBase] =>
    let standard : SlackSettings := {}
    return {
      token := ← Toml.orDefault Toml.string? standard.token token
      channel := ← Toml.orDefault Toml.string? standard.channel channel
      apiBase := ← Toml.orDefault Toml.string? standard.apiBase apiBase }
  | _ => none

/-- Reads the section `generator`. -/
def GeneratorSettings.ofToml? (value : Toml) : Option GeneratorSettings := do
  match ← value.fields? ["command", "timeout_secs"] with
  | [command, timeout] =>
    let standard : GeneratorSettings := {}
    return {
      command := ← Toml.orDefault Toml.string? standard.command command
      timeoutSeconds := ← Toml.orDefault Toml.uint64? standard.timeoutSeconds timeout }
  | _ => none

/-- Reads the section `scheduler`. -/
def Schedule.ofToml? (value : Toml) : Option Schedule := do
  match ← value.fields? ["delay_ms", "max_runs"] with
  | [delay, maxRuns] =>
    return {
      delay := ← Toml.orDefault Toml.uint64? 1000 delay
      maxRuns := ← Toml.orDefault (fun v => some <$> v.uint32?) none maxRuns }
  | _ => none

/-- What the environment says about the token and the channel. -/
structure Environment where
  token : Option String := none
  channel : Option String := none
  deriving Repr, DecidableEq

/-- What there is at the path of the configuration. -/
inductive ConfigFile where
  | absent
  | unreadable
  | bytes (content : List UInt8)
  deriving Repr, DecidableEq

namespace Config

/-- Reads the sections of a document. -/
def ofToml? (document : Toml) : Option Config := do
  match ← document.fields? ["slack", "generator", "scheduler"] with
  | [slack, generator, schedule] =>
    let standard : Config := {}
    return {
      slack := ← Toml.orDefault SlackSettings.ofToml? standard.slack slack
      generator := ← Toml.orDefault GeneratorSettings.ofToml? standard.generator generator
      schedule := ← Toml.orDefault Schedule.ofToml? standard.schedule schedule }
  | _ => none

/-- Reads the text of a configuration. -/
def parse (text : String) : Except Failure Config :=
  match (Toml.ofText? text).bind ofToml? with
  | some config => .ok config
  | none => .error (.outside .readingSettings)

/-- A text of the environment if it is set and not empty, and otherwise the one of the file. -/
def override (environment : Option String) (own : String) : String :=
  match environment with
  | some text => if text.isEmpty then own else text
  | none => own

/-- The configuration with what the environment replaces. -/
def withEnvironment (config : Config) (environment : Environment) : Config :=
  { config with slack := { config.slack with
      token := override environment.token config.slack.token
      channel := override environment.channel config.slack.channel } }

/-- Checks that there are a token and a channel. -/
def validate (config : Config) : Except Failure Unit :=
  if config.slack.token.isEmpty then .error (.of .missingToken)
  else if config.slack.channel.isEmpty then .error (.of .missingChannel)
  else .ok ()

/-- The configuration that a file gives; one that is absent counts as empty. -/
def ofFile (path : String) : ConfigFile → Except Failure Config
  | .absent => parse ""
  | .unreadable => .error (.outside (.readingConfig path))
  | .bytes content =>
    match Text.Utf8.decode? content with
    | some text => inContext (.parsingConfig path) (parse (String.ofList text))
    | none => .error (.outside (.readingConfig path))

/-- The configuration in effect. -/
def load (path : String) (file : ConfigFile) (environment : Environment) :
    Except Failure Config := do
  let fromFile ← ofFile path file
  let config := fromFile.withEnvironment environment
  config.validate
  return config

end Config

end Herald
