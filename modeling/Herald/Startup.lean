import Herald.Bot
import Herald.Config
import Herald.Slack.Client

/-!
# Starting up

The program starts from the path of its configuration, what is at that path, and the environment.
It either fails or knows all that it goes through its life with.
-/

namespace Herald

/-- All that the program is made of. -/
structure Program where
  bot : Bot
  client : Slack.Client
  generator : GeneratorSettings

namespace Program

/-- The path of the configuration if none is given. -/
def defaultPath : String := "config.toml"

/-- The program for a configuration. -/
def ofConfig (config : Config) : Program where
  bot := { announce := config.slack.channel, schedule := config.schedule }
  client := .ofSettings config.slack
  generator := config.generator

/-- Loads the configuration and makes the program. -/
def load (path : String) (file : ConfigFile) (environment : Environment) :
    Except Failure Program :=
  ofConfig <$> inContext (.loadingConfig path) (Config.load path file environment)

end Program

end Herald
