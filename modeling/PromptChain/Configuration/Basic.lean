import PromptChain.Binary64.Text
import PromptChain.Block.Basic
import PromptChain.Text.Basic

/-!
# The configuration

Which service answers the prompts, and what holds for blocks that do not say it
themselves. Environment variables take precedence over what a document says
(`Configuration.override`). A variable that should hold a number and does not is passed
over.
-/

namespace PromptChain

/-- How to reach the service that answers prompts. -/
structure Configuration.Service where
  baseUrl : String
  model : String
  /-- The environment variable with the key for the service. -/
  keyName : String
  /-- The key itself, if it is given; it is never written down. -/
  key? : Option String
  /-- How many seconds an answer may take. -/
  timeout : UInt64
  proxy? : Option String
deriving DecidableEq, Repr

/-- The service that is asked unless another one is configured. -/
def Configuration.Service.standard : Configuration.Service where
  baseUrl := "https://api.openai.com/v1"
  model := "gpt-4o-2024-08-06"
  keyName := "OPENAI_API_KEY"
  key? := none
  timeout := 30
  proxy? := none

/-- What holds for blocks that do not say it themselves. -/
structure Configuration.Defaults where
  temperature : Binary64
  maxTokens : UInt32
deriving DecidableEq, Repr

/-- The defaults unless others are configured. -/
def Configuration.Defaults.standard : Configuration.Defaults :=
  ⟨defaultTemperature, defaultMaxTokens⟩

/-- A configuration. -/
structure Configuration where
  service : Configuration.Service
  defaults : Configuration.Defaults
deriving DecidableEq, Repr

/-- The configuration in which nothing is said. -/
def Configuration.standard : Configuration := ⟨.standard, .standard⟩

/-! ## The environment -/

namespace Configuration

/-- The values of environment variables. -/
abbrev Environment := String → Option String

/-- The variables that change a configuration. -/
def variableNames : List String :=
  ["AI_FLOW_BASE_URL", "AI_FLOW_MODEL", "AI_FLOW_API_KEY_ENV", "AI_HTTP_TIMEOUT_SECS",
    "AI_PROXY_URL", "AI_FLOW_TEMPERATURE", "AI_FLOW_MAX_TOKENS"]

/-- The number below a limit that a variable holds. -/
def Environment.word? (limit : Nat) (environment : Environment) (name : String) : Option Nat :=
  (environment name).bind fun text => (Text.count? limit text).toOption

/-- The configuration as the environment changes it. -/
def override (environment : Environment) (configuration : Configuration) : Configuration where
  service :=
    let service := configuration.service
    { service with
      baseUrl := (environment "AI_FLOW_BASE_URL").getD service.baseUrl
      model := (environment "AI_FLOW_MODEL").getD service.model
      keyName := (environment "AI_FLOW_API_KEY_ENV").getD service.keyName
      timeout := ((environment.word? UInt64.size "AI_HTTP_TIMEOUT_SECS").map Nat.toUInt64).getD
        service.timeout
      proxy? := environment "AI_PROXY_URL" <|> service.proxy? }
  defaults :=
    let defaults := configuration.defaults
    { temperature :=
        ((environment "AI_FLOW_TEMPERATURE").bind Binary64.ofText?).getD defaults.temperature
      maxTokens := ((environment.word? UInt32.size "AI_FLOW_MAX_TOKENS").map Nat.toUInt32).getD
          defaults.maxTokens }

end Configuration

end PromptChain
