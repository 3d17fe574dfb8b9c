import PromptChain.Configuration.Basic
import PromptChain.Decode.Record
import PromptChain.Failure
import PromptChain.Yaml.Source

/-!
# Configuration documents

A configuration is written as a YAML document, in which everything may be left out. The
key for the service is read but never written.
-/

namespace PromptChain.Configuration

variable {δ : Type} [Source δ]

namespace Service

/-- The service as a JSON value, without its key. -/
def encode (service : Service) : Json :=
  .object
    ([("base_url", .string service.baseUrl),
      ("model", .string service.model),
      ("api_key_env", .string service.keyName),
      ("timeout_secs", .ofWord service.timeout)] ++
    Json.optionally "proxy_url" (service.proxy?.map .string))

/-- The parts of a service in the order of declaration. -/
def slots : List (Slot δ Service) :=
  [.optional "base_url" [] Source.string fun v service => { service with baseUrl := v },
    .optional "model" [] Source.string fun v service => { service with model := v },
    .optional "api_key_env" [] Source.string fun v service => { service with keyName := v },
    .optional "api_key" [] (Source.optionally Source.string) fun v service =>
      { service with key? := v },
    .optional "timeout_secs" [] Source.word64 fun v service => { service with timeout := v },
    .optional "proxy_url" [] (Source.optionally Source.string) fun v service =>
      { service with proxy? := v }]

/-- Read a service; nothing in it is required. -/
def decode (part : δ) : Except DecodeError Service :=
  Source.recordOf "ProviderConfig" slots standard part

end Service

namespace Defaults

/-- The defaults as a JSON value. -/
def encode (defaults : Defaults) : Json :=
  .object
    [("temperature", .ofBinary64 defaults.temperature),
      ("max_tokens", .ofWord defaults.maxTokens.toUInt64)]

/-- The parts of defaults in the order of declaration. -/
def slots : List (Slot δ Defaults) :=
  [.optional "temperature" [] Source.double fun v defaults => { defaults with temperature := v },
    .optional "max_tokens" [] Source.word32 fun v defaults => { defaults with maxTokens := v }]

/-- Read defaults; nothing in them is required. -/
def decode (part : δ) : Except DecodeError Defaults :=
  Source.recordOf "GenerationDefaults" slots standard part

end Defaults

/-- The configuration as a JSON value. -/
def encode (configuration : Configuration) : Json :=
  .object
    [("provider", configuration.service.encode), ("defaults", configuration.defaults.encode)]

/-- The parts of a configuration in the order of declaration. -/
def slots : List (Slot δ Configuration) :=
  [.optional "provider" [] Service.decode fun v configuration =>
      { configuration with service := v },
    .optional "defaults" [] Defaults.decode fun v configuration =>
      { configuration with defaults := v }]

/-- Read a configuration; nothing in it is required. -/
def decode (part : δ) : Except DecodeError Configuration :=
  Source.recordOf "FlowConfig" slots standard part

/-! ## Texts -/

/-- The failure of a document with the given path, if it is a file. -/
def malformed (path? : Option String) (cause : Yaml.Fault) : Failure :=
  .configuration "invalid configuration document" ⟨path?, some cause.message, some "config_loader"⟩

/-- Read a configuration from a text, which may be the text of the file at a path. -/
def ofText (path? : Option String) (text : String) : Except Failure Configuration :=
  (Yaml.decodeText decode text).mapError (malformed path?)

end PromptChain.Configuration
