import PromptChain.Configuration.Basic
import PromptChain.Configuration.Wire
import PromptChain.Url.Parser

/-!
# Checking a configuration

A configuration is good if its service has a URL, its temperature is between 0 and 2,
and its token budget and its timeout are not zero. Of several defects the first one is
reported, in this order.
-/

namespace PromptChain.Configuration

/-- The failure of a configuration with a defect in a field. -/
def defect (message field : String) (details? : Option String) : Failure :=
  .configuration message ⟨some field, details?, none⟩

/-- Whether a temperature is allowed. -/
def allowsTemperature (temperature : Binary64) : Bool :=
  (Binary64.ofInt 0).le temperature && temperature.le (Binary64.ofInt 2)

/-- Check a configuration. -/
def check (configuration : Configuration) : Except Failure Unit :=
  let temperature := configuration.defaults.temperature
  match Url.ofText configuration.service.baseUrl with
  | .error cause =>
    .error (defect "invalid provider base url" "provider.base_url" (some cause.message))
  | .ok _ =>
    if !allowsTemperature temperature then
      .error (defect "temperature must be within [0, 2]" "defaults.temperature"
        (some temperature.proseText))
    else if configuration.defaults.maxTokens = 0 then
      .error (defect "max_tokens must be positive" "defaults.max_tokens" none)
    else if configuration.service.timeout = 0 then
      .error (defect "timeout must be positive" "provider.timeout_secs" none)
    else .ok ()

/-- The configuration that the text of the file at a path, if there is one, and the
    environment make, if it is good. -/
def load (file? : Option (String × String)) (environment : Environment) :
    Except Failure Configuration := do
  let configuration ←
    match file? with
    | none => pure standard
    | some (path, text) => ofText (some path) text
  let configuration := configuration.override environment
  configuration.check
  return configuration

end PromptChain.Configuration
