import PromptChain.Decode.Error
import PromptChain.File
import PromptChain.Http.Network
import PromptChain.Schema.Validation

/-!
# Failures

Everything that can go wrong, as data: what is missing from a request, an answer that
breaks its schema, a model that gives no answer, a bad configuration, and the failures
of the layers below. `Failure.message` words a failure, `Failure.body` is the answer
that a client gets in its place.
-/

namespace PromptChain

/-- Where something is wrong in a configuration, and how. -/
structure Failure.Context where
  /-- The path of the field, or of the file. -/
  field? : Option String
  details? : Option String
  /-- What noticed it. -/
  source? : Option String
deriving DecidableEq, Repr

/-- The context in parentheses, if anything is known. -/
def Failure.Context.describe (context : Failure.Context) : String :=
  let part name (text? : Option String) := (text?.map fun text => name ++ ": " ++ text).toList
  let parts :=
    part "field" context.field? ++ part "details" context.details? ++ part "source" context.source?
  if parts.isEmpty then "" else " (" ++ ", ".intercalate parts ++ ")"

/-- A failure. -/
inductive Failure where
  | missingPrompt
  | missingSchema
  | missingChoices
  /-- The answer breaks its schema. -/
  | schemaViolations (violations : List Schema.Violation)
  /-- There is no answer. -/
  | generation (message : String)
  | configuration (message : String) (context : Failure.Context)
  | transport (cause : Http.TransportFault)
  | file (cause : FileFault)
  | serialization (cause : DecodeError)
deriving DecidableEq, Repr

namespace Failure

/-- The wording of a failure. -/
def message : Failure → String
  | missingPrompt => "Prompt is required"
  | missingSchema => "Schema definition is required for object generation"
  | missingChoices => "Enum values are required for enum generation"
  | schemaViolations violations =>
    "Schema validation failed: " ++ "; ".intercalate (violations.map Schema.Violation.describe)
  | generation message => "Failed to generate response: " ++ message
  | configuration message context => "Configuration error: " ++ message ++ context.describe
  | transport cause => "Network transport error: " ++ cause.message
  | file cause => "I/O error: " ++ cause.message
  | serialization cause => "Serialization error: " ++ cause.message

/-- The wording of what caused a failure, where that is a failure of its own. -/
def cause? : Failure → Option String
  | transport cause => some cause.message
  | file cause => some cause.message
  | serialization cause => some cause.message
  | _ => none

/-- The HTTP status of a failure: 400 where the request or its schema is to blame. -/
def status : Failure → Nat
  | missingPrompt | missingSchema | missingChoices | schemaViolations _ => 400
  | _ => 500

/-- The JSON answer that a client gets in the place of a result. -/
def body (failure : Failure) : Json :=
  match failure with
  | missingPrompt | missingSchema | missingChoices => .object [("error", .string failure.message)]
  | schemaViolations violations =>
    .object
      [("error", .string "Schema validation failed"),
        ("details", Json.ofStrings (violations.map Schema.Violation.describe))]
  | generation message =>
    .object [("error", .string "Failed to generate response"), ("message", .string message)]
  | other =>
    .object [("error", .string "Failed to generate response"), ("message", .string other.message)]

end Failure

end PromptChain
