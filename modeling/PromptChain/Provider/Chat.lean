import PromptChain.Answer.Extract
import PromptChain.Http.Connection
import PromptChain.Provider.Basic

/-!
# A chat service

A provider behind a network: a prompt is posted as the message of a user, and the answer
is the message in the first choice of the response. The model of a structured answer is
told its format, and the answer is looked for in what it writes.
-/

namespace PromptChain

/-- A chat service. -/
structure ChatService where
  connection : Http.Connection
  model : String
  network : Http.Network
deriving Repr

namespace ChatService

/-- The path to which prompts are posted. -/
def path : String := "/chat/completions"

/-- The service of a configuration. -/
def ofService (service : Configuration.Service) (environment : Configuration.Environment)
    (network : Http.Network) : Except Failure ChatService := do
  return ⟨← Http.Connection.ofService service environment, service.model, network⟩

/-- What is posted to ask a prompt. -/
def requestBody (model prompt : String) (budget : Budget) (format? : Option Json) : Json :=
  let message : Json := .object [("role", .string "user"), ("content", .string prompt)]
  .object
    ([("model", .string model),
      ("messages", .array [message]),
      ("temperature", .ofBinary64 budget.temperature),
      ("max_tokens", .ofWord budget.maxTokens.toUInt64)] ++
    Json.optionally "response_format" format?)

/-- The text of a response, unless the model refuses. -/
def contentOf (response : Json) : Except Failure String :=
  let message? := response.pointer? ["choices", "0", "message"]
  match (message?.bind (·.get? "refusal")).bind Json.string? with
  | some refusal => .error (.generation ("model refused: " ++ refusal))
  | none =>
    match (message?.bind (·.get? "content")).bind Json.string? with
    | some content => .ok content
    | none => .error (.generation "response contained no message content")

/-- Post a prompt and take the text of the response. -/
def complete (prompt : String) (budget : Budget) (format? : Option Json) (service : ChatService) :
    Except Failure String × ChatService :=
  let body := requestBody service.model prompt budget format?
  let (response, network) := service.connection.post path body service.network
  (response.bind contentOf, { service with network })

/-- The value in a text, out of its envelope. -/
def valueOf (schema : Schema.Compiled) (content : String) : Except Failure Json :=
  match Answer.extract? content with
  | some value => .ok (schema.unwrap value)
  | none => .error (.generation "response content is not valid JSON")

instance : Provider ChatService where
  name _ := "openai"
  askText prompt budget service :=
    let (content, service) := service.complete prompt budget none
    (.now content, service)
  askValue prompt budget schema service :=
    let (content, service) := service.complete prompt budget (some schema.responseFormat)
    (.now (content.bind (valueOf schema)), service)

end ChatService

end PromptChain
