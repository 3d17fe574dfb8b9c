import PromptChain.Provider.Basic
import PromptChain.Request

/-!
# The gateway

The only way to a provider. A request that lacks something is refused without a call;
any other makes exactly one call. A structured answer is checked against its schema,
and whatever a provider fails with is reported as a failed generation.
-/

namespace PromptChain

/-- The answer to a request. -/
inductive Answer where
  | text (text : String)
  | structured (value : Json)
deriving Repr

namespace Answer

/-- The text of a textual answer. -/
def text? : Answer → Option String
  | text t => some t
  | structured _ => none

/-- The answer as the result of a block. -/
def toResult : Answer → Block.Result
  | text t => .text t
  | structured value => .structured value

/-- The JSON answer that a client gets. -/
def body : Answer → Json
  | text t => .string t
  | structured value => .object [("result", value)]

end Answer

/-- Report a failure of a provider as a failed generation. -/
def Failure.ofProvider : Failure → Failure
  | generation message => generation message
  | schemaViolations violations => schemaViolations violations
  | transport cause => generation cause.message
  | other => generation other.message

/-- What a request asks of a provider. -/
inductive Request.Call where
  | text
  | value (schema : Schema.Compiled)

/-- The call that a request makes, unless it lacks something. -/
def Request.call (request : Request) : Except Failure Request.Call :=
  if request.prompt.isEmpty then .error .missingPrompt
  else
    match request.answerShape, request.schema? with
    | .text, _ => .ok .text
    | .object, none => .error .missingSchema
    | .object, some description =>
      match Schema.compile? description with
      | none => .error .missingChoices
      | some schema => .ok (.value schema)

/-- What a request allows; the token budget is at least one. -/
def Request.budget (request : Request) : Budget :=
  ⟨request.temperature, max 1 request.maxTokens⟩

/-- The answer that a text is. -/
def Answer.ofText : Except Failure String → Except Failure Answer
  | .ok t => .ok (.text t)
  | .error failure => .error failure.ofProvider

/-- The answer that a value is, if it obeys its schema. -/
def Answer.ofValue (schema : Schema.Compiled) : Except Failure Json → Except Failure Answer
  | .ok value =>
    match (schema.check value).toExcept with
    | .ok _ => .ok (.structured value)
    | .error violations => .error (.schemaViolations violations)
  | .error failure => .error failure.ofProvider

/-- Make a request of a provider. -/
def Request.send {π : Type} [Provider π] (request : Request) (provider : π) : Ticket Answer × π :=
  match request.call with
  | .error failure => (.now (.error failure), provider)
  | .ok .text =>
    let (ticket, provider) := Provider.askText request.prompt request.budget provider
    (ticket.map Answer.ofText, provider)
  | .ok (.value schema) =>
    let (ticket, provider) := Provider.askValue request.prompt request.budget schema provider
    (ticket.map (Answer.ofValue schema), provider)

end PromptChain
