import PromptChain.Block.Wire

/-!
# Requests

What a model is asked: a prompt, how to answer it, and within which budget.
-/

namespace PromptChain

/-- A request to a model. -/
structure Request where
  prompt : String
  answerShape : AnswerShape
  temperature : Binary64
  maxTokens : UInt32
  /-- The structure of the answer, which one in the shape of an object needs. -/
  schema? : Option Schema.Description
deriving DecidableEq, Repr

namespace Request

/-- A request for free text. -/
def text (prompt : String) : Request :=
  ⟨prompt, .text, defaultTemperature, defaultMaxTokens, none⟩

/-- The request that a block makes with its resolved prompt. -/
def ofSettings (prompt : String) (settings : Block.Settings) : Request :=
  ⟨prompt, settings.answerShape, settings.temperature, settings.maxTokens, settings.schema?⟩

/-- The request as a JSON value. -/
def encode (request : Request) : Json :=
  .object ([("prompt", .string request.prompt),
      ("generationShape", request.answerShape.encode),
      ("temperature", .ofBinary64 request.temperature),
      ("maxTokens", .ofWord request.maxTokens.toUInt64)] ++
    Json.optionally "schemaDescription" (request.schema?.map Schema.Description.encode))

variable {δ : Type} [Source δ]

/-- The parts of a request in the order of declaration. -/
def slots : List (Slot δ Request) :=
  [.optional "prompt" [] Source.string fun v request => { request with prompt := v },
    .optional "generationShape" ["generateType"] AnswerShape.decode fun v request =>
      { request with answerShape := v },
    .optional "temperature" [] Source.double fun v request => { request with temperature := v },
    .optional "maxTokens" [] Source.word32 fun v request => { request with maxTokens := v },
    .optional "schemaDescription" ["schemaDefinition"]
      (Source.optionally Schema.Description.decode) fun v request => { request with schema? := v }]

/-- Read a request; nothing in it is required. -/
def decode (part : δ) : Except DecodeError Request :=
  Source.recordOf "GenerationRequest" slots (text "") part

end Request

end PromptChain
