import PromptChain.Block.Basic
import PromptChain.Schema.Wire

/-!
# Blocks on the wire

How blocks and their parts are written as JSON values and read from documents. What a
block knows of its runs is not written; a block that is read has never run.
-/

namespace PromptChain

variable {δ : Type} [Source δ]

namespace Block.Kind

/-- All names of kinds. -/
def names : List (String × Kind) :=
  [("Input", .input), ("input", .input), ("Generate", .generate), ("generate", .generate)]

/-- The kind as a JSON value. -/
def encode (kind : Kind) : Json := .string kind.name

/-- Read a kind. -/
def decode (part : δ) : Except DecodeError Kind := Source.oneOf names part

end Block.Kind

namespace AnswerShape

/-- All names of answer shapes. -/
def names : List (String × AnswerShape) := [("text", .text), ("object", .object)]

/-- The answer shape as a JSON value. -/
def encode (shape : AnswerShape) : Json := .string shape.name

/-- Read an answer shape. -/
def decode (part : δ) : Except DecodeError AnswerShape := Source.oneOf names part

end AnswerShape

namespace Block.Settings

/-- The settings as a JSON value. -/
def encode (settings : Settings) : Json :=
  .object (Json.optionally "prompt" (settings.prompt?.map .string) ++
    Json.optionally "input" (settings.input?.map .string) ++
    [("temperature", .ofBinary64 settings.temperature),
      ("maxTokens", .ofWord settings.maxTokens.toUInt64),
      ("generationShape", settings.answerShape.encode)] ++
    Json.optionally "schema" (settings.schema?.map Schema.Description.encode))

/-- The parts of settings in the order of declaration. -/
def slots : List (Slot δ Settings) :=
  [.optional "prompt" [] (Source.optionally Source.string) fun v settings =>
      { settings with prompt? := v },
    .optional "input" [] (Source.optionally Source.string) fun v settings =>
      { settings with input? := v },
    .optional "temperature" [] Source.double fun v settings => { settings with temperature := v },
    .optional "maxTokens" [] Source.word32 fun v settings => { settings with maxTokens := v },
    .optional "generationShape" ["generateType"] AnswerShape.decode fun v settings =>
      { settings with answerShape := v },
    .optional "schema" ["schemaDefinition"] (Source.optionally Schema.Description.decode)
      fun v settings => { settings with schema? := v }]

/-- Read settings; nothing in them is required. -/
def decode (part : δ) : Except DecodeError Settings :=
  Source.recordOf "BlockSettings" slots standard part

end Block.Settings

namespace Block.Patch

/-- The change as a JSON value, where null stands for what is absent. -/
def encode (patch : Patch) : Json :=
  .object
    [("prompt", .orNull (patch.prompt?.map .string)),
      ("input", .orNull (patch.input?.map .string)),
      ("temperature", .orNull (patch.temperature?.map .ofBinary64)),
      ("maxTokens", .orNull (patch.maxTokens?.map fun n => .ofWord n.toUInt64)),
      ("generationShape", .orNull (patch.answerShape?.map AnswerShape.encode)),
      ("schema", .orNull (patch.schema?.map Schema.Description.encode))]

/-- The parts of a change in the order of declaration. -/
def slots : List (Slot δ Patch) :=
  [.optional "prompt" [] (Source.optionally Source.string) fun v patch =>
      { patch with prompt? := v },
    .optional "input" [] (Source.optionally Source.string) fun v patch =>
      { patch with input? := v },
    .optional "temperature" [] (Source.optionally Source.double) fun v patch =>
      { patch with temperature? := v },
    .optional "maxTokens" [] (Source.optionally Source.word32) fun v patch =>
      { patch with maxTokens? := v },
    .optional "generationShape" [] (Source.optionally AnswerShape.decode) fun v patch =>
      { patch with answerShape? := v },
    .optional "schema" [] (Source.optionally Schema.Description.decode) fun v patch =>
      { patch with schema? := v }]

/-- Read a change. -/
def decode (part : δ) : Except DecodeError Patch :=
  Source.recordOf "SettingsPatch" slots empty part

end Block.Patch

/-! ## Results

A result is written as its type and its value. They are read in the order in which
they are written: the value of a known type is read as such, and a value that comes
before its type must be readable as a whole before the type is looked at. -/

namespace Block.Result

/-- The result as a JSON value. -/
def encode : Result → Json
  | text t => .object [("type", .string "text"), ("value", .string t)]
  | structured v => .object [("type", .string "structured"), ("value", v)]
  | failed message =>
    .object [("type", .string "failed"), ("value", .object [("message", .string message)])]

/-- The types of results. -/
inductive Tag where
  | text
  | structured
  | failed
deriving DecidableEq, Repr

/-- All names of types of results. -/
def Tag.names : List (String × Tag) :=
  [("text", .text), ("structured", .structured), ("failed", .failed)]

/-- Read a type of results. -/
def Tag.decode (part : δ) : Except DecodeError Tag := Source.oneOf names part

/-- The parts of a failure. -/
def failureSlots : List (Slot δ String) :=
  [.needed "message" [] Source.string fun v _ => v]

/-- Read a failure, whose message comes by name only. -/
def decodeFailure (part : δ) : Except DecodeError Result := do
  let expected := "struct variant BlockResult::Failed"
  match ← Source.record expected part with
  | .named members end? =>
    let (given, message) ← Source.fillNamed failureSlots members [] ""
    Source.check end?
    Source.checkGiven (failureSlots (δ := δ)) given
    return failed message
  | .positional _ => throw (.wrongType .list expected)

/-- What has been read of a result whose fields come by name. -/
inductive Progress (δ : Type) where
  | nothing
  | tagged (tag : Tag)
  | valued (value : δ)
  | complete (result : Result)

variable {δ : Type} [ValueSource δ]

/-- Read the value of a result of a known type. -/
def decodeValue (tag : Tag) (part : δ) : Except DecodeError Result :=
  match tag with
  | .text => text <$> Source.string part
  | .structured => structured <$> ValueSource.value part
  | .failed => decodeFailure part

/-- Read the type of a result. -/
def Progress.readTag (part : δ) : Progress δ → Except DecodeError (Progress δ)
  | .nothing => .tagged <$> Tag.decode part
  | .valued value => do return .complete (← decodeValue (← Tag.decode part) value)
  | _ => .error (.duplicateField "type")

/-- Read the value of a result. -/
def Progress.readValue (part : δ) : Progress δ → Except DecodeError (Progress δ)
  | .nothing => (fun _ => .valued part) <$> ValueSource.value part
  | .tagged tag => .complete <$> decodeValue tag part
  | _ => .error (.duplicateField "value")

/-- Read the fields of a result one after the other. -/
def readFields :
    List (Except DecodeError String × δ) → Progress δ → Except DecodeError (Progress δ)
  | [], progress => .ok progress
  | (key, part) :: rest, progress => do
    let name ← key
    if name = "type" then readFields rest (← progress.readTag part)
    else if name = "value" then readFields rest (← progress.readValue part)
    else
      Source.skip part
      readFields rest progress

/-- The result, if both of its fields have been read. -/
def Progress.finish : Progress δ → Except DecodeError Result
  | .complete result => .ok result
  | .tagged _ => .error (.missingField "value")
  | _ => .error (.missingField "type")

/-- Read a result: an object with its type and its value, or a list of the two. -/
def decode (part : δ) : Except DecodeError Result := do
  let expected := "adjacently tagged enum BlockResult"
  match ← Source.record expected part with
  | .named members end? =>
    let progress ← readFields members .nothing
    Source.check end?
    progress.finish
  | .positional items =>
    match items.items with
    | [] =>
      Source.check items.next?
      throw (.wrongLength 0 expected)
    | tag :: rest =>
      let tag ← Tag.decode tag
      match rest with
      | [] =>
        Source.check items.next?
        throw (.wrongLength 1 expected)
      | value :: left =>
        let result ← decodeValue tag value
        if left.isEmpty then Source.check items.close? else throw items.surplus
        return result

end Block.Result

namespace Block

/-- The block as a JSON value. -/
def encode (block : Block) : Json :=
  .object
    ([("id", .string block.id),
      ("kind", block.kind.encode),
      ("name", .string block.name),
      ("expanded", .bool block.expanded),
      ("settings", block.settings.encode)] ++
    Json.optionally "result" (block.result?.map Result.encode))

variable {δ : Type} [ValueSource δ]

/-- The parts of a block in the order of declaration. -/
def slots : List (Slot δ Block) :=
  [.needed "id" [] Source.string fun v block => { block with id := v },
    .needed "kind" [] Kind.decode fun v block => { block with kind := v },
    .needed "name" [] Source.string fun v block => { block with name := v },
    .optional "expanded" [] Source.bool fun v block => { block with expanded := v },
    .optional "settings" [] Settings.decode fun v block => { block with settings := v },
    .optional "result" [] (Source.optionally Result.decode) fun v block =>
      { block with result? := v }]

/-- Read a block. -/
def decode (part : δ) : Except DecodeError Block :=
  Source.recordOf "Block" slots (new "" .input) part

end Block

end PromptChain
