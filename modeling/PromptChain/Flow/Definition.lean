import PromptChain.Block.Wire
import PromptChain.Configuration.Basic
import PromptChain.Decode.OfText
import PromptChain.Failure
import PromptChain.Yaml.Source

/-!
# Flow definitions

A flow is written down as a document that lists its blocks, each with as little as
needs saying. The document is JSON or YAML; `FlowDefinition.toBlocks` makes the
blocks of a chain from it.
-/

namespace PromptChain

/-- A block as a document describes it. -/
structure BlockDefinition where
  id? : Option String
  kind : Block.Kind
  name? : Option String
  prompt? : Option String
  input? : Option String
  temperature? : Option Binary64
  maxTokens? : Option UInt32
  answerShape? : Option AnswerShape
  schema? : Option Schema.Description
deriving DecidableEq, Repr

/-- A flow as a document describes it. -/
structure FlowDefinition where
  name? : Option String
  blocks : List BlockDefinition
deriving DecidableEq, Repr

namespace BlockDefinition

/-- A block of which only the kind is said. -/
def ofKind (kind : Block.Kind) : BlockDefinition where
  id? := none
  kind
  name? := none
  prompt? := none
  input? := none
  temperature? := none
  maxTokens? := none
  answerShape? := none
  schema? := none

/-- The description as a JSON value. -/
def encode (definition : BlockDefinition) : Json :=
  .object
    (Json.optionally "id" (definition.id?.map .string) ++
    [("kind", definition.kind.encode)] ++
    Json.optionally "name" (definition.name?.map .string) ++
    Json.optionally "prompt" (definition.prompt?.map .string) ++
    Json.optionally "input" (definition.input?.map .string) ++
    Json.optionally "temperature" (definition.temperature?.map .ofBinary64) ++
    Json.optionally "max_tokens" (definition.maxTokens?.map fun n => .ofWord n.toUInt64) ++
    Json.optionally "generation_shape" (definition.answerShape?.map AnswerShape.encode) ++
    Json.optionally "schema" (definition.schema?.map Schema.Description.encode))

variable {δ : Type} [Source δ]

/-- The parts of a block in the order of declaration. -/
def slots : List (Slot δ BlockDefinition) :=
  [.optional "id" [] (Source.optionally Source.string) fun v definition =>
      { definition with id? := v },
    .needed "kind" [] Block.Kind.decode fun v definition => { definition with kind := v },
    .optional "name" [] (Source.optionally Source.string) fun v definition =>
      { definition with name? := v },
    .optional "prompt" [] (Source.optionally Source.string) fun v definition =>
      { definition with prompt? := v },
    .optional "input" [] (Source.optionally Source.string) fun v definition =>
      { definition with input? := v },
    .optional "temperature" [] (Source.optionally Source.double) fun v definition =>
      { definition with temperature? := v },
    .optional "max_tokens" ["maxTokens"] (Source.optionally Source.word32) fun v definition =>
      { definition with maxTokens? := v },
    .optional "generation_shape" ["generationShape"] (Source.optionally AnswerShape.decode)
      fun v definition => { definition with answerShape? := v },
    .optional "schema" [] (Source.optionally Schema.Description.decode) fun v definition =>
      { definition with schema? := v }]

/-- Read a block; only its kind is required. -/
def decode (part : δ) : Except DecodeError BlockDefinition :=
  Source.recordOf "BlockDefinition" slots (ofKind .input) part

/-- How the block is answered. A schema without a shape asks for an object. -/
def answerShape (definition : BlockDefinition) : AnswerShape :=
  definition.answerShape?.getD (if definition.schema?.isSome then .object else .text)

/-- The settings of the block; the defaults hold where nothing is said. The token budget
    is at least one. -/
def settings (defaults : Configuration.Defaults) (definition : BlockDefinition) :
    Block.Settings where
  prompt? := definition.prompt?
  input? := definition.input?
  temperature := definition.temperature?.getD defaults.temperature
  maxTokens := max 1 (definition.maxTokens?.getD defaults.maxTokens)
  answerShape := definition.answerShape
  schema? := definition.schema?

/-- The block, which gets the new id if the document gives it none. -/
def toBlock (defaults : Configuration.Defaults) (newId : String) (definition : BlockDefinition) :
    Block :=
  { Block.new (definition.id?.getD newId) definition.kind with
    name := definition.name?.getD definition.kind.name
    settings := definition.settings defaults }

end BlockDefinition

namespace FlowDefinition

/-- The flow as a JSON value. -/
def encode (definition : FlowDefinition) : Json :=
  .object
    (Json.optionally "name" (definition.name?.map .string) ++
    [("blocks", .array (definition.blocks.map BlockDefinition.encode))])

/-- The parts of a flow in the order of declaration. -/
def slots {δ : Type} [Source δ] : List (Slot δ FlowDefinition) :=
  [.optional "name" [] (Source.optionally Source.string) fun v definition =>
      { definition with name? := v },
    .optional "blocks" [] (Source.listOf BlockDefinition.decode) fun v definition =>
      { definition with blocks := v }]

/-- Read a flow; nothing in it is required. -/
def decode {δ : Type} [Source δ] (part : δ) : Except DecodeError FlowDefinition :=
  Source.recordOf "FlowDefinition" slots ⟨none, []⟩ part

/-! ## Texts -/

/-- The ways to write a flow. -/
inductive Format where
  | json
  | yaml
deriving DecidableEq, Repr

/-- The format of a file at a path, which its extension tells. -/
def Format.ofPath (path : String) : Format :=
  if (File.extension? path).any (·.map Char.toLower = "json") then .json else .yaml

/-- The failure of a document with the given path, if it is a file. -/
def malformed (path? : Option String) (details : String) : Failure :=
  .configuration "invalid flow definition" ⟨path?, some details, some "flow_definition"⟩

/-- Read a flow from a text, which may be the text of the file at a path. -/
def ofText (path? : Option String) (text : String) : Format → Except Failure FlowDefinition
  | .json => (Json.decodeText decode text).mapError fun cause => malformed path? cause.message
  | .yaml => (Yaml.decodeText decode text).mapError fun cause => malformed path? cause.message

/-- Read a flow from the text of the file at a path. -/
def ofFile (path text : String) : Except Failure FlowDefinition :=
  ofText (some path) text (.ofPath path)

/-! ## Blocks -/

/-- The blocks of some descriptions, in order. The ones without an id get new ids, from
    the one with the number `count` on. -/
def blocksFrom (defaults : Configuration.Defaults) (newId : Nat → String) :
    Nat → List BlockDefinition → List Block
  | _, [] => []
  | count, definition :: rest =>
    definition.toBlock defaults (newId count) ::
      blocksFrom defaults newId (if definition.id?.isSome then count else count + 1) rest

/-- The blocks of the flow. -/
def toBlocks (defaults : Configuration.Defaults) (newId : Nat → String)
    (definition : FlowDefinition) : List Block :=
  blocksFrom defaults newId 0 definition.blocks

/-- The number of blocks that need a new id. -/
def newIdCount (definition : FlowDefinition) : Nat :=
  definition.blocks.countP (·.id?.isNone)

end FlowDefinition

end PromptChain
