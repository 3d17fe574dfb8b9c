import PromptChain.Json.Basic
import PromptChain.Schema.Description

/-!
# Blocks

A chain is a list of blocks. An *input* block holds a text; a *generate* block holds
a prompt, which may mention the block before it, and is answered by a model. Each
block keeps the result of its latest run.

While a run of a block waits for its answer, the block is *executing*. Several runs
of one block may wait at a time; it counts the waiting ones (`inFlight`) and all that
were ever started (`run`), so that only the latest started may store its result.
-/

namespace PromptChain

/-- The kind of a block. -/
inductive Block.Kind where
  | input
  | generate
deriving DecidableEq, Repr, Inhabited

/-- The name of a kind. -/
def Block.Kind.name : Block.Kind → String
  | .input => "Input"
  | .generate => "Generate"

/-- Whether an answer is free text or a structured value. -/
inductive AnswerShape where
  | text
  | object
deriving DecidableEq, Repr, Inhabited

/-- The name of an answer shape. -/
def AnswerShape.name : AnswerShape → String
  | .text => "text"
  | .object => "object"

/-- The temperature of a request that does not name one, 0.7. -/
def defaultTemperature : Binary64 := Binary64.ofRatio false 7 10

/-- The token budget of a request that does not name one. -/
def defaultMaxTokens : UInt32 := 1000

/-- The settings of a block. -/
structure Block.Settings where
  /-- The template of the prompt, for a generate block. -/
  prompt? : Option String
  /-- The text of an input block. -/
  input? : Option String
  temperature : Binary64
  maxTokens : UInt32
  answerShape : AnswerShape
  schema? : Option Schema.Description
deriving DecidableEq, Repr

/-- The settings of a new block. -/
def Block.Settings.standard : Block.Settings where
  prompt? := none
  input? := none
  temperature := defaultTemperature
  maxTokens := defaultMaxTokens
  answerShape := .text
  schema? := none

/-- A change of settings; what is absent stays as it is. -/
structure Block.Patch where
  prompt? : Option String
  input? : Option String
  temperature? : Option Binary64
  maxTokens? : Option UInt32
  answerShape? : Option AnswerShape
  schema? : Option Schema.Description
deriving DecidableEq, Repr

/-- The change that changes nothing. -/
def Block.Patch.empty : Block.Patch := ⟨none, none, none, none, none, none⟩

/-- Apply a change. A token budget that it sets is at least one. -/
def Block.Settings.apply (settings : Block.Settings) (patch : Block.Patch) : Block.Settings where
  prompt? := patch.prompt? <|> settings.prompt?
  input? := patch.input? <|> settings.input?
  temperature := patch.temperature?.getD settings.temperature
  maxTokens := (patch.maxTokens?.map (max 1)).getD settings.maxTokens
  answerShape := patch.answerShape?.getD settings.answerShape
  schema? := patch.schema? <|> settings.schema?

/-- What a run of a block yields. -/
inductive Block.Result where
  | text (text : String)
  | structured (value : Json)
  /-- The run failed, for the given reason. -/
  | failed (message : String)
deriving DecidableEq, Repr

namespace Block.Result

/-- Whether the run failed. -/
def isFailure : Result → Bool
  | failed _ => true
  | _ => false

/-- The text of a textual result. -/
def text? : Result → Option String
  | text t => some t
  | _ => none

/-- The value of a structured result. -/
def value? : Result → Option Json
  | structured v => some v
  | _ => none

end Block.Result

/-- A block of a chain. -/
structure Block where
  id : String
  kind : Block.Kind
  name : String
  expanded : Bool
  settings : Block.Settings
  result? : Option Block.Result
  /-- Whether some run of the block waits for its answer. -/
  executing : Bool
  /-- The number of runs that wait for their answers. A word of 32 bits counts them; that fewer
      than 2³² runs ever wait at once is assumed, so the count never wraps around. -/
  inFlight : Nat
  /-- The number of runs ever started. A word of 64 bits counts them; that there are fewer than
      2⁶⁴ is assumed. -/
  run : Nat
deriving Repr

namespace Block

/-- A new block, named after its kind. -/
def new (id : String) (kind : Kind) : Block where
  id
  kind
  name := kind.name
  expanded := true
  settings := .standard
  result? := none
  executing := false
  inFlight := 0
  run := 0

/-- A new input block with a text. -/
def input (id name text : String) : Block :=
  { new id .input with name, settings := { Settings.standard with input? := some text } }

/-- A new generate block with a prompt. -/
def generate (id name prompt : String) : Block :=
  { new id .generate with name, settings := { Settings.standard with prompt? := some prompt } }

/-- The block asking for an object of the given description. -/
def withSchema (block : Block) (schema : Schema.Description) : Block :=
  { block with
    settings := { block.settings with answerShape := .object, schema? := some schema } }

/-- Whether a model answers the block. -/
def isGenerate (block : Block) : Bool := block.kind = .generate

end Block

end PromptChain
