import PromptChain.Block.Basic
import PromptChain.Json.Printer
import PromptChain.Template.Mention

/-!
# Resolving a template

In the prompt of a block, every mention is replaced by the value of the block just
before it, if the mention displays the name of that block, and by nothing otherwise.
The identifier of a mention plays no part. What is put in is not looked at again.
-/

namespace PromptChain.Template

/-- Why a mention stands for nothing. -/
inductive Unresolved where
  /-- There is no block before. -/
  | noPredecessor
  /-- The block before has another name. -/
  | nameMismatch (expected actual : String)
deriving DecidableEq, Repr

/-- What a mention stands for. -/
inductive Outcome where
  | resolved (value : String)
  | unresolved (reason : Unresolved)
deriving DecidableEq, Repr

/-- The text that takes the place of a mention. -/
def Outcome.text : Outcome → String
  | resolved value => value
  | unresolved _ => ""

/-- Whether a mention stands for a value, be it empty. -/
def Outcome.isResolved : Outcome → Bool
  | resolved _ => true
  | unresolved _ => false

/-- A template with its mentions replaced. -/
structure Resolution where
  text : String
  /-- Each mention and what it stands for. -/
  mentions : List (Mention × Outcome)
deriving Repr

/-- The mentions that stand for nothing, and why. -/
def Resolution.unresolved (resolution : Resolution) : List (Mention × Unresolved) :=
  resolution.mentions.filterMap fun (mention, outcome) =>
    match outcome with
    | .unresolved reason => some (mention, reason)
    | .resolved _ => none

/-- Whether every mention stands for a value. -/
def Resolution.isComplete (resolution : Resolution) : Bool :=
  resolution.mentions.all fun (_, outcome) => outcome.isResolved

/-! ## Values as text -/

/-- What a failed block contributes to the prompts that mention it. -/
def failureMarker : String := "Error executing block"

/-- A value within a prompt: a text is itself, null is nothing, and all else is JSON
    text. -/
def elementText : Json → String
  | .null => ""
  | .string s => s
  | value => value.render

/-- The text of a result within a prompt; the elements of a list are separated by
    commas. -/
def resultText : Block.Result → String
  | .text t => t
  | .structured (.array items) => ", ".intercalate (items.map elementText)
  | .structured value => elementText value
  | .failed _ => failureMarker

/-- The text that a block contributes to the prompt of the block after it. -/
def blockText (block : Block) : String :=
  match block.kind with
  | .input => block.settings.input?.getD ""
  | .generate => (block.result?.map resultText).getD ""

/-! ## Resolving -/

/-- What a mention that displays a name stands for after the given block. -/
def outcome (previous? : Option Block) (display : String) : Outcome :=
  match previous? with
  | none => .unresolved .noPredecessor
  | some previous =>
    if previous.name = display then .resolved (blockText previous)
    else .unresolved (.nameMismatch display previous.name)

/-- The text that takes the place of a piece. -/
def pieceText (previous? : Option Block) : Piece → List Char
  | .char c => [c]
  | .mention display _ => (outcome previous? (String.ofList display)).text.toList

/-- The block before a position of a chain. -/
def previous? (blocks : List Block) (index : Nat) : Option Block :=
  match index with
  | 0 => none
  | i + 1 => blocks[i]?

/-- Resolve a template at a position of a chain. -/
def resolve (template : String) (blocks : List Block) (index : Nat) : Resolution where
  text := String.ofList ((pieces template.toList).flatMap (pieceText (previous? blocks index)))
  mentions := (mentions template).map fun mention =>
    (mention, outcome (previous? blocks index) mention.display)

end PromptChain.Template
