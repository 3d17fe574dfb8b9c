import PromptChain.Flow.Store
import PromptChain.Request
import PromptChain.Template.Resolution

/-!
# Runs of blocks

A run of a generate block has two steps, and anything may happen to the store between
them. `Store.begin?` counts the run on its block and makes the request from the list as
it is then. `Store.finish` comes with the result; it stores the result in the block
only if no later run of the block has begun since.
-/

namespace PromptChain

/-- A run that has begun. -/
structure Run where
  id : String
  /-- The position of the block when the run began. -/
  index : Nat
  /-- The resolved prompt. -/
  prompt : String
  /-- The number of the run among all runs of the block. -/
  number : Nat
deriving DecidableEq, Repr

/-- What one execution of a block did. -/
structure Outcome where
  id : String
  /-- The position of the block when it was executed. -/
  index : Nat
  /-- The resolved prompt of a generate block. -/
  prompt? : Option String
  result? : Option Block.Result
deriving DecidableEq, Repr

/-- Whether the execution failed. -/
def Outcome.isFailure (outcome : Outcome) : Bool :=
  outcome.result?.any Block.Result.isFailure

/-- What a run with a result did. -/
def Run.outcome (run : Run) (result : Block.Result) : Outcome :=
  ⟨run.id, run.index, some run.prompt, some result⟩

/-- The block with one more run, which waits for its answer. -/
def Block.begin (block : Block) : Block :=
  { block with run := block.run + 1, inFlight := block.inFlight + 1, executing := true }

/-- The block with one run less that waits; the result is stored if the run is the
    latest. -/
def Block.finish (number : Nat) (result : Block.Result) (block : Block) : Block :=
  { block with
    inFlight := block.inFlight - 1
    executing := 0 < block.inFlight - 1
    result? := if block.run = number then some result else block.result? }

/-- The text of an input block is its result. -/
def Block.settle (block : Block) : Block :=
  { block with result? := block.settings.input?.map .text }

namespace Store

/-- Begin a run of the first block with an id, and make its request. -/
def begin? (id : String) (store : Store) : Option (Run × Request × Store) := do
  let after ← store.update? id Block.begin
  let index ← after.indexOf? id
  let block ← after.blocks[index]?
  let prompt := (Template.resolve (block.settings.prompt?.getD "") after.blocks index).text
  return (⟨id, index, prompt, block.run⟩, Request.ofSettings prompt block.settings, after)

/-- Finish a run; nothing happens if its block is no longer there. -/
def finish (run : Run) (result : Block.Result) (store : Store) : Store :=
  (store.update? run.id (Block.finish run.number result)).getD store

end Store

end PromptChain
