import PromptChain.Flow.Run
import PromptChain.Gateway

/-!
# Executing blocks

An input block is executed at once. The execution of a generate block begins a run and
sends its request; it is complete when the answer has come. A failure is the result of
its block and stops nothing else.

`execute` and `executeAll` execute blocks when nothing else happens meanwhile;
`PromptChain.Flow.Schedule` is about executions that overlap.
-/

namespace PromptChain

/-- The result that a block gets from an answer or a failure. -/
def Block.Result.ofAnswer : Except Failure Answer → Block.Result
  | .ok answer => answer.toResult
  | .error failure => .failed failure.message

/-- How the execution of a block starts. -/
inductive Start where
  /-- There is no such block. -/
  | absent
  /-- The execution is complete. -/
  | done (outcome : Outcome)
  /-- A run waits for its answer. -/
  | waiting (run : Run) (ticket : Ticket Answer)

variable {π : Type} [Provider π]

/-- Start to execute the first block with an id. -/
def Store.start (id : String) (store : Store) (provider : π) : Start × Store × π :=
  match store.find? id, store.indexOf? id with
  | some block, some index =>
    match block.kind with
    | .input =>
      let outcome := ⟨id, index, none, block.settings.input?.map .text⟩
      (.done outcome, (store.update? id Block.settle).getD store, provider)
    | .generate =>
      match store.begin? id with
      | none => (.absent, store, provider)
      | some (run, request, after) =>
        let (ticket, provider) := request.send provider
        (.waiting run ticket, after, provider)
  | _, _ => (.absent, store, provider)

/-- Execute the first block with an id, while nothing else happens. -/
def Store.execute (id : String) (store : Store) (provider : π) : Option Outcome × Store × π :=
  match store.start id provider with
  | (.absent, store, provider) => (none, store, provider)
  | (.done outcome, store, provider) => (some outcome, store, provider)
  | (.waiting run ticket, store, provider) =>
    let result := Block.Result.ofAnswer ticket.answer
    (some (run.outcome result), store.finish run result, provider)

/-- Execute blocks one after the other, while nothing else happens. -/
def Store.executeAll : List String → Store → π → List Outcome × Store × π
  | [], store, provider => ([], store, provider)
  | id :: rest, store, provider =>
    let (outcome?, store, provider) := store.execute id provider
    let (outcomes, store, provider) := executeAll rest store provider
    (outcome?.toList ++ outcomes, store, provider)

/-- Execute the block at a position, while nothing else happens. -/
def Store.executeAt (index : Nat) (store : Store) (provider : π) : Option Outcome × Store × π :=
  match store.blocks[index]? with
  | some block => store.execute block.id provider
  | none => (none, store, provider)

/-- Execute all blocks in order, while nothing else happens. -/
def Store.executeFlow (store : Store) (provider : π) : List Outcome × Store × π :=
  store.executeAll (store.blocks.map Block.id) provider

/-! ## Keys -/

/-- A key press, with the modifiers held down. -/
structure KeyPress where
  key : String
  control : Bool
  command : Bool
deriving DecidableEq, Repr

/-- The key presses that execute the block that has the focus. -/
def KeyPress.executes (press : KeyPress) : Bool :=
  (press.control || press.command) && press.key = "Enter"

/-- The block that a key press executes: the one with the focus, if a model answers
    it. -/
def Store.target? (store : Store) (press : KeyPress) (focus? : Option String) : Option String :=
  if press.executes then
    focus?.filter fun id => (store.find? id).any Block.isGenerate
  else none

end PromptChain
