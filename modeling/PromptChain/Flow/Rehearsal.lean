import PromptChain.Flow.Engine
import PromptChain.Provider.Scripted

/-!
# Rehearsing a chain

A rehearsal is a store together with a scripted provider, on which commands are carried
out one after the other. Besides the operations of the store and the executions, there
are commands to look at the store, to keep a version of it for later, and to write to
it while other commands get in between (`Command.contend`).
-/

namespace PromptChain

/-- What is to be executed. -/
inductive Target where
  /-- The block at a position. -/
  | position (index : Nat)
  | block (id : String)
  /-- All blocks in order. -/
  | flow
  /-- The block that a key press executes. -/
  | key (press : KeyPress) (focus? : Option String)
deriving Repr

/-- A command to a rehearsal. -/
inductive Command where
  | execute (target : Target)
  | add (kind : Block.Kind)
  | push (block : Block)
  | remove (id : String)
  | rename (id name : String)
  | configure (id : String) (patch : Block.Patch)
  | toggle (id : String)
  | move (source target : Nat)
  | mentionable (index : Nat)
  | find (id : String)
  | observe
  /-- Keep the current version of the store. -/
  | hold
  /-- Look at the version that was kept. -/
  | held
  /-- Give the provider more replies. -/
  | script (replies : List Scripted.Reply)
  /-- Append to the name of a block, while a command gets in between each time. -/
  | contend (id suffix : String) (between : List Command)
  /-- A command that cannot be understood. -/
  | refused (failure : Failure)
deriving Repr

/-- What a command answers. -/
inductive Reply where
  | nothing
  | flag (b : Bool)
  | id (id : String)
  | outcome (outcome? : Option Outcome)
  | outcomes (outcomes : List Outcome)
  | mentionable (offered : List Variable)
  | found (index? : Option Nat) (block? : Option Block) (store : Store)
  | version (version : Nat)
  | kept (store? : Option Store)
  /-- The number of attempts to write, what was answered in between, and the version that
      was written in the end. -/
  | contention (attempts : Nat) (between : List Reply) (version? : Option Nat)
  | failure (failure : Failure)
deriving Repr

/-- A rehearsal. -/
structure Rehearsal where
  store : Store
  provider : Scripted
  /-- The version of the store that was kept. -/
  kept? : Option Store
  /-- The number of ids that were given to new blocks. -/
  created : Nat
  /-- The ids for new blocks, one after the other. -/
  newId : Nat → String

namespace Target

/-- The blocks that are executed, one after the other. -/
def ids (store : Store) : Target → List String
  | position index => (store.blocks[index]?.map Block.id).toList
  | block id => [id]
  | flow => store.blocks.map Block.id
  | key press focus? => (store.target? press focus?).toList

/-- The answer about the executions. -/
def reply (outcomes : List Outcome) : Target → Reply
  | position _ | block _ => .outcome outcomes.head?
  | flow => .outcomes outcomes
  | key .. => .flag !outcomes.isEmpty

end Target

namespace Rehearsal

/-- Write to the store; the answer says whether there was something to write. -/
def write (rehearsal : Rehearsal) (operation : Store → Option Store) : Reply × Rehearsal :=
  match operation rehearsal.store with
  | some store => (.flag true, { rehearsal with store })
  | none => (.flag false, rehearsal)

/-- Execute without being disturbed. -/
def execute (rehearsal : Rehearsal) (target : Target) : Reply × Rehearsal :=
  let (outcomes, store, provider) :=
    rehearsal.store.executeAll (target.ids rehearsal.store) rehearsal.provider
  (target.reply outcomes, { rehearsal with store, provider })

/-- Add a new block at the end. -/
def add (rehearsal : Rehearsal) (kind : Block.Kind) : Reply × Rehearsal :=
  let id := rehearsal.newId rehearsal.created
  (.id id,
    { rehearsal with
      store := rehearsal.store.push (.new id kind), created := rehearsal.created + 1 })

end Rehearsal

/-- The block with more text at the end of its name. -/
def Block.extendName (suffix : String) (block : Block) : Block :=
  { block with name := block.name ++ suffix }

mutual

/-- Carry out a command, undisturbed. -/
def Command.perform : Command → Rehearsal → Reply × Rehearsal
  | .execute target, r => r.execute target
  | .add kind, r => r.add kind
  | .push block, r => (.id block.id, { r with store := r.store.push block })
  | .remove id, r => r.write (Store.remove? id)
  | .rename id name, r => r.write (Store.rename? id name)
  | .configure id patch, r => r.write (Store.configure? id patch)
  | .toggle id, r => r.write (Store.toggle? id)
  | .move source target, r => r.write (Store.move? source target)
  | .mentionable index, r => (.mentionable (r.store.variablesAt index), r)
  | .find id, r => (.found (r.store.indexOf? id) (r.store.find? id) r.store, r)
  | .observe, r => (.nothing, r)
  | .hold, r => (.version r.store.version, { r with kept? := some r.store })
  | .held, r => (.kept r.kept?, r)
  | .script replies, r => (.nothing, { r with provider := r.provider.extend replies })
  | .contend id suffix between, r =>
    let transform := Block.changeFirst? id (Block.extendName suffix)
    let (attempts, replies, version?, r) := contendWith transform between r.store r
    (.contention attempts replies version?, r)
  | .refused failure, r => (.failure failure, r)

/-- Write to the store, having looked at it, while the next command gets in between. As
    long as it changes the store, the writer starts again from the changed one. -/
def contendWith (transform : Store.Transform) :
    List Command → Store → Rehearsal → Nat × List Reply × Option Nat × Rehearsal
  | [], seen, r =>
    match (transform seen.blocks).bind fun blocks => seen.swap? blocks r.store with
    | none => (1, [], none, r)
    | some store => (1, [], some store.version, { r with store })
  | command :: rest, seen, r =>
    let (reply, r) := command.perform r
    match transform seen.blocks with
    | none => (1, [reply], none, r)
    | some blocks =>
      match seen.swap? blocks r.store with
      | some store => (1, [reply], some store.version, { r with store })
      | none =>
        let (attempts, replies, version?, r) := contendWith transform rest r.store r
        (attempts + 1, reply :: replies, version?, r)

end

end PromptChain
