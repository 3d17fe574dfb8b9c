import PromptChain.Block.Basic

/-!
# The store of a chain

The list of blocks is changed by writers that do not wait for each other. A writer
looks at the current list, computes a new one from it, and puts that in its place if
nobody else did so in between (`Store.swap?`); otherwise it starts again from the list
that was put there. Each list that was ever current has a version of its own, one more
than the list before it, so comparing versions tells whether the list is still the one
that was looked at.

The operations below are what a writer achieves whom nobody disturbs. They give nothing
when there is nothing to do.
-/

namespace PromptChain

/-- The current list of blocks and its version. -/
structure Store where
  /-- The number of changes so far. A word of 64 bits counts them; that there are fewer than 2⁶⁴
      is assumed, so no version comes up twice. -/
  version : Nat
  blocks : List Block
deriving Repr

/-- Change the first block with an id, if there is one. -/
def Block.changeFirst? (id : String) (change : Block → Block) : List Block → Option (List Block)
  | [] => none
  | block :: rest =>
    if block.id = id then some (change block :: rest)
    else (block :: ·) <$> changeFirst? id change rest

/-- Remove the first block with an id, if there is one. -/
def Block.removeFirst? (id : String) : List Block → Option (List Block)
  | [] => none
  | block :: rest => if block.id = id then some rest else (block :: ·) <$> removeFirst? id rest

/-- Take the block at one position out and put it in at another, if both are positions of
    the list and differ. -/
def Block.moved? (source target : Nat) (blocks : List Block) : Option (List Block) :=
  if source = target || blocks.length ≤ target then none
  else blocks[source]?.map fun block => (blocks.eraseIdx source).insertIdx target block

/-- A block as the block after it may mention it. -/
structure Variable where
  id : String
  name : String
  kind : Block.Kind
deriving DecidableEq, Repr

/-- The mention of a variable in a template. -/
def Variable.mention (v : Variable) : String := "@[" ++ v.name ++ "](" ++ v.id ++ ")"

namespace Store

/-- A store with the given blocks, in its first version. -/
def ofBlocks (blocks : List Block) : Store := ⟨0, blocks⟩

/-- The position of the first block with an id. -/
def indexOf? (store : Store) (id : String) : Option Nat :=
  store.blocks.findIdx? (·.id = id)

/-- The first block with an id. -/
def find? (store : Store) (id : String) : Option Block :=
  store.blocks.find? (·.id = id)

/-- What the block at a position may mention: the block before it. -/
def variablesAt (store : Store) (index : Nat) : List Variable :=
  match index with
  | 0 => []
  | i + 1 => (store.blocks[i]?.map fun block => ⟨block.id, block.name, block.kind⟩).toList

/-! ## Writing -/

/-- What a writer makes of a list; nothing, if it has nothing to change. -/
abbrev Transform := List Block → Option (List Block)

/-- Put a list in the place of one that was looked at, if that is still current. -/
def swap? (seen : Store) (blocks : List Block) (current : Store) : Option Store :=
  if current.version = seen.version then some ⟨seen.version + 1, blocks⟩ else none

/-- Write without being disturbed. -/
def write? (transform : Transform) (store : Store) : Option Store :=
  (transform store.blocks).map fun blocks => ⟨store.version + 1, blocks⟩

/-- Change the first block with an id. -/
def update? (id : String) (change : Block → Block) : Store → Option Store :=
  write? (Block.changeFirst? id change)

/-- Put a block at the end. -/
def push (block : Block) (store : Store) : Store :=
  ⟨store.version + 1, store.blocks ++ [block]⟩

/-- Remove the first block with an id. -/
def remove? (id : String) : Store → Option Store := write? (Block.removeFirst? id)

/-- Give the first block with an id another name. -/
def rename? (id name : String) : Store → Option Store :=
  update? id fun block => { block with name }

/-- Change the settings of the first block with an id. -/
def configure? (id : String) (patch : Block.Patch) : Store → Option Store :=
  update? id fun block => { block with settings := block.settings.apply patch }

/-- Expand the first block with an id, or fold it up. -/
def toggle? (id : String) : Store → Option Store :=
  update? id fun block => { block with expanded := !block.expanded }

/-- Take the block at one position to another. -/
def move? (source target : Nat) : Store → Option Store := write? (Block.moved? source target)

end Store

end PromptChain
