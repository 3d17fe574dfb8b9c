import Mathlib.Data.List.Nodup
import PromptChain.Flow.Engine

/-!
# Lists of blocks

The operations on a list of blocks work on the first block with an id, or on the block
at a position. `Block.First` takes a list apart at the first block with an id, and each
operation is described by the parts. If no two blocks of the list have the same id,
`First` takes it apart at *the* block with the id (`First.after_ne`).
-/

namespace PromptChain

namespace Block

/-- A list taken apart at its first block with an id. -/
structure First (id : String) (blocks before : List Block) (block : Block) (after : List Block) :
    Prop where
  split : blocks = before ++ block :: after
  id_eq : block.id = id
  before_ne : ∀ other ∈ before, other.id ≠ id

variable {id : String} {blocks before after : List Block} {block : Block}

/-- Either there is a first block with an id, or there is none at all. -/
theorem first_or_absent (id : String) (blocks : List Block) :
    (∃ before block after, First id blocks before block after) ∨
      ∀ block ∈ blocks, block.id ≠ id := by
  induction blocks with
  | nil => exact .inr fun _ h => absurd h List.not_mem_nil
  | cons head rest ih =>
    by_cases hid : head.id = id
    · exact .inl ⟨[], head, rest, rfl, hid, fun _ h => absurd h List.not_mem_nil⟩
    rcases ih with ⟨before, block, after, h⟩ | h
    · refine .inl ⟨head :: before, block, after, by rw [h.split]; rfl, h.id_eq, ?_⟩
      exact List.forall_mem_cons.2 ⟨hid, h.before_ne⟩
    · exact .inr (List.forall_mem_cons.2 ⟨hid, h⟩)

/-- There is a first block with the id of any block. -/
theorem exists_first_of_mem_ids (h : id ∈ blocks.map Block.id) :
    ∃ before block after, First id blocks before block after := by
  refine (first_or_absent id blocks).resolve_right fun ha => ?_
  obtain ⟨block, hb, heq⟩ := List.mem_map.1 h
  exact ha block hb heq

/-- With distinct ids, a block at any place is the first one with its id. -/
theorem first_of_distinct (hd : (blocks.map Block.id).Nodup)
    (hsplit : blocks = before ++ block :: after) : First block.id blocks before block after := by
  refine ⟨hsplit, rfl, fun other ho heq => ?_⟩
  rw [hsplit, List.map_append, List.map_cons, List.nodup_middle, List.nodup_cons] at hd
  refine hd.1 (List.mem_append_left _ ?_)
  rw [← heq]
  exact List.mem_map_of_mem ho

/-- With distinct ids, every block is the first one with its id. -/
theorem exists_first_of_mem (hd : (blocks.map Block.id).Nodup) (hb : block ∈ blocks) :
    ∃ before after, First block.id blocks before block after := by
  obtain ⟨before, after, hsplit⟩ := List.append_of_mem hb
  exact ⟨before, after, first_of_distinct hd hsplit⟩

/-- A block is the first one of the list of it alone. -/
theorem first_singleton (block : Block) : First block.id [block] [] block [] :=
  ⟨rfl, rfl, fun _ h => absurd h List.not_mem_nil⟩

namespace First

theorem mem (h : First id blocks before block after) : block ∈ blocks := by
  simp [h.split]

/-- With distinct ids, no other block has the id. -/
theorem after_ne (h : First id blocks before block after) (hd : (blocks.map Block.id).Nodup) :
    ∀ other ∈ after, other.id ≠ id := by
  rw [h.split, List.map_append, List.map_cons, List.nodup_middle, List.nodup_cons] at hd
  intro other ho heq
  refine hd.1 (List.mem_append_right _ (List.mem_map.2 ⟨other, ho, ?_⟩))
  rw [heq, h.id_eq]

/-- With distinct ids, the blocks beside the first one with an id do not have it. -/
theorem beside (h : First id blocks before block after) (hd : (blocks.map Block.id).Nodup) :
    ∀ other ∈ before ++ after, other ∈ blocks ∧ other.id ≠ id := by
  intro other ho
  rcases List.mem_append.1 ho with hb | ha
  · exact ⟨by simp [h.split, hb], h.before_ne other hb⟩
  · exact ⟨by simp [h.split, ha], h.after_ne hd other ha⟩

/-- What holds of all blocks still holds of all when others have come in for the first one with
    the id, if it holds of these. -/
theorem forall_mem {P : Block → Prop} (h : First id blocks before block after)
    (hall : ∀ other ∈ blocks, P other) {put : List Block}
    (hput : P block → ∀ other ∈ put, P other) : ∀ other ∈ before ++ put ++ after, P other := by
  rw [h.split, List.forall_mem_append, List.forall_mem_cons] at hall
  rw [List.forall_mem_append, List.forall_mem_append]
  exact ⟨⟨hall.1, hput hall.2.1⟩, hall.2.2⟩

/-- The same, if one block has come in. -/
theorem forall_mem_replaced {P : Block → Prop} {block' : Block}
    (h : First id blocks before block after) (hall : ∀ other ∈ blocks, P other)
    (hput : P block → P block') : ∀ other ∈ before ++ block' :: after, P other := by
  rw [List.append_cons]
  exact h.forall_mem hall fun hb => List.forall_mem_singleton.2 (hput hb)

theorem changeFirst? (h : First id blocks before block after) (change : Block → Block) :
    changeFirst? id change blocks = some (before ++ change block :: after) := by
  obtain ⟨rfl, hid, hne⟩ := h
  induction before with
  | nil => simp [Block.changeFirst?, hid]
  | cons head rest ih =>
    rw [List.forall_mem_cons] at hne
    simp [Block.changeFirst?, hne.1, ih hne.2]

theorem removeFirst? (h : First id blocks before block after) :
    removeFirst? id blocks = some (before ++ after) := by
  obtain ⟨rfl, hid, hne⟩ := h
  induction before with
  | nil => simp [Block.removeFirst?, hid]
  | cons head rest ih =>
    rw [List.forall_mem_cons] at hne
    simp [Block.removeFirst?, hne.1, ih hne.2]

theorem find? (h : First id blocks before block after) :
    blocks.find? (·.id = id) = some block := by
  rw [List.find?_eq_some_iff_append]
  refine ⟨by simpa using h.id_eq, before, after, h.split, ?_⟩
  simpa using h.before_ne

theorem findIdx? (h : First id blocks before block after) :
    blocks.findIdx? (·.id = id) = some before.length := by
  have hnone : before.findIdx? (·.id = id) = none := by
    simpa [List.findIdx?_eq_none_iff] using h.before_ne
  rw [h.split, List.findIdx?_append, List.findIdx?_cons, hnone]
  simp [h.id_eq]

theorem getElem? (h : First id blocks before block after) :
    blocks[before.length]? = some block := by
  simp [h.split]

end First

theorem changeFirst?_eq_none (h : ∀ block ∈ blocks, block.id ≠ id) (change : Block → Block) :
    changeFirst? id change blocks = none := by
  induction blocks with
  | nil => rfl
  | cons head rest ih =>
    rw [List.forall_mem_cons] at h
    simp [Block.changeFirst?, h.1, ih h.2]

theorem removeFirst?_eq_none (h : ∀ block ∈ blocks, block.id ≠ id) :
    removeFirst? id blocks = none := by
  induction blocks with
  | nil => rfl
  | cons head rest ih =>
    rw [List.forall_mem_cons] at h
    simp [Block.removeFirst?, h.1, ih h.2]

end Block

end PromptChain
