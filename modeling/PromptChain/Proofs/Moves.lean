import Mathlib.Data.List.InsertIdx
import Mathlib.Data.List.Perm.Basic
import PromptChain.Flow.Rehearsal
import PromptChain.Proofs.BlockList

/-!
# Moving a block

A move takes a block out at one position and puts it in at another. What it does to the list
can be said without the way there (`Block.Moved`): the block that was at the one position is
at the other, and without it the two lists are the same. Said like this, a move looks the same
from both ends, and so each move is undone by the one in the other direction.

* `Block.moved?_eq_some_iff`: a move makes one list of another just if the lists are related in
  this way. As it only speaks of the list without the block, it does not matter whether the
  block goes forward or backward, nor that its removal shifts the positions after it;
* `move_undone`: what a move does, and the move back.
-/

namespace PromptChain

namespace Block

/-- A block that is at one position of a list is at another one of a second list, and without
    it the lists are the same. -/
structure Moved (source target : Nat) (blocks blocks' : List Block) : Prop where
  apart : source ≠ target
  block : ∃ block, blocks[source]? = some block ∧ blocks'[target]? = some block
  others : blocks'.eraseIdx target = blocks.eraseIdx source

namespace Moved

variable {source target : Nat} {blocks blocks' : List Block}

theorem symm (h : Moved source target blocks blocks') : Moved target source blocks' blocks := by
  obtain ⟨block, hb, hb'⟩ := h.block
  exact ⟨h.apart.symm, ⟨block, hb', hb⟩, h.others.symm⟩

theorem source_lt (h : Moved source target blocks blocks') : source < blocks.length := by
  obtain ⟨block, hb, -⟩ := h.block
  exact (List.getElem?_eq_some_iff.1 hb).1

theorem target_lt (h : Moved source target blocks blocks') : target < blocks'.length :=
  h.symm.source_lt

theorem length_eq (h : Moved source target blocks blocks') : blocks'.length = blocks.length := by
  have hothers := congrArg List.length h.others
  have hs := h.source_lt
  have ht := h.target_lt
  rw [List.length_eraseIdx_of_lt hs, List.length_eraseIdx_of_lt ht] at hothers
  omega

/-- Nothing is lost and nothing is added. -/
theorem perm (h : Moved source target blocks blocks') : blocks'.Perm blocks := by
  obtain ⟨block, hb, hb'⟩ := h.block
  obtain ⟨hs, rfl⟩ := List.getElem?_eq_some_iff.1 hb
  obtain ⟨ht, heq⟩ := List.getElem?_eq_some_iff.1 hb'
  have hperm := List.getElem_cons_eraseIdx_perm ht
  rw [heq, h.others] at hperm
  exact hperm.symm.trans (List.getElem_cons_eraseIdx_perm hs)

end Moved

variable {source target : Nat} {blocks blocks' : List Block}

/-- Between positions of the list that differ, the block is taken out and then put in. -/
theorem moved?_of_lt (hne : source ≠ target) (hs : source < blocks.length)
    (ht : target < blocks.length) :
    moved? source target blocks =
      some ((blocks.eraseIdx source).insertIdx target blocks[source]) := by
  have hguard : ¬(source = target || blocks.length ≤ target) = true := by simp [hne, ht]
  rw [moved?, if_neg hguard, List.getElem?_eq_getElem hs, Option.map_some]

/-- There is nothing to move unless both are positions of the list, and differ. -/
theorem moved?_eq_none_iff :
    moved? source target blocks = none ↔
      blocks.length ≤ source ∨ blocks.length ≤ target ∨ source = target := by
  constructor
  · intro h
    by_contra hvain
    rw [not_or, not_or, Nat.not_le, Nat.not_le] at hvain
    obtain ⟨hs, ht, hne⟩ := hvain
    rw [moved?_of_lt hne hs ht] at h
    cases h
  · rintro (hs | ht | rfl)
    · simp [moved?, List.getElem?_eq_none hs]
    · simp [moved?, ht]
    · simp [moved?]

/-- A move makes one list of another just if the block is moved between them. -/
theorem moved?_eq_some_iff :
    moved? source target blocks = some blocks' ↔ Moved source target blocks blocks' := by
  constructor
  · intro h
    have hsome : ¬moved? source target blocks = none := by simp [h]
    rw [moved?_eq_none_iff, not_or, not_or, Nat.not_le, Nat.not_le] at hsome
    obtain ⟨hs, ht, hne⟩ := hsome
    rw [moved?_of_lt hne hs ht] at h
    obtain rfl := Option.some.inj h
    have hle : target ≤ (blocks.eraseIdx source).length := by
      rw [List.length_eraseIdx_of_lt hs]
      omega
    refine ⟨hne, ⟨blocks[source], List.getElem?_eq_getElem hs, ?_⟩, ?_⟩
    · rw [List.getElem?_insertIdx_self, if_pos hle]
    · rw [List.eraseIdx_insertIdx_self]
  · intro h
    have ht : target < blocks.length := h.length_eq ▸ h.target_lt
    obtain ⟨block, hb, hb'⟩ := h.block
    obtain ⟨hs, heq⟩ := List.getElem?_eq_some_iff.1 hb
    obtain ⟨hlt, rfl⟩ := List.getElem?_eq_some_iff.1 hb'
    rw [moved?_of_lt h.apart hs ht, heq, ← h.others, List.insertIdx_eraseIdx_getElem]

/-- Forward and backward, over a list of three. -/
example (a b c : Block) :
    moved? 2 0 [a, b, c] = some [c, a, b] ∧ moved? 0 2 [c, a, b] = some [a, b, c] := ⟨rfl, rfl⟩

end Block

namespace Store

variable {source target : Nat} {store : Store} {blocks : List Block}

theorem move?_of_moved (h : Block.Moved source target store.blocks blocks) :
    store.move? source target = some ⟨store.version + 1, blocks⟩ := by
  rw [move?, write?, Block.moved?_eq_some_iff.2 h]
  rfl

/-- There is nothing to move, or a move leads to the next version. -/
theorem move?_cases (source target : Nat) (store : Store) :
    let isVain := store.blocks.length ≤ source ∨ store.blocks.length ≤ target ∨ source = target
    (isVain ∧ store.move? source target = none) ∨
      (¬isVain ∧ ∃ blocks, Block.Moved source target store.blocks blocks ∧
        store.move? source target = some ⟨store.version + 1, blocks⟩) := by
  intro isVain
  by_cases hvain : isVain
  · refine .inl ⟨hvain, ?_⟩
    rw [move?, write?, Block.moved?_eq_none_iff.2 hvain]
    rfl
  · obtain ⟨blocks, hm⟩ := Option.ne_none_iff_exists'.1 (mt Block.moved?_eq_none_iff.1 hvain)
    have hmoved := Block.moved?_eq_some_iff.1 hm
    exact .inr ⟨hvain, blocks, hmoved, move?_of_moved hmoved⟩

end Store

namespace Rehearsal

variable {r : Rehearsal} {operation : Store → Option Store}

theorem write_of_none (h : operation r.store = none) : r.write operation = (.flag false, r) := by
  rw [write, h]

theorem write_of_some {store : Store} (h : operation r.store = some store) :
    r.write operation = (.flag true, { r with store }) := by
  rw [write, h]

end Rehearsal

/-- A move between positions of the list that differ brings the block from the one to the other
    and leaves the others in their order; the move back restores the list. Any other move
    changes nothing. -/
theorem move_undone (source target : Nat) (r : Rehearsal) :
    let blocks := r.store.blocks
    let after := (Command.move source target).perform r
    if blocks.length ≤ source ∨ blocks.length ≤ target ∨ source = target then
      after = (.flag false, r)
    else
      after.1 = .flag true ∧
      after.2.store.version = r.store.version + 1 ∧
      (∃ block, blocks[source]? = some block ∧ after.2.store.blocks[target]? = some block) ∧
      after.2.store.blocks.eraseIdx target = blocks.eraseIdx source ∧
      after.2.store.blocks.Perm blocks ∧
      (Command.move target source).perform after.2 =
        (.flag true, { r with store := ⟨r.store.version + 2, blocks⟩ }) := by
  intro blocks after
  have hafter : after = r.write (Store.move? source target) := by
    rw [← Command.perform]
  rcases r.store.move?_cases source target with ⟨hvain, hnone⟩ | ⟨hvain, moved, hm, hsome⟩
  · rw [if_pos hvain, hafter, Rehearsal.write_of_none hnone]
  · have hback : Store.move? target source ⟨r.store.version + 1, moved⟩ =
        some ⟨r.store.version + 2, blocks⟩ := Store.move?_of_moved hm.symm
    rw [if_neg hvain, hafter, Rehearsal.write_of_some hsome]
    refine ⟨rfl, rfl, hm.block, hm.others, hm.perm, ?_⟩
    rw [Command.perform, Rehearsal.write_of_some hback]

end PromptChain
