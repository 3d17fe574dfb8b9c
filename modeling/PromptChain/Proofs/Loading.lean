import PromptChain.Flow.Definition
import PromptChain.Proofs.Pass

/-!
# Loaded flows

A document may give its blocks ids, and a flow is read from it even if it gives one id to two
blocks. An execution finds its block by the id. So the executions of a loaded flow come to the
blocks at their places just if the given ids are distinct, as the new ids always are.

* `Store.index_executeFlow`: the execution of all blocks comes, for each block, to the first one
  with its id;
* `Store.executesEach_iff`, `Store.executesAll_iff`: so each block has its turn just if no two
  have the same id;
* `FlowDefinition.ids_toBlocks`: the ids of a loaded flow are the given ones and the new ones;
* `FlowDefinition.executed_in_place_iff`: so each block of a loaded flow has its turn just if the
  given ids are distinct.
-/

namespace PromptChain

/-! ## Places -/

theorem Block.First.idxOf {id : String} {blocks before after : List Block} {block : Block}
    (h : First id blocks before block after) : (blocks.map Block.id).idxOf id = before.length := by
  obtain ⟨rfl, rfl, hne⟩ := h
  have hnot : block.id ∉ before.map Block.id := by simpa using hne
  rw [List.map_append, List.idxOf_append_of_notMem hnot, List.map_cons, List.idxOf_cons_self,
    List.length_map, Nat.add_zero]

namespace Store

variable {store : Store}

/-- For each block, the place of the first block with its id. -/
def places (store : Store) : List Nat :=
  (store.blocks.map Block.id).map (store.blocks.map Block.id).idxOf

/-- Each block is the first one with its id just if no two have the same. -/
theorem places_eq_range_iff :
    store.places = List.range store.blocks.length ↔ (store.blocks.map Block.id).Nodup := by
  constructor
  · intro h
    refine List.Nodup.of_map (store.blocks.map Block.id).idxOf ?_
    rw [← places, h]
    exact List.nodup_range
  · intro hd
    refine List.ext_getElem (by simp [places]) fun index _ _ => ?_
    simp only [places, List.getElem_map, List.getElem_range]
    have := hd.idxOf_getElem index (by simpa using ‹index < (List.range _).length›)
    rwa [List.getElem_map] at this

variable {π : Type} [Provider π]

/-- An execution comes to the first block with the id. -/
theorem exists_of_execute {id : String} {before after : List Block} {block : Block}
    (hf : Block.First id store.blocks before block after) (provider : π) :
    ∃ outcome store' provider', store.execute id provider = (some outcome, store', provider') ∧
      outcome.index = before.length ∧
      store'.blocks.map Block.id = store.blocks.map Block.id := by
  cases hk : block.kind with
  | input =>
    have hs := start_of_input provider hf hk
    rw [execute, hs]
    exact ⟨_, _, _, rfl, rfl, ids_of_start hs⟩
  | generate =>
    have hs := start_of_generate provider hf hk
    rw [execute, hs]
    refine ⟨_, _, _, rfl, rfl, ?_⟩
    rw [ids_of_finish]
    exact ids_of_start hs

/-- The execution of the block at a place comes to the first one with its id. -/
theorem index_executeAt (store : Store) (index : Nat) (provider : π) :
    (store.executeAt index provider).1.map Outcome.index = store.places[index]? := by
  cases hat : store.blocks[index]? with
  | none => simp [executeAt, places, hat]
  | some block =>
    obtain ⟨before, first, after, hf⟩ :=
      Block.exists_first_of_mem_ids (List.mem_map_of_mem (List.mem_of_getElem? hat))
    obtain ⟨outcome, store', provider', hexec, hindex, -⟩ := exists_of_execute hf provider
    simp [executeAt, places, hat, hexec, hindex, hf.idxOf]

/-- Executions of blocks in the list come, for each id, to the first block with it. -/
theorem index_executeAll {ids : List String} (h : ids ⊆ store.blocks.map Block.id)
    (provider : π) :
    (store.executeAll ids provider).1.map Outcome.index =
      ids.map (store.blocks.map Block.id).idxOf := by
  induction ids generalizing store provider with
  | nil => rfl
  | cons id rest ih =>
    rw [List.cons_subset] at h
    obtain ⟨before, block, after, hf⟩ := Block.exists_first_of_mem_ids h.1
    obtain ⟨outcome, store', provider', hexec, hindex, hids⟩ := exists_of_execute hf provider
    have hrest := @ih store' (by rw [hids]; exact h.2) provider'
    rw [hids] at hrest
    simp [executeAll, hexec, hrest, hindex, hf.idxOf]

/-- The execution of all blocks comes, for each block, to the first one with its id. -/
theorem index_executeFlow (store : Store) (provider : π) :
    (store.executeFlow provider).1.map Outcome.index = store.places :=
  index_executeAll (List.Subset.refl _) provider

/-- The execution of the block at a place, while nothing else happens, is the turn of that
    block, and leaves the others as they are. -/
def ExecutesEach (store : Store) : Prop :=
  ∀ (before : List Block) (block : Block) (after : List Block),
    store.blocks = before ++ block :: after →
    ∀ {π : Type} [Provider π] (provider : π),
      let turned := block.turn store.blocks before.length provider
      store.executeAt before.length provider =
        (some turned.1,
          ⟨store.version + (if block.isGenerate then 2 else 1),
            before ++ block.withResult turned.1.result? :: after⟩, turned.2)

/-- The execution of all blocks, while nothing else happens, is one pass over them: there is one
    outcome for each block, which tells its place, and each block has the result of its own
    outcome. -/
def ExecutesAll (store : Store) : Prop :=
  ∀ {π : Type} [Provider π] (provider : π), ∃ outcomes store' provider',
    store.executeFlow provider = (outcomes, store', provider') ∧
    pass store.blocks provider = (outcomes, provider') ∧
    outcomes.map Outcome.id = store.blocks.map Block.id ∧
    outcomes.map Outcome.index = List.range store.blocks.length ∧
    store'.blocks = carry store.blocks outcomes

/-- The blocks of a fresh list are executed at their places just if no two have the same id. -/
theorem executesEach_iff (hfresh : ∀ block ∈ store.blocks, block.IsFresh) :
    store.ExecutesEach ↔ (store.blocks.map Block.id).Nodup := by
  constructor
  · intro h
    rw [← places_eq_range_iff]
    refine List.ext_getElem (by simp [places]) fun index hindex hrange => ?_
    have hlt : index < store.blocks.length := by simpa using hrange
    -- An execution of the block at the place reports the place of the block it came to.
    have hturn := h (store.blocks.take index) store.blocks[index] (store.blocks.drop (index + 1))
      (by simp) (Failing.mk .missingPrompt)
    have hplace := index_executeAt store index (Failing.mk .missingPrompt)
    rw [List.length_take_of_le (Nat.le_of_lt hlt)] at hturn
    rw [hturn, List.getElem?_eq_getElem hindex, Option.map_some, Block.turn_index] at hplace
    rw [List.getElem_range]
    exact (Option.some.inj hplace).symm
  · intro hd before block after hsplit π _ provider
    have hat : store.blocks[before.length]? = some block := by simp [hsplit]
    have hf := Block.first_of_distinct hd hsplit
    rw [executeAt, hat]
    exact execute_of_first hf (hfresh block hf.mem) provider

/-- All blocks of a fresh list have their turns just if no two have the same id. -/
theorem executesAll_iff (hfresh : ∀ block ∈ store.blocks, block.IsFresh) :
    store.ExecutesAll ↔ (store.blocks.map Block.id).Nodup := by
  constructor
  · intro h
    obtain ⟨outcomes, store', provider', hflow, -, -, hindex, -⟩ := h (Failing.mk .missingPrompt)
    rw [← places_eq_range_iff, ← index_executeFlow store (Failing.mk .missingPrompt), hflow]
    exact hindex
  · intro hd π _ provider
    exact ⟨_, _, _, executeFlow_eq_pass ⟨hd, hfresh⟩ provider, rfl,
      map_foldl_passStep _ _ _ Block.turn_id, index_foldl_passStep _ _ _, rfl⟩

end Store

/-! ## Ids -/

namespace FlowDefinition

/-- The ids that the document gives. -/
def givenIds (definition : FlowDefinition) : List String :=
  definition.blocks.filterMap BlockDefinition.id?

/-- The new ids of the other blocks. -/
def newIds (definition : FlowDefinition) (newId : Nat → String) : List String :=
  (List.range definition.newIdCount).map newId

/-- The new ids are fresh: no two are the same, and none is given by the document. -/
structure HasFreshIds (definition : FlowDefinition) (newId : Nat → String) : Prop where
  distinct : (definition.newIds newId).Nodup
  unused : ∀ id ∈ definition.newIds newId, id ∉ definition.givenIds

variable {definition : FlowDefinition} {newId : Nat → String} (defaults : Configuration.Defaults)

theorem ids_blocksFrom (count : Nat) (definitions : List BlockDefinition) :
    ((blocksFrom defaults newId count definitions).map Block.id).Perm
      ((List.range' count (definitions.countP (·.id?.isNone))).map newId ++
        definitions.filterMap BlockDefinition.id?) := by
  induction definitions generalizing count with
  | nil => exact .nil
  | cons described rest ih =>
    cases hid : described.id? with
    | none =>
      simpa [blocksFrom, BlockDefinition.toBlock, Block.new, hid, List.range'_succ] using
        ih (count + 1)
    | some id =>
      simpa [blocksFrom, BlockDefinition.toBlock, Block.new, hid] using
        ((ih count).cons id).trans List.perm_middle.symm

/-- The ids of a loaded flow are the new ones and the given ones. -/
theorem ids_toBlocks (definition : FlowDefinition) :
    ((definition.toBlocks defaults newId).map Block.id).Perm
      (definition.newIds newId ++ definition.givenIds) := by
  rw [newIds, List.range_eq_range']
  exact ids_blocksFrom defaults 0 definition.blocks

/-- The ids of a loaded flow are distinct just if the given ones are. -/
theorem nodup_ids_toBlocks (h : definition.HasFreshIds newId) :
    ((definition.toBlocks defaults newId).map Block.id).Nodup ↔ definition.givenIds.Nodup := by
  rw [(definition.ids_toBlocks defaults).nodup_iff, List.nodup_append']
  exact ⟨fun hd => hd.2.1, fun hd => ⟨h.distinct, hd, h.unused⟩⟩

/-- A block of the flow is one that the document describes, in the same place. -/
theorem forall₂_blocksFrom (count : Nat) (definitions : List BlockDefinition) :
    List.Forall₂ (fun described block => ∃ id, block = described.toBlock defaults id) definitions
      (blocksFrom defaults newId count definitions) := by
  induction definitions generalizing count with
  | nil => exact .nil
  | cons described rest ih => exact .cons ⟨_, rfl⟩ (ih _)

/-- No run of a loaded block has begun. -/
theorem isFresh_blocksFrom (count : Nat) (definitions : List BlockDefinition) :
    ∀ block ∈ blocksFrom defaults newId count definitions, block.IsFresh := by
  induction definitions generalizing count with
  | nil => exact fun _ hb => absurd hb List.not_mem_nil
  | cons described rest ih => exact List.forall_mem_cons.2 ⟨⟨rfl, rfl, rfl⟩, ih _⟩

/-- The blocks of a loaded flow have their turns just if no two of them are given the same id. -/
theorem executed_in_place_iff (h : definition.HasFreshIds newId) :
    let store := Store.ofBlocks (definition.toBlocks defaults newId)
    -- The blocks are those that the document describes, in order.
    List.Forall₂ (fun described block => ∃ id, block = described.toBlock defaults id)
        definition.blocks store.blocks ∧
      -- An execution that is to come to the block at a place comes to the first one with its id.
      (∀ {π : Type} [Provider π] (provider : π),
        (store.executeFlow provider).1.map Outcome.index = store.places ∧
        ∀ index, (store.executeAt index provider).1.map Outcome.index = store.places[index]?) ∧
      (store.ExecutesEach ↔ definition.givenIds.Nodup) ∧
      (store.ExecutesAll ↔ definition.givenIds.Nodup) := by
  intro store
  have hfresh : ∀ block ∈ store.blocks, block.IsFresh :=
    isFresh_blocksFrom defaults 0 definition.blocks
  rw [← nodup_ids_toBlocks defaults h]
  exact ⟨forall₂_blocksFrom defaults 0 definition.blocks,
    fun provider => ⟨store.index_executeFlow provider,
      fun index => store.index_executeAt index provider⟩,
    Store.executesEach_iff hfresh, Store.executesAll_iff hfresh⟩

/-- Two blocks with ids of their own, and one that gets a new id. -/
theorem executed_in_place_three :
    let definition : FlowDefinition := ⟨none,
      [{ BlockDefinition.ofKind .input with id? := some "a" }, .ofKind .generate,
        { BlockDefinition.ofKind .input with id? := some "b" }]⟩
    definition.HasFreshIds (fun _ => "new") ∧
      (Store.ofBlocks (definition.toBlocks .standard fun _ => "new")).ExecutesAll := by
  intro definition
  have h : definition.HasFreshIds (fun _ => "new") := ⟨by decide, by decide⟩
  obtain ⟨-, -, -, hall⟩ := executed_in_place_iff .standard h
  exact ⟨h, hall.2 (by decide)⟩

/-- Two blocks are given the same id, and the flow is read all the same. What is executed in the
    place of the second block is the first one, and the second block never gets a result. -/
theorem first_executed_in_place_of_second :
    let text := "\x7b\"blocks\":[" ++
      "\x7b\"kind\":\"Input\",\"id\":\"a\",\"input\":\"one\"\x7d," ++
      "\x7b\"kind\":\"Input\",\"id\":\"a\",\"input\":\"two\"\x7d]\x7d"
    let definition : FlowDefinition := ⟨none,
      [{ BlockDefinition.ofKind .input with id? := some "a", input? := some "one" },
        { BlockDefinition.ofKind .input with id? := some "a", input? := some "two" }]⟩
    let store := Store.ofBlocks (definition.toBlocks .standard fun _ => "new")
    let provider : Failing := ⟨.missingPrompt⟩
    let tell (outcome : Outcome) := (outcome.index, outcome.result?.bind Block.Result.text?)
    (ofText none text .json).toOption = some definition ∧
      definition.HasFreshIds (fun _ => "new") ∧
      (store.executeAt 1 provider).1.map tell = some (0, some "one") ∧
      (store.executeFlow provider).1.map tell = [(0, some "one"), (0, some "one")] ∧
      ((store.executeFlow provider).2.1.blocks.map fun block =>
        block.result?.bind Block.Result.text?) = [some "one", none] ∧
      ¬ store.ExecutesEach ∧ ¬ store.ExecutesAll := by
  intro text definition store provider tell
  have hfresh : ∀ block ∈ store.blocks, block.IsFresh :=
    isFresh_blocksFrom .standard 0 definition.blocks
  have hsame : ¬ (store.blocks.map Block.id).Nodup := by decide
  exact ⟨by decide +kernel, ⟨by decide, by decide⟩, by decide +kernel, by decide +kernel,
    by decide +kernel, mt (Store.executesEach_iff hfresh).1 hsame,
    mt (Store.executesAll_iff hfresh).1 hsame⟩

end FlowDefinition

end PromptChain
