import PromptChain.Proofs.BlockList

/-!
# What executions do to the list

An execution addresses a block by its id. Each law below says what a step of it does to
a list that is taken apart at the block (`Block.First`), or to a list without it. There
are three ways to start an execution (`Store.start_cases`): there is no block, or it is an
input block, which is done at once, or a run begins. In particular a run that was counted
on its block always goes on to make its request.
-/

namespace PromptChain

namespace Store

open Block

variable {id : String} {store : Store} {before after : List Block} {block : Block}

/-- A version that is written follows the one before it. -/
theorem version_of_write? {transform : Transform} {store' : Store}
    (h : store.write? transform = some store') : store'.version = store.version + 1 := by
  obtain ⟨blocks, -, rfl⟩ := Option.map_eq_some_iff.1 h
  rfl

theorem update?_of_first (h : First id store.blocks before block after) (change : Block → Block) :
    store.update? id change = some ⟨store.version + 1, before ++ change block :: after⟩ := by
  rw [update?, write?, h.changeFirst?]
  rfl

theorem update?_of_absent (h : ∀ block ∈ store.blocks, block.id ≠ id) (change : Block → Block) :
    store.update? id change = none := by
  rw [update?, write?, changeFirst?_eq_none h]
  rfl

theorem remove?_of_first (h : First id store.blocks before block after) :
    store.remove? id = some ⟨store.version + 1, before ++ after⟩ := by
  rw [remove?, write?, h.removeFirst?]
  rfl

theorem remove?_of_absent (h : ∀ block ∈ store.blocks, block.id ≠ id) :
    store.remove? id = none := by
  rw [remove?, write?, removeFirst?_eq_none h]
  rfl

/-- What changes is the first block with the id. -/
theorem exists_of_update? {change : Block → Block} {store' : Store}
    (hu : store.update? id change = some store') :
    ∃ before block after, First id store.blocks before block after ∧
      store' = ⟨store.version + 1, before ++ change block :: after⟩ := by
  rcases first_or_absent id store.blocks with ⟨before, block, after, hf⟩ | ha
  · rw [update?_of_first hf, Option.some.injEq] at hu
    exact ⟨before, block, after, hf, hu.symm⟩
  · rw [update?_of_absent ha] at hu
    cases hu

/-- What is removed is the first block with the id. -/
theorem exists_of_remove? {store' : Store} (hr : store.remove? id = some store') :
    ∃ before block after, First id store.blocks before block after ∧
      store' = ⟨store.version + 1, before ++ after⟩ := by
  rcases first_or_absent id store.blocks with ⟨before, block, after, hf⟩ | ha
  · rw [remove?_of_first hf, Option.some.injEq] at hr
    exact ⟨before, block, after, hf, hr.symm⟩
  · rw [remove?_of_absent ha] at hr
    cases hr

/-- A change of a block that leaves its id alone leaves all ids alone. -/
theorem ids_of_update? {change : Block → Block} {store' : Store}
    (hu : store.update? id change = some store') (hid : ∀ block, (change block).id = block.id) :
    store'.blocks.map Block.id = store.blocks.map Block.id := by
  obtain ⟨before, block, after, hf, rfl⟩ := exists_of_update? hu
  simp [hf.split, hid]

/-! ## Runs -/

/-- The prompt of a block at its place in a list. -/
def promptAt (before : List Block) (block : Block) (after : List Block) : String :=
  (Template.resolve (block.settings.prompt?.getD "") (before ++ block :: after) before.length).text

/-- A run begins on the block with the id, and reads the list in which it is counted. -/
theorem begin?_of_first (h : First id store.blocks before block after) :
    store.begin? id =
      some (⟨id, before.length, promptAt before block.begin after, block.run + 1⟩,
        .ofSettings (promptAt before block.begin after) block.settings,
        ⟨store.version + 1, before ++ block.begin :: after⟩) := by
  have hbegun : First id (before ++ block.begin :: after) before block.begin after :=
    ⟨rfl, h.id_eq, h.before_ne⟩
  simp only [begin?, update?_of_first h, indexOf?, hbegun.findIdx?, hbegun.getElem?,
    Option.bind_eq_bind, Option.bind_some, Option.pure_def]
  rfl

theorem finish_of_first {run : Run} (h : First run.id store.blocks before block after)
    (result : Block.Result) :
    store.finish run result =
      ⟨store.version + 1, before ++ block.finish run.number result :: after⟩ := by
  rw [finish, update?_of_first h]
  rfl

theorem finish_of_absent {run : Run} (h : ∀ block ∈ store.blocks, block.id ≠ run.id)
    (result : Block.Result) : store.finish run result = store := by
  rw [finish, update?_of_absent h]
  rfl

/-- The end of a run leaves the version, or leads to the next one. -/
theorem version_of_finish (run : Run) (result : Block.Result) (store : Store) :
    store.finish run result = store ∨ (store.finish run result).version = store.version + 1 := by
  cases hu : store.update? run.id (Block.finish run.number result) with
  | none =>
    rw [finish, hu]
    exact .inl rfl
  | some store' =>
    rw [finish, hu]
    exact .inr (version_of_write? hu)

theorem ids_of_finish (run : Run) (result : Block.Result) (store : Store) :
    (store.finish run result).blocks.map Block.id = store.blocks.map Block.id := by
  cases hu : store.update? run.id (Block.finish run.number result) with
  | none => rw [finish, hu, Option.getD_none]
  | some store' =>
    rw [finish, hu, Option.getD_some]
    exact ids_of_update? hu fun _ => rfl

/-! ## Starts -/

variable {π : Type} [Provider π] (provider : π)

theorem start_of_absent (h : ∀ block ∈ store.blocks, block.id ≠ id) :
    store.start id provider = (.absent, store, provider) := by
  have hfind : store.find? id = none := by
    simpa [find?, List.find?_eq_none] using h
  simp [start, hfind]

theorem start_of_input (h : First id store.blocks before block after) (hk : block.kind = .input) :
    store.start id provider =
      (.done ⟨id, before.length, none, block.settings.input?.map .text⟩,
        ⟨store.version + 1, before ++ block.settle :: after⟩, provider) := by
  simp [start, find?, indexOf?, h.find?, h.findIdx?, hk, update?_of_first h]

theorem start_of_generate (h : First id store.blocks before block after)
    (hk : block.kind = .generate) :
    store.start id provider =
      let prompt := promptAt before block.begin after
      let sent := (Request.ofSettings prompt block.settings).send provider
      (.waiting ⟨id, before.length, prompt, block.run + 1⟩ sent.1,
        ⟨store.version + 1, before ++ block.begin :: after⟩, sent.2) := by
  simp [start, find?, indexOf?, h.find?, h.findIdx?, hk, begin?_of_first h]

/-- All that the start of an execution can do. -/
theorem start_cases {start : Start} {store' : Store} {provider provider' : π}
    (hs : store.start id provider = (start, store', provider')) :
    ((∀ block ∈ store.blocks, block.id ≠ id) ∧ start = .absent ∧ store' = store) ∨
    ∃ before block after, First id store.blocks before block after ∧
      ((block.kind = .input ∧
          start = .done ⟨id, before.length, none, block.settings.input?.map .text⟩ ∧
          store' = ⟨store.version + 1, before ++ block.settle :: after⟩) ∨
        (block.kind = .generate ∧
          (∃ ticket, start =
            .waiting ⟨id, before.length, promptAt before block.begin after, block.run + 1⟩ ticket) ∧
          store' = ⟨store.version + 1, before ++ block.begin :: after⟩)) := by
  rcases first_or_absent id store.blocks with ⟨before, block, after, hf⟩ | ha
  · refine .inr ⟨before, block, after, hf, ?_⟩
    cases hkind : block.kind with
    | input =>
      rw [start_of_input provider hf hkind] at hs
      obtain ⟨rfl, rfl, -⟩ := hs
      exact .inl ⟨rfl, rfl, rfl⟩
    | generate =>
      rw [start_of_generate provider hf hkind] at hs
      obtain ⟨rfl, rfl, -⟩ := hs
      exact .inr ⟨rfl, ⟨_, rfl⟩, rfl⟩
  · rw [start_of_absent provider ha] at hs
    obtain ⟨rfl, rfl, -⟩ := hs
    exact .inl ⟨ha, rfl, rfl⟩

/-- The start of an execution leaves the version, or leads to the next one. -/
theorem version_of_start {start : Start} {store' : Store} {provider provider' : π}
    (hs : store.start id provider = (start, store', provider')) :
    store' = store ∨ store'.version = store.version + 1 := by
  obtain ⟨-, -, rfl⟩ | ⟨before, block, after, -, ⟨-, -, rfl⟩ | ⟨-, -, rfl⟩⟩ := start_cases hs
  · exact .inl rfl
  · exact .inr rfl
  · exact .inr rfl

theorem ids_of_start {start : Start} {store' : Store} {provider provider' : π}
    (hs : store.start id provider = (start, store', provider')) :
    store'.blocks.map Block.id = store.blocks.map Block.id := by
  obtain ⟨-, -, rfl⟩ | ⟨before, block, after, hf, ⟨-, -, rfl⟩ | ⟨-, -, rfl⟩⟩ := start_cases hs
  · rfl
  · simp [hf.split, settle]
  · simp [hf.split, Block.begin]

end Store

end PromptChain
