import PromptChain.Flow.Definition
import PromptChain.Proofs.Edits
import PromptChain.Proofs.Gateway
import PromptChain.Proofs.Patches

/-!
# Token budgets

A model is asked with a token budget of at least one, even if the settings of the block have none.
So a block shows the budget with which a model is asked for it just if its own is at least one
(`Block.showsBudget_iff`).

New blocks have such a budget, the blocks of a loaded flow have one, and a change of settings sets
no other. Only a block that is read as such may come in without. Nothing that happens to a store
(`Store.Change`) makes up for that or does it to another block: the budget of a block is at least
one, or it came in with a block of the same id (`Store.Reachable.accounted`). So all blocks show
their budgets at all times just if the blocks that come in do (`Store.budgets_shown_iff`).
-/

namespace PromptChain

/-! ## What is shown and what is sent -/

theorem one_le_max_one (n : UInt32) : 1 ≤ max 1 n := by
  change 1 ≤ (if 1 ≤ n then n else 1)
  split
  next h => exact h
  next => exact UInt32.le_refl 1

/-- Whatever the prompt is, a model is asked with the budget that the block shows. -/
def Block.ShowsBudget (block : Block) : Prop :=
  ∀ prompt, (Request.ofSettings prompt block.settings).budget.maxTokens = block.settings.maxTokens

theorem Block.showsBudget_iff {block : Block} :
    block.ShowsBudget ↔ 1 ≤ block.settings.maxTokens :=
  ⟨fun h => max_one_eq_self_iff.1 (h ""), fun h _ => max_one_eq_self_iff.2 h⟩

theorem one_le_defaultMaxTokens : 1 ≤ defaultMaxTokens := by decide

/-- A model is asked with the budget of the request. -/
theorem Request.budget_of_ask? {request : Request} {ask : Ask} (h : request.ask? = some ask) :
    ask.budget = request.budget := by
  rcases request.call_cases with ⟨_, -, hask, -⟩ | ⟨-, hask, -⟩ | ⟨_, _, -, hask, -⟩
  · rw [hask] at h
    cases h
  all_goals
    obtain rfl := Option.some.inj (hask.symm.trans h)
    rfl

/-- The blocks of a loaded flow have budgets, whatever the defaults are. -/
theorem FlowDefinition.one_le_maxTokens_blocksFrom (defaults : Configuration.Defaults)
    (newId : Nat → String) (count : Nat) (definitions : List BlockDefinition) :
    ∀ block ∈ blocksFrom defaults newId count definitions, 1 ≤ block.settings.maxTokens := by
  induction definitions generalizing count with
  | nil => exact fun _ hb => absurd hb List.not_mem_nil
  | cons described rest ih => exact List.forall_mem_cons.2 ⟨one_le_max_one _, ih _⟩

/-! ## What happens to a store -/

namespace Store

/-- What may happen to a store into which blocks come in that `enters` admits. No matter which runs
    wait for their answers, any run may complete at any time, with any result. -/
inductive Change (enters : Block → Prop) : Store → Store → Prop
  | add {store : Store} (id : String) (kind : Block.Kind) :
      Change enters store (store.push (.new id kind))
  | push {store : Store} {block : Block} : enters block → Change enters store (store.push block)
  | alter {store store' : Store} {id : String} {alteration : Block.Alteration} :
      store.alter? id alteration = some store' → Change enters store store'
  | move {store store' : Store} {source target : Nat} :
      store.move? source target = some store' → Change enters store store'
  | start {store store' : Store} {id : String} {π : Type} [Provider π] {provider provider' : π}
      {start : Start} :
      store.start id provider = (start, store', provider') → Change enters store store'
  | finish {store : Store} (run : Run) (result : Block.Result) :
      Change enters store (store.finish run result)

/-- The stores that are reached from blocks that come in. -/
inductive Reachable (enters : Block → Prop) : Store → Prop
  | start {blocks : List Block} : (∀ block ∈ blocks, enters block) →
      Reachable enters (ofBlocks blocks)
  | step {store store' : Store} :
      Reachable enters store → Change enters store store' → Reachable enters store'

end Store

/-- The budget of a block is at least one, or it came in with a block of the same id. -/
def Block.Accounted (enters : Block → Prop) (block : Block) : Prop :=
  1 ≤ block.settings.maxTokens ∨ ∃ entered, enters entered ∧ entered.id = block.id ∧
    entered.settings.maxTokens = block.settings.maxTokens

section

variable {enters : Block → Prop}

/-- What leaves the id and the budget alone leaves it accounted for. -/
theorem Block.Accounted.of_eq {block block' : Block} (h : block.Accounted enters)
    (hid : block'.id = block.id) (hb : block'.settings.maxTokens = block.settings.maxTokens) :
    block'.Accounted enters := by
  rwa [Accounted, hid, hb]

theorem Block.Accounted.altered {block block' : Block} (h : block.Accounted enters)
    {alteration : Alteration} (ha : alteration.altered? block = some block') :
    block'.Accounted enters := by
  cases alteration with
  | remove => cases ha
  | rename | toggle =>
    obtain rfl := Option.some.inj ha
    exact h.of_eq rfl rfl
  | configure patch =>
    obtain rfl := Option.some.inj ha
    cases hp : patch.maxTokens? with
    | none => exact h.of_eq rfl (by simp [Settings.apply, hp])
    | some n => exact .inl (by simpa [Settings.apply, hp] using one_le_max_one n)

namespace Store

variable {store store' : Store}

/-- What happens to a store leaves all budgets accounted for. -/
theorem Change.accounted (h : Change enters store store')
    (hs : ∀ block ∈ store.blocks, block.Accounted enters) :
    ∀ block ∈ store'.blocks, block.Accounted enters := by
  cases h with
  | add id kind =>
    exact List.forall_mem_append.2 ⟨hs, List.forall_mem_singleton.2 (.inl one_le_defaultMaxTokens)⟩
  | push he =>
    exact List.forall_mem_append.2
      ⟨hs, List.forall_mem_singleton.2 (.inr ⟨_, he, rfl, rfl⟩)⟩
  | @alter _ id alteration ha =>
    rcases Block.first_or_absent id store.blocks with ⟨before, block, after, hf⟩ | habsent
    · rw [alter?_of_first hf] at ha
      obtain rfl := Option.some.inj ha
      exact hf.forall_mem hs fun hb other ho => hb.altered (Option.mem_toList.1 ho)
    · rw [alter?_of_absent habsent] at ha
      cases ha
  | move hm =>
    obtain ⟨blocks, hb, rfl⟩ := Option.map_eq_some_iff.1 hm
    exact fun block hmem => hs block ((Block.moved?_eq_some_iff.1 hb).perm.mem_iff.1 hmem)
  | start hstart =>
    obtain ⟨-, -, rfl⟩ |
      ⟨before, block, after, hf, ⟨-, -, rfl⟩ | ⟨-, -, rfl⟩⟩ := start_cases hstart
    · exact hs
    · exact hf.forall_mem_replaced hs fun hb => hb.of_eq rfl rfl
    · exact hf.forall_mem_replaced hs fun hb => hb.of_eq rfl rfl
  | finish run result =>
    rcases Block.first_or_absent run.id store.blocks with ⟨before, block, after, hf⟩ | habsent
    · rw [finish_of_first hf]
      exact hf.forall_mem_replaced hs fun hb => hb.of_eq rfl rfl
    · rw [finish_of_absent habsent]
      exact hs

/-- The budget of each block is at least one, or it came in with a block of the same id. -/
theorem Reachable.accounted (h : Reachable enters store) :
    ∀ block ∈ store.blocks, block.Accounted enters := by
  induction h with
  | start hb => exact fun block hmem => .inr ⟨block, hb block hmem, rfl, rfl⟩
  | step _ hchange ih => exact hchange.accounted ih

/-- An execution is the start of a run and its completion. -/
theorem Reachable.execute {π : Type} [Provider π] (h : Reachable enters store) (id : String)
    (provider : π) : Reachable enters (store.execute id provider).2.1 := by
  rcases hstart : store.start id provider with ⟨start, store', provider'⟩
  have hbegun := h.step (.start hstart)
  cases start with
  | absent | done => simpa [Store.execute, hstart] using hbegun
  | waiting run ticket =>
    simpa [Store.execute, hstart] using hbegun.step (.finish run (.ofAnswer ticket.answer))

/-- All blocks have budgets of at least one, and show those with which models are asked for them,
    whatever happens to the store, just if the blocks that come in have such budgets. -/
theorem budgets_shown_iff (enters : Block → Prop) :
    -- A model is asked with the budget of the block, but at least with one.
    (∀ (block : Block) (prompt : String) (ask : Ask),
      (Request.ofSettings prompt block.settings).ask? = some ask →
        ask.budget.maxTokens = max 1 block.settings.maxTokens) ∧
    -- A loaded flow has no block without a budget.
    (∀ (definition : FlowDefinition) (defaults : Configuration.Defaults) (newId : Nat → String),
      ∀ block ∈ definition.toBlocks defaults newId, 1 ≤ block.settings.maxTokens) ∧
    -- A block without a budget came in without one.
    (∀ store, Reachable enters store → ∀ block ∈ store.blocks, block.settings.maxTokens = 0 →
      ∃ entered, enters entered ∧ entered.id = block.id ∧ entered.settings.maxTokens = 0) ∧
    ((∀ store, Reachable enters store → ∀ block ∈ store.blocks,
        1 ≤ block.settings.maxTokens ∧ block.ShowsBudget) ↔
      ∀ block, enters block → 1 ≤ block.settings.maxTokens) := by
  refine ⟨fun block prompt ask hask => ?_, fun definition defaults newId =>
    FlowDefinition.one_le_maxTokens_blocksFrom defaults newId 0 definition.blocks,
    fun store hstore block hb hzero => ?_, fun h block hb => ?_, fun h store hstore block hb => ?_⟩
  · rw [Request.budget_of_ask? hask]
    rfl
  · obtain hpositive | ⟨entered, hentered, hid, heq⟩ := hstore.accounted block hb
    · rw [hzero] at hpositive
      exact absurd hpositive (by decide)
    · exact ⟨entered, hentered, hid, heq.trans hzero⟩
  · exact (h _ (.start (List.forall_mem_singleton.2 hb)) block List.mem_cons_self).1
  · rw [Block.showsBudget_iff, and_self]
    obtain hpositive | ⟨entered, hentered, -, heq⟩ := hstore.accounted block hb
    · exact hpositive
    · exact heq ▸ h entered hentered

/-- A block is read with a budget of zero. It shows this budget, also after an execution, for which
    a model was asked with a budget of one. -/
theorem zero_budget_shown :
    let document := Json.object [("id", .string "g"), ("kind", .string "Generate"),
      ("name", .string "G"),
      ("settings", .object [("prompt", .string "go"), ("maxTokens", .ofWord 0)])]
    let settings : Block.Settings :=
      { Block.Settings.standard with prompt? := some "go", maxTokens := 0 }
    let block : Block := { Block.new "g" .generate with name := "G", settings }
    let enters := fun block => ∃ part : Json, Block.decode part = .ok block
    let store := ((ofBlocks [block]).execute "g" (Failing.mk .missingPrompt)).2.1
    Block.decode document = .ok block ∧ Reachable enters store ∧
      (store.blocks.map fun block => (block.id, block.settings.maxTokens)) = [("g", 0)] ∧
      (Request.ofSettings "go" block.settings).ask?.map (·.budget.maxTokens) = some 1 ∧
      ¬ block.ShowsBudget := by
  intro document settings block enters store
  have hread : Block.decode document = .ok block := rfl
  have hstart : Reachable enters (ofBlocks [block]) :=
    .start (List.forall_mem_singleton.2 ⟨document, hread⟩)
  refine ⟨hread, hstart.execute "g" _, by decide +kernel, by decide +kernel, ?_⟩
  rw [Block.showsBudget_iff]
  decide

end Store

end

end PromptChain
