import Mathlib.Data.List.Induction
import Mathlib.Data.List.ReduceOption
import PromptChain.Proofs.Gateway
import PromptChain.Proofs.Overlap

/-!
# A pass over the chain

When nothing else happens meanwhile, the execution of all blocks is a fold from left to right
(`pass`). What it carries are the outcomes so far and the provider. A block in its turn
(`Block.turn`) finds the list in which the blocks before it have the results of this pass, and
those after it are as they were (`carry`).

* `Store.execute_of_first`: the execution of one block is its turn;
* `Store.executeAll_eq_foldl`: so the execution of the blocks that are left is the rest of the
  fold;
* `foldl_passStep_logged`: what the provider is asked in a pass;
* `Store.executeFlow_refines_pass`: the execution of all blocks, what it reports, what it leaves
  of the list, and what it asks.
-/

namespace PromptChain

/-! ## The fold -/

variable {π : Type} [Provider π]

/-- The request of a block in its turn. -/
def Block.request (block : Block) (prompt : String) : Request where
  prompt
  answerShape := block.settings.answerShape
  temperature := block.settings.temperature
  maxTokens := block.settings.maxTokens
  schema? := block.settings.schema?

/-- The turn of a block in a list, at its place: an input block gives its text, and a generate
    block asks the provider. Its result is the text or the value that comes, or that it failed,
    with the message of the failure. -/
def Block.turn (block : Block) (blocks : List Block) (index : Nat) (provider : π) : Outcome × π :=
  match block.kind with
  | .input => (⟨block.id, index, none, block.settings.input?.map .text⟩, provider)
  | .generate =>
    let prompt := (Template.resolve (block.settings.prompt?.getD "") blocks index).text
    let sent := (block.request prompt).send provider
    let result := match sent.1.answer with
      | .ok (.text text) => .text text
      | .ok (.structured value) => .structured value
      | .error failure => .failed failure.message
    (⟨block.id, index, some prompt, some result⟩, sent.2)

/-- The block after its turn, with what that resulted in. -/
def Block.withResult (block : Block) (result? : Option Result) : Block :=
  { block with
    result?
    run := if block.isGenerate then block.run + 1 else block.run }

/-- The list after the turns of the first blocks. -/
def carry : List Block → List Outcome → List Block
  | block :: blocks, outcome :: outcomes =>
    block.withResult outcome.result? :: carry blocks outcomes
  | blocks, _ => blocks

/-- The turn of the next block of a list. -/
def passStep (blocks : List Block) (state : List Outcome × π) (block : Block) : List Outcome × π :=
  let (outcome, provider) := block.turn (carry blocks state.1) state.1.length state.2
  (state.1 ++ [outcome], provider)

/-- The turns of all blocks of a list, one after the other. -/
def pass (blocks : List Block) (provider : π) : List Outcome × π :=
  blocks.foldl (passStep blocks) ([], provider)

theorem carry_append {done : List Block} {outcomes : List Outcome}
    (h : outcomes.length = done.length) (rest : List Block) (outcomes' : List Outcome) :
    carry (done ++ rest) (outcomes ++ outcomes') = carry done outcomes ++ carry rest outcomes' := by
  induction done generalizing outcomes with
  | nil =>
    obtain rfl := List.length_eq_zero_iff.1 h
    rfl
  | cons block done ih =>
    cases outcomes with
    | nil => cases h
    | cons outcome outcomes => simp [carry, ih (Nat.succ.inj h)]

theorem carry_nil (blocks : List Block) : carry blocks [] = blocks := by
  cases blocks <;> rfl

/-- The blocks that are left are as they were. -/
theorem carry_of_length {done : List Block} {outcomes : List Outcome}
    (h : outcomes.length = done.length) (rest : List Block) :
    carry (done ++ rest) outcomes = carry done outcomes ++ rest := by
  have := carry_append h rest []
  rwa [List.append_nil, carry_nil] at this

theorem length_carry (blocks : List Block) (outcomes : List Outcome) :
    (carry blocks outcomes).length = blocks.length := by
  induction blocks generalizing outcomes with
  | nil => rfl
  | cons block blocks ih => cases outcomes <;> simp [carry, ih]

theorem ids_carry (blocks : List Block) (outcomes : List Outcome) :
    (carry blocks outcomes).map Block.id = blocks.map Block.id := by
  induction blocks generalizing outcomes with
  | nil => rfl
  | cons block blocks ih => cases outcomes <;> simp [carry, Block.withResult, ih]

/-- The next block is found by its id, as the blocks before it have other ids. -/
theorem first_carry {done rest : List Block} {block : Block} {outcomes : List Outcome}
    (hd : ((done ++ block :: rest).map Block.id).Nodup) (hl : outcomes.length = done.length) :
    Block.First block.id (carry (done ++ block :: rest) outcomes) (carry done outcomes) block
      rest := by
  rw [← ids_carry _ outcomes] at hd
  exact Block.first_of_distinct hd (carry_of_length hl _)

/-- What becomes of each block after its turn holds of the list after all turns. -/
theorem forall₂_carry {R : Block → Block → Prop} {blocks : List Block} {outcomes : List Outcome}
    (h : ∀ block ∈ blocks, ∀ result?, R block (block.withResult result?))
    (hl : outcomes.length = blocks.length) : List.Forall₂ R blocks (carry blocks outcomes) := by
  induction blocks generalizing outcomes with
  | nil => exact .nil
  | cons block blocks ih =>
    rw [List.forall_mem_cons] at h
    cases outcomes with
    | nil => cases hl
    | cons outcome outcomes => exact .cons (h.1 outcome.result?) (ih h.2 (Nat.succ.inj hl))

/-! ## One turn -/

theorem Block.turn_of_input {block : Block} (hk : block.kind = .input) (blocks : List Block)
    (index : Nat) (provider : π) :
    block.turn blocks index provider =
      (⟨block.id, index, none, block.settings.input?.map .text⟩, provider) := by
  rw [turn, hk]

/-- A block asks in its turn as in a run, and makes the same of what comes. -/
theorem Block.turn_of_generate {block : Block} (hk : block.kind = .generate) (blocks : List Block)
    (index : Nat) (provider : π) :
    block.turn blocks index provider =
      let prompt := (Template.resolve (block.settings.prompt?.getD "") blocks index).text
      let sent := (Request.ofSettings prompt block.settings).send provider
      (⟨block.id, index, some prompt, some (.ofAnswer sent.1.answer)⟩, sent.2) := by
  have hrequest : ∀ prompt, block.request prompt = .ofSettings prompt block.settings :=
    fun _ => rfl
  simp only [turn, hk, hrequest]
  rcases (Request.send _ provider).1.answer with _ | ⟨_ | _⟩ <;> rfl

theorem Template.previous?_append (before after : List Block) :
    previous? (before ++ after) before.length = before.getLast? := by
  rcases before.eq_nil_or_concat' with rfl | ⟨front, last, rfl⟩
  · rfl
  · simp [previous?]

/-- A prompt does not depend on its own block, or on those after it. -/
theorem Template.resolve_append (template : String) (before after after' : List Block) :
    resolve template (before ++ after) before.length =
      resolve template (before ++ after') before.length := by
  rw [resolve, resolve, previous?_append, previous?_append]

/-- The prompt of a run is resolved against the list in which the run is counted, but it does
    not depend on anything from its own block on. -/
theorem Store.promptAt_begin {id : String} {blocks before after : List Block} {block : Block}
    (hf : Block.First id blocks before block after) :
    promptAt before block.begin after =
      (Template.resolve (block.settings.prompt?.getD "") blocks before.length).text := by
  rw [hf.split, promptAt, Template.resolve_append _ before _ (block :: after)]
  rfl

/-- A run that is complete before anything else happens leaves a fresh block as after its
    turn. -/
theorem Block.finish_begin {block : Block} (hb : block.IsFresh) (hk : block.kind = .generate)
    (result : Result) :
    block.begin.finish (block.run + 1) result = block.withResult (some result) := by
  simp [finish, begin, withResult, isGenerate, hk, hb.inFlight, hb.executing]

/-- The execution of a fresh block, while nothing else happens, is its turn. -/
theorem Store.execute_of_first {store : Store} {id : String} {before after : List Block}
    {block : Block} (hf : Block.First id store.blocks before block after) (hb : block.IsFresh)
    (provider : π) :
    store.execute id provider =
      let turned := block.turn store.blocks before.length provider
      (some turned.1,
        ⟨store.version + (if block.isGenerate then 2 else 1),
          before ++ block.withResult turned.1.result? :: after⟩, turned.2) := by
  obtain rfl := hf.id_eq
  cases hk : block.kind with
  | input =>
    rw [execute, start_of_input provider hf hk]
    simp [Block.turn_of_input hk, Block.withResult, Block.settle, Block.isGenerate, hk]
  | generate =>
    have hbegun : Block.First block.id (before ++ block.begin :: after) before block.begin after :=
      ⟨rfl, rfl, hf.before_ne⟩
    rw [execute, start_of_generate provider hf hk]
    simp only [Block.turn_of_generate hk, ← promptAt_begin hf]
    rw [finish_of_first hbegun, Block.finish_begin hb hk]
    simp [Block.isGenerate, hk, Run.outcome]

/-! ## All turns -/

/-- The execution of the blocks that are left is the rest of the fold. -/
theorem Store.executeAll_eq_foldl {blocks done rest : List Block} {outcomes : List Outcome}
    {store : Store} (hd : (blocks.map Block.id).Nodup) (hfresh : ∀ block ∈ rest, block.IsFresh)
    (hsplit : blocks = done ++ rest) (hl : outcomes.length = done.length)
    (hblocks : store.blocks = carry blocks outcomes) (provider : π) :
    ∃ new, (rest.foldl (passStep blocks) (outcomes, provider)).1 = outcomes ++ new ∧
      store.executeAll (rest.map Block.id) provider =
        (new,
          ⟨store.version + rest.length + rest.countP Block.isGenerate,
            carry blocks (outcomes ++ new)⟩,
          (rest.foldl (passStep blocks) (outcomes, provider)).2) := by
  induction rest generalizing done outcomes store provider with
  | nil =>
    refine ⟨[], (List.append_nil _).symm, ?_⟩
    rw [List.append_nil, ← hblocks]
    rfl
  | cons block rest ih =>
    rw [List.forall_mem_cons] at hfresh
    have hf : Block.First block.id store.blocks (carry done outcomes) block rest := by
      rw [hblocks, hsplit]
      exact first_carry (hsplit ▸ hd) hl
    have hexec := execute_of_first hf hfresh.1 provider
    rw [length_carry, ← hl] at hexec
    rcases hturn : block.turn store.blocks outcomes.length provider with ⟨outcome, provider'⟩
    have hstep : passStep blocks (outcomes, provider) block =
        (outcomes ++ [outcome], provider') := by
      simp only [passStep, ← hblocks, hturn]
    have hcarry : carry done outcomes ++ block.withResult outcome.result? :: rest =
        carry blocks (outcomes ++ [outcome]) := by
      rw [hsplit, carry_append hl, carry, carry_nil]
    rw [hturn] at hexec
    dsimp only at hexec
    obtain ⟨new, hnew, hall⟩ := @ih (done ++ [block]) (outcomes ++ [outcome]) ⟨_, _⟩ hfresh.2
      (by simp [hsplit]) (by simp [hl]) hcarry provider'
    refine ⟨outcome :: new, by simp [hstep, hnew], ?_⟩
    rw [List.foldl_cons, hstep, List.map_cons, executeAll, hexec]
    dsimp only
    rw [hall]
    have hversion : store.version + (if block.isGenerate then 2 else 1) + rest.length +
        rest.countP Block.isGenerate =
          store.version + (block :: rest).length + (block :: rest).countP Block.isGenerate := by
      rw [List.countP_cons, List.length_cons]
      split <;> omega
    simp [hversion]

/-! ## What is reported, and what is asked -/

theorem Block.turn_id (block : Block) (blocks : List Block) (index : Nat) (provider : π) :
    (block.turn blocks index provider).1.id = block.id := by
  unfold turn
  split <;> rfl

theorem Block.turn_index (block : Block) (blocks : List Block) (index : Nat) (provider : π) :
    (block.turn blocks index provider).1.index = index := by
  unfold turn
  split <;> rfl

/-- Just the blocks that a model answers have a prompt. -/
theorem Block.isSome_prompt?_turn (block : Block) (blocks : List Block) (index : Nat)
    (provider : π) :
    (block.turn blocks index provider).1.prompt?.isSome = block.isGenerate := by
  unfold turn isGenerate
  split <;> simp [*]

section

variable (blocks done : List Block) (provider : π)

/-- What is the same in a block and its outcome is the same in all blocks and outcomes. -/
theorem map_foldl_passStep {α : Type} {f : Outcome → α} {g : Block → α}
    (h : ∀ (block : Block) (blocks : List Block) (index : Nat) (provider : π),
      f (block.turn blocks index provider).1 = g block) :
    (done.foldl (passStep blocks) ([], provider)).1.map f = done.map g := by
  induction done using List.reverseRecOn with
  | nil => rfl
  | append_singleton done block ih => simp [passStep, ih, h]

theorem length_foldl_passStep :
    (done.foldl (passStep blocks) ([], provider)).1.length = done.length := by
  simpa using congrArg List.length (map_foldl_passStep blocks done provider Block.turn_id)

/-- Each outcome tells the place of its block. -/
theorem index_foldl_passStep :
    (done.foldl (passStep blocks) ([], provider)).1.map Outcome.index =
      List.range done.length := by
  induction done using List.reverseRecOn with
  | nil => rfl
  | append_singleton done block ih =>
    simp [passStep, ih, Block.turn_index, length_foldl_passStep, List.range_succ]

end

/-- What the provider is asked for an outcome of a block. -/
def Block.ask? (block : Block) (outcome : Outcome) : Option Ask :=
  outcome.prompt?.bind fun prompt => (block.request prompt).ask?

theorem Block.turn_logged (block : Block) (blocks : List Block) (index : Nat)
    (logged : Logged π) :
    block.turn blocks index logged =
      let turned := block.turn blocks index logged.provider
      (turned.1, ⟨turned.2, logged.log ++ (block.ask? turned.1).toList⟩) := by
  cases hk : block.kind with
  | input => simp [turn_of_input hk, ask?]
  | generate => simp [turn, hk, ask?, Request.send_logged]

/-- The log of the provider gets what is asked for each outcome, in order. -/
theorem foldl_passStep_logged (blocks done : List Block) (provider : π) :
    done.foldl (passStep blocks) ([], Logged.start provider) =
      let ended := done.foldl (passStep blocks) ([], provider)
      (ended.1, ⟨ended.2, (List.zipWith Block.ask? done ended.1).reduceOption⟩) := by
  induction done using List.reverseRecOn with
  | nil => rfl
  | append_singleton done block ih =>
    have hl := length_foldl_passStep blocks done provider
    simp [ih, passStep, Block.turn_logged, List.zipWith_append hl.symm, List.reduceOption_append,
      List.reduceOption_singleton]

/-! ## The execution of all blocks -/

/-- A block after a pass: what was set in it is as before, and no run of it waits. One run of it
    began, if a model answers it. -/
structure Block.Passed (block block' : Block) : Prop where
  id : block'.id = block.id
  kind : block'.kind = block.kind
  name : block'.name = block.name
  expanded : block'.expanded = block.expanded
  settings : block'.settings = block.settings
  executing : block'.executing = false
  inFlight : block'.inFlight = 0
  run : block'.run = if block.isGenerate then 1 else 0

theorem Block.passed_withResult {block : Block} (hb : block.IsFresh) (result? : Option Result) :
    block.Passed (block.withResult result?) where
  id := rfl
  kind := rfl
  name := rfl
  expanded := rfl
  settings := rfl
  executing := hb.executing
  inFlight := hb.inFlight
  run := by rw [withResult, hb.run]

/-- The execution of all blocks, while nothing else happens, is one pass. -/
theorem Store.executeFlow_eq_pass {store : Store} (hs : store.IsFresh) (provider : π) :
    store.executeFlow provider =
      let passed := pass store.blocks provider
      (passed.1,
        ⟨store.version + store.blocks.length + store.blocks.countP Block.isGenerate,
          carry store.blocks passed.1⟩,
        passed.2) := by
  obtain ⟨new, hnew, hall⟩ := @executeAll_eq_foldl _ _ store.blocks [] store.blocks [] store
    hs.distinct hs.blocks rfl rfl (carry_nil _).symm provider
  simp only [executeFlow, hall, pass, hnew, List.nil_append]

/-- The execution of all blocks refines the pass, in what it reports, in what it leaves of the
    list, and in what it asks of the provider. -/
theorem Store.executeFlow_refines_pass {store : Store} (hs : store.IsFresh) (provider : π) :
    ∃ outcomes store' provider',
      -- The execution of all blocks is one pass from left to right.
      store.executeFlow provider = (outcomes, store', provider') ∧
      pass store.blocks provider = (outcomes, provider') ∧
      -- There is one outcome for each block, which tells its place. Just the blocks that a
      -- model answers have a prompt.
      outcomes.map Outcome.id = store.blocks.map Block.id ∧
      outcomes.map Outcome.index = List.range store.blocks.length ∧
      outcomes.map (·.prompt?.isSome) = store.blocks.map Block.isGenerate ∧
      -- Each block has the result of its outcome, and nothing else in the list is different.
      store'.blocks = carry store.blocks outcomes ∧
      List.Forall₂ Block.Passed store.blocks store'.blocks ∧
      store'.version =
        store.version + store.blocks.length + store.blocks.countP Block.isGenerate ∧
      -- The provider is asked in the order of the blocks, once for each request that lacks
      -- nothing.
      store.executeFlow (Logged.start provider) =
        (outcomes, store',
          ⟨provider', (List.zipWith Block.ask? store.blocks outcomes).reduceOption⟩) := by
  refine ⟨_, _, _, store.executeFlow_eq_pass hs provider, rfl,
    map_foldl_passStep _ _ _ Block.turn_id, index_foldl_passStep _ _ _,
    map_foldl_passStep _ _ _ Block.isSome_prompt?_turn, rfl,
    forall₂_carry (fun block hb => Block.passed_withResult (hs.blocks block hb))
      (length_foldl_passStep _ _ _), rfl, ?_⟩
  rw [executeFlow_eq_pass hs, pass, foldl_passStep_logged]
  rfl

/-- A block fails, with the message of the failure, and the blocks after it are executed still. -/
theorem Store.executeFlow_refines_pass_failing :
    let store := ofBlocks
      [.generate "f" "F" "go", .input "a" "A" "hi", .generate "g" "G" "Say @[A](a)"]
    store.IsFresh ∧
      (store.executeFlow (Failing.mk (.generation "busy"))).1 =
        [⟨"f", 0, some "go", some (.failed "Failed to generate response: busy")⟩,
          ⟨"a", 1, none, some (.text "hi")⟩,
          ⟨"g", 2, some "Say hi", some (.failed "Failed to generate response: busy")⟩] := by
  intro store
  have hs : store.IsFresh := by
    refine ⟨by decide, ?_⟩
    simp [store, ofBlocks, Block.isFresh_generate, Block.isFresh_input]
  obtain ⟨outcomes, store', provider', hflow, hpass, -⟩ :=
    executeFlow_refines_pass hs (Failing.mk (.generation "busy"))
  have houtcomes : outcomes = (pass store.blocks (Failing.mk (.generation "busy"))).1 := by
    rw [hpass]
  refine ⟨hs, ?_⟩
  rw [hflow]
  dsimp only
  rw [houtcomes]
  decide +kernel

end PromptChain
