import PromptChain.Proofs.Execution
import PromptChain.Proofs.Gateway
import PromptChain.Provider.Scripted

/-!
# Calls in flight

While the provider of a run works on its answer, anything may happen to the list: other runs
begin and end, and the user changes the list, also the settings of the block whose run it is.
What the run asks was settled when it read the list, though, and so the answer is checked
against what it asked.

A `Call` is a run with the list that it read and the answer that it will get. A run is counted
on its block first (`Block.begin`); it then reads the list, which others may have changed in
between, and asks. So to count it is a change of the list like any other here
(`Traffic.Step.write`), and asking is a step of its own (`Traffic.Step.ask`), with which provider
whatsoever. The start of an execution takes both steps at once
(`Traffic.Reachable.start_generate`).

* `Traffic.Reachable.asked`: whatever happens meanwhile, the answer of a call is what its request
  ends in;
* `Traffic.results_keep_to_schema`: so no run ever gives a value that breaks the schema of its
  block, nor stores one.
-/

namespace PromptChain

namespace Block.Result

theorem ofAnswer_eq_structured_iff {answer : Except Failure Answer} {v : Json} :
    ofAnswer answer = .structured v ↔ answer = .ok (.structured v) := by
  rcases answer with _ | ⟨_ | _⟩ <;> simp [ofAnswer, Answer.toResult]

theorem ofAnswer_eq_text_iff {answer : Except Failure Answer} {text : String} :
    ofAnswer answer = .text text ↔ answer = .ok (.text text) := by
  rcases answer with _ | ⟨_ | _⟩ <;> simp [ofAnswer, Answer.toResult]

end Block.Result

/-- The call of a run. -/
structure Call where
  run : Run
  /-- The list that the run read. -/
  seen : Store
  /-- What the provider replies. -/
  reply : Request.Reply
  answer : Except Failure Answer

namespace Call

/-- The result of the run. -/
def result (call : Call) : Block.Result := .ofAnswer call.answer

/-- The outcome of the run. -/
def outcome (call : Call) : Outcome := call.run.outcome call.result

/-- The call that a run makes at its place in a list. -/
def ofBlock {π : Type} [Provider π] (seen : Store) (before : List Block) (block : Block)
    (after : List Block) (number : Nat) (provider : π) : Call :=
  let prompt := Store.promptAt before block after
  let request := Request.ofSettings prompt block.settings
  ⟨⟨block.id, before.length, prompt, number⟩, seen, request.reply provider,
    (request.send provider).1.answer⟩

/-- The run asked for its block, as that was in the list that it read, and the answer is what
    the request ends in. -/
structure Asked (call : Call) (before : List Block) (block : Block) (after : List Block) :
    Prop where
  first : Block.First call.run.id call.seen.blocks before block after
  index : call.run.index = before.length
  prompt : call.run.prompt = Store.promptAt before block after
  ends : (Request.ofSettings call.run.prompt block.settings).Ends call.reply call.answer

theorem asked_ofBlock {π : Type} [Provider π] {seen : Store} {before after : List Block}
    {block : Block} (hf : Block.First block.id seen.blocks before block after) (number : Nat)
    (provider : π) :
    (ofBlock seen before block after number provider).Asked before block after where
  first := hf
  index := rfl
  prompt := rfl
  ends := Request.ends_send _ provider

namespace Asked

variable {call : Call} {before after : List Block} {block : Block}

/-- A value as a result conforms to the description in the settings of the block. -/
theorem of_structured (h : call.Asked before block after) {v : Json}
    (hr : call.result = .structured v) :
    block.settings.answerShape = .object ∧ ∃ description,
      block.settings.schema? = some description ∧ (Schema.compile? description).isSome ∧
        description.Conforms v := by
  have hends := h.ends
  rw [Block.Result.ofAnswer_eq_structured_iff.1 hr] at hends
  obtain ⟨description, he, hv⟩ := hends.conforms
  exact ⟨he.answerShape, description, he.schema, he.compiles, hv⟩

/-- A text as a result was asked for. -/
theorem of_text (h : call.Asked before block after) {text : String}
    (hr : call.result = .text text) : block.settings.answerShape = .text := by
  have hends := h.ends
  rw [Block.Result.ofAnswer_eq_text_iff.1 hr] at hends
  exact hends.answerShape_eq_text

end Asked

end Call

/-! ## Steps -/

/-- A store with the calls that wait for their answers. -/
structure Traffic where
  store : Store
  calls : List Call

namespace Traffic

/-- Nobody has asked yet. -/
def start (store : Store) : Traffic := ⟨store, []⟩

/-- What happens next, and what is reported of it. A change of the list may be any (`write`). A
    run that was counted on its block reads the list as it is by then. -/
inductive Step : Traffic → Option Outcome → Traffic → Prop
  | write {t : Traffic} {transform : Store.Transform} {store : Store} :
      t.store.write? transform = some store → Step t none { t with store }
  | ask {t : Traffic} {before after : List Block} {block : Block} {π : Type} [Provider π]
      (number : Nat) (provider : π) :
      Block.First block.id t.store.blocks before block after →
      Step t none
        { t with calls := t.calls ++ [.ofBlock t.store before block after number provider] }
  | complete {t : Traffic} {before after : List Call} {call : Call} :
      t.calls = before ++ call :: after →
      Step t (some call.outcome) ⟨t.store.finish call.run call.result, before ++ after⟩

/-- The states that are reached from a store. -/
inductive Reachable (store : Store) : Traffic → Prop
  | start : Reachable store (start store)
  | step {t t' : Traffic} {outcome? : Option Outcome} :
      Reachable store t → Step t outcome? t' → Reachable store t'

/-- A step leaves the calls that wait alone, and a new one is made as the list tells. -/
theorem Step.asked {t t' : Traffic} {outcome? : Option Outcome} (hstep : Step t outcome? t')
    (h : ∀ call ∈ t.calls, ∃ before block after, call.Asked before block after) :
    ∀ call ∈ t'.calls, ∃ before block after, call.Asked before block after := by
  cases hstep with
  | write => exact h
  | ask number provider hf =>
    intro call hc
    rcases List.mem_append.1 hc with hc | hc
    · exact h call hc
    · obtain rfl := List.mem_singleton.1 hc
      exact ⟨_, _, _, Call.asked_ofBlock hf number provider⟩
  | complete hsplit =>
    intro call hc
    refine h call ?_
    rw [hsplit]
    exact List.mem_append.2 ((List.mem_append.1 hc).imp_right (List.mem_cons_of_mem _))

/-- What is reported is the outcome of a call that waited, and its run is finished. -/
theorem Step.of_outcome {t t' : Traffic} {outcome : Outcome} (hstep : Step t (some outcome) t') :
    ∃ call ∈ t.calls, outcome = call.outcome ∧
      t'.store = t.store.finish call.run call.result := by
  cases hstep with
  | complete hsplit => exact ⟨_, by simp [hsplit], rfl, rfl⟩

variable {store : Store} {t : Traffic}

/-- Whatever happens meanwhile, the answer of a call is what its request ends in. -/
theorem Reachable.asked (ht : Reachable store t) :
    ∀ call ∈ t.calls, ∃ before block after, call.Asked before block after := by
  induction ht with
  | start => exact fun _ h => absurd h List.not_mem_nil
  | step _ hstep ih => exact hstep.asked ih

/-- The start of an execution of a generate block counts a run and asks. -/
theorem Reachable.start_generate (ht : Reachable store t) {id : String} {before after : List Block}
    {block : Block} (hf : Block.First id t.store.blocks before block after)
    (hk : block.kind = .generate) {π : Type} [Provider π] (provider : π) :
    ∃ call delay? provider',
      t.store.start id provider = (.waiting call.run ⟨call.answer, delay?⟩, call.seen, provider') ∧
        Reachable store ⟨call.seen, t.calls ++ [call]⟩ := by
  obtain rfl := hf.id_eq
  have hbegun : Block.First block.begin.id (before ++ block.begin :: after) before block.begin
      after :=
    ⟨rfl, rfl, hf.before_ne⟩
  have hcounted := ht.step (.write (Store.update?_of_first hf Block.begin))
  have hasked := hcounted.step (.ask (block.run + 1) provider hbegun)
  exact ⟨.ofBlock ⟨_, _⟩ before block.begin after (block.run + 1) provider, _, _,
    Store.start_of_generate provider hf hk, hasked⟩

/-- No run gives a value that breaks the schema of its block. -/
theorem results_keep_to_schema (ht : Reachable store t) :
    -- The result of a run keeps to the settings that its block had in the list that the run
    -- read. Whatever is neither such a value nor a text is a failure, which the result words.
    (∀ call ∈ t.calls, ∃ before block after,
      Block.First call.run.id call.seen.blocks before block after ∧
      (∀ v, call.result = .structured v →
        block.settings.answerShape = .object ∧ ∃ description,
          block.settings.schema? = some description ∧ (Schema.compile? description).isSome ∧
            description.Conforms v) ∧
      (∀ text, call.result = .text text → block.settings.answerShape = .text) ∧
      (Request.ofSettings call.run.prompt block.settings).Ends call.reply call.answer ∧
      ∀ failure, call.answer = .error failure → call.result = .failed failure.message) ∧
    -- What is reported is the outcome of such a run. If its block is still there and has had no
    -- later run, this is also the result that the block gets.
    (∀ outcome t', Step t (some outcome) t' → ∃ call ∈ t.calls,
      outcome = ⟨call.run.id, call.run.index, some call.run.prompt, some call.result⟩ ∧
      ((∀ block ∈ t.store.blocks, block.id ≠ call.run.id) ∧ t'.store = t.store ∨
        ∃ before block after, Block.First call.run.id t.store.blocks before block after ∧
          t'.store.blocks = before ++
            { block with
              inFlight := block.inFlight - 1
              executing := decide (0 < block.inFlight - 1)
              result? := if block.run = call.run.number then some call.result
                else block.result? } :: after)) ∧
    -- Every run that waits can end.
    (∀ call ∈ t.calls, ∃ t', Step t (some call.outcome) t') ∧
    -- An execution of a generate block gets as far as such a run.
    (∀ (id : String) {π : Type} [Provider π] (provider : π) (before after : List Block)
      (block : Block), Block.First id t.store.blocks before block after → block.kind = .generate →
      ∃ call delay? provider',
        t.store.start id provider =
          (.waiting call.run ⟨call.answer, delay?⟩, call.seen, provider') ∧
        Reachable store ⟨call.seen, t.calls ++ [call]⟩) := by
  refine ⟨fun call hc => ?_, fun outcome t' hstep => ?_, fun call hc => ?_,
    fun id π _ provider before after block hf hk => ht.start_generate hf hk provider⟩
  · obtain ⟨before, block, after, h⟩ := ht.asked call hc
    refine ⟨before, block, after, h.first, fun _ => h.of_structured, fun _ => h.of_text, h.ends,
      fun failure hfail => ?_⟩
    rw [Call.result, hfail]
    rfl
  · obtain ⟨call, hc, rfl, hstore⟩ := hstep.of_outcome
    refine ⟨call, hc, rfl, ?_⟩
    rcases Block.first_or_absent call.run.id t.store.blocks with ⟨before, block, after, hf⟩ | ha
    · rw [Store.finish_of_first hf] at hstore
      exact .inr ⟨before, block, after, hf, congrArg Store.blocks hstore⟩
    · exact .inl ⟨ha, hstore.trans (Store.finish_of_absent ha _)⟩
  · obtain ⟨before, after, hsplit⟩ := List.append_of_mem hc
    exact ⟨_, .complete hsplit⟩

/-- A block is set to ask for a text while its run waits, which asked for a choice. -/
theorem results_keep_to_schema_edited :
    let block := (Block.generate "g" "G" "Well?").withSchema (.choice ["yes", "no"])
    ∃ t call, Reachable (.ofBlocks [block]) t ∧ call ∈ t.calls ∧
      t.store.blocks.map (·.settings.answerShape) = [.text] ∧
      call.result = .structured (.string "yes") ∧
      ∃ before asked after, Block.First "g" call.seen.blocks before asked after ∧
        asked.settings.answerShape = .object ∧ ∃ description,
          asked.settings.schema? = some description ∧ description.Conforms (.string "yes") := by
  intro block
  let provider : Scripted := Scripted.echo.extend [⟨.text "yes", none⟩]
  let patch : Block.Patch := { Block.Patch.empty with answerShape? := some .text }
  have h₀ : Reachable (.ofBlocks [block]) _ := .start
  have h₁ := h₀.step (.write (Store.update?_of_first (Block.first_singleton block) Block.begin))
  have h₂ := h₁.step (.ask 1 provider (Block.first_singleton block.begin))
  have h₃ := h₂.step (.write (Store.update?_of_first (Block.first_singleton block.begin)
    fun block => { block with settings := block.settings.apply patch }))
  let call := Call.ofBlock ⟨1, [block.begin]⟩ [] block.begin [] 1 provider
  have hc : call ∈ [call] := List.mem_singleton_self call
  have hprompt : Store.promptAt [] block.begin [] = "Well?" := by decide +kernel
  have hresult : call.result = .structured (.string "yes") := by
    simp only [call, Call.ofBlock, Call.result, hprompt]
    rfl
  obtain ⟨before, asked, after, hf, hv, -⟩ := (results_keep_to_schema h₃).1 call hc
  obtain ⟨hs, description, hd, -, hc'⟩ := hv _ hresult
  exact ⟨_, call, h₃, hc, rfl, hresult, before, asked, after, hf, hs, description, hd, hc'⟩

end Traffic

end PromptChain
