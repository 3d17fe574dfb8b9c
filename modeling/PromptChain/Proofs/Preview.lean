import PromptChain.CommandLine.Execution
import PromptChain.Proofs.Loading
import PromptChain.Proofs.Resolution

/-!
# Prompts known before a run

The prompt of a block can be shown before any block has been executed. A run resolves it when the
blocks before have their results, but it looks at the block just before only, and for a result
only if that is a generate block whose name a mention displays. A prompt that does not do this is
*settled* (`Template.Settled`).

All else that a prompt depends on is in the *faces* of the blocks (`Block.Face`), which a document
gives (`FlowDefinition.faces_toBlocks`) and no turn changes (`faces_carry`). So a settled prompt is
the same in all lists of blocks from one document, in the midst of a run or not
(`Template.resolve_of_faces`), and what is shown is what a run reports
(`CommandLine.preview_foretells_run`).
-/

namespace PromptChain

theorem eq_ok_of_toOption {ε α : Type} {x : Except ε α} {a : α} (h : x.toOption = some a) :
    x = .ok a := by
  cases x with
  | error _ => cases h
  | ok _ => exact congrArg _ (Option.some.inj h)

/-! ## Faces -/

/-- What a block shows of itself before it is executed. -/
structure Block.Face where
  kind : Block.Kind
  name : String
  prompt? : Option String
  input? : Option String

/-- The face of a block. -/
def Block.face (block : Block) : Face :=
  ⟨block.kind, block.name, block.settings.prompt?, block.settings.input?⟩

/-- The face of the block that a document describes. -/
def BlockDefinition.face (definition : BlockDefinition) : Block.Face :=
  ⟨definition.kind, definition.name?.getD definition.kind.name, definition.prompt?,
    definition.input?⟩

/-- A turn changes no face. -/
theorem faces_carry (blocks : List Block) (outcomes : List Outcome) :
    (carry blocks outcomes).map Block.face = blocks.map Block.face := by
  induction blocks generalizing outcomes with
  | nil => rfl
  | cons block blocks ih => cases outcomes <;> simp [carry, Block.withResult, Block.face, ih]

theorem FlowDefinition.faces_blocksFrom (defaults : Configuration.Defaults)
    (newId : Nat → String) (count : Nat) (definitions : List BlockDefinition) :
    (blocksFrom defaults newId count definitions).map Block.face =
      definitions.map BlockDefinition.face := by
  induction definitions generalizing count with
  | nil => rfl
  | cons described rest ih => exact congrArg _ (ih _)

/-- The faces of the blocks of a flow are in the document, whatever the defaults and the new ids
    are. -/
theorem FlowDefinition.faces_toBlocks (definition : FlowDefinition)
    (defaults : Configuration.Defaults) (newId : Nat → String) :
    (definition.toBlocks defaults newId).map Block.face =
      definition.blocks.map BlockDefinition.face :=
  faces_blocksFrom defaults newId 0 definition.blocks

/-! ## Settled prompts -/

namespace Template

variable {template : String} {blocks blocks' : List Block} {index : Nat}

/-- A template at a position asks for no result: there is no block before, or that is an input
    block, or no mention displays its name. -/
def Settled (template : String) (blocks : List Block) (index : Nat) : Prop :=
  ∀ previous, previous? blocks index = some previous →
    previous.kind = .input ∨ ∀ m ∈ mentions template, m.display ≠ previous.name

theorem previous?_map_face (h : blocks.map Block.face = blocks'.map Block.face) (index : Nat) :
    (previous? blocks index).map Block.face = (previous? blocks' index).map Block.face := by
  cases index with
  | zero => rfl
  | succ index => simp only [previous?, ← List.getElem?_map, h]

/-- A mention that asks for no result stands for the same after each of two blocks with the same
    face. -/
theorem outcome_of_face {block block' : Block} {display : String}
    (h : block.face = block'.face) (hs : block.kind = .input ∨ display ≠ block.name) :
    outcome (some block) display = outcome (some block') display := by
  obtain ⟨hkind, hname, -, hinput⟩ := Block.Face.mk.inj h
  rw [outcome, outcome, ← hname]
  split
  next heq =>
    have hk : block.kind = .input := hs.resolve_right (absurd heq.symm)
    rw [blockText, blockText, ← hkind, hk, hinput]
  next => rfl

/-- A settled prompt depends on faces only. -/
theorem resolve_of_faces (hs : Settled template blocks index)
    (h : blocks.map Block.face = blocks'.map Block.face) :
    resolve template blocks index = resolve template blocks' index := by
  have houtcome : ∀ m ∈ mentions template,
      outcome (previous? blocks index) m.display =
        outcome (previous? blocks' index) m.display := by
    intro m hm
    have hface := previous?_map_face h index
    cases hprevious : previous? blocks index with
    | none =>
      rw [hprevious] at hface
      rw [Option.map_eq_none_iff.1 hface.symm]
    | some previous =>
      rw [hprevious] at hface
      obtain ⟨previous', hprevious', hface⟩ := Option.map_eq_some_iff.1 hface.symm
      rw [hprevious']
      exact outcome_of_face hface.symm ((hs previous hprevious).imp_right fun hne => hne m hm)
  have hmentions : (resolve template blocks index).mentions =
      (resolve template blocks' index).mentions :=
    List.map_congr_left fun m hm => congrArg _ (houtcome m hm)
  have htext : (resolve template blocks index).text = (resolve template blocks' index).text := by
    rw [resolve_text_eq_weave, resolve_text_eq_weave, hmentions]
  exact congrArg₂ Resolution.mk htext hmentions

end Template

/-! ## The run and what is shown before it -/

section

variable {π : Type} [Provider π]

/-- The outcome at a place is that of a turn of the block there. -/
theorem getElem?_foldl_passStep (blocks : List Block) {done : List Block} {index : Nat}
    {block : Block} (hat : done[index]? = some block) (provider : π) :
    ∃ outcomes, ∃ provider' : π,
      (done.foldl (passStep blocks) ([], provider)).1[index]? =
        some (block.turn (carry blocks outcomes) index provider').1 := by
  induction done using List.reverseRecOn with
  | nil => cases hat
  | append_singleton done last ih =>
    rcases hdone : done.foldl (passStep blocks) ([], provider) with ⟨outcomes, provider'⟩
    have hl : outcomes.length = done.length := by
      rw [← length_foldl_passStep blocks done provider, hdone]
    rw [hdone] at ih
    have hstep : ((done ++ [last]).foldl (passStep blocks) ([], provider)).1 =
        outcomes ++ [(last.turn (carry blocks outcomes) outcomes.length provider').1] := by
      simp [passStep, hdone]
    rw [hstep]
    rcases Nat.lt_or_ge index done.length with hlt | hge
    · rw [List.getElem?_append_left hlt] at hat
      rw [List.getElem?_append_left (hl ▸ hlt)]
      exact ih hat
    · have hlt := (List.getElem?_eq_some_iff.1 hat).1
      rw [List.length_append, List.length_singleton] at hlt
      obtain rfl : index = outcomes.length := by omega
      obtain rfl : last = block := by simpa [hl] using hat
      exact ⟨outcomes, provider', List.getElem?_concat_length⟩

/-- A run reports a settled prompt as it is before the run. -/
theorem Store.prompt?_executeFlow {store : Store} (hs : store.IsFresh) {index : Nat}
    {block : Block} (hat : store.blocks[index]? = some block) (hk : block.kind = .generate)
    (hsettled : Template.Settled (block.settings.prompt?.getD "") store.blocks index)
    (provider : π) :
    ∃ outcome, (store.executeFlow provider).1[index]? = some outcome ∧
      outcome.id = block.id ∧ outcome.index = index ∧
      outcome.prompt? =
        some (Template.resolve (block.settings.prompt?.getD "") store.blocks index).text := by
  obtain ⟨outcomes, provider', houtcome⟩ := getElem?_foldl_passStep store.blocks hat provider
  rw [executeFlow_eq_pass hs]
  refine ⟨_, houtcome, Block.turn_id _ _ _ _, Block.turn_index _ _ _ _, ?_⟩
  rw [Template.resolve_of_faces hsettled (faces_carry store.blocks outcomes).symm,
    Block.turn_of_generate hk]

end

namespace CommandLine

/-- What is shown for a block of a flow in a file. -/
theorem perform_resolve {surroundings : Surroundings} {path : String} {index : Nat}
    {configuration : Configuration} {definition : FlowDefinition}
    (hconfiguration : surroundings.configuration none = .ok configuration)
    (hflow : surroundings.flow path = .ok definition) :
    (Invocation.resolve path index).perform surroundings =
      preview (definition.toBlocks configuration.defaults surroundings.newId) index := by
  simp only [Invocation.perform, withFlow, orTrouble, hconfiguration, hflow]

/-- The prompt of a generate block, if it is settled, is shown before a run as the run reports it,
    whatever the provider answers. The run may have other defaults and new ids. -/
theorem preview_foretells_run {definition : FlowDefinition} {defaults : Configuration.Defaults}
    {newId : Nat → String} {index : Nat} {block : Block}
    (hd : ((definition.toBlocks defaults newId).map Block.id).Nodup)
    (hat : (definition.toBlocks defaults newId)[index]? = some block)
    (hk : block.kind = .generate)
    (hsettled : Template.Settled (block.settings.prompt?.getD "")
      (definition.toBlocks defaults newId) index)
    {surroundings : Surroundings} {path : String} {configuration : Configuration}
    (hconfiguration : surroundings.configuration none = .ok configuration)
    (hflow : surroundings.flow path = .ok definition) {π : Type} [Provider π] (provider : π) :
    let blocks := definition.toBlocks defaults newId
    let resolution := Template.resolve (block.settings.prompt?.getD "") blocks index
    (Invocation.resolve path index).perform surroundings = resolutionReport resolution ∧
      ∃ outcome, ((Store.ofBlocks blocks).executeFlow provider).1[index]? = some outcome ∧
        outcome.id = block.id ∧ outcome.index = index ∧
        outcome.prompt? = some resolution.text := by
  intro blocks resolution
  have hfaces : blocks.map Block.face =
      (definition.toBlocks configuration.defaults surroundings.newId).map Block.face := by
    rw [FlowDefinition.faces_toBlocks, FlowDefinition.faces_toBlocks]
  constructor
  · -- What is shown comes from another list, in which the block has the same prompt.
    have hface := congrArg (·[index]?) hfaces
    simp only [List.getElem?_map] at hface
    rw [hat] at hface
    obtain ⟨block', hat', hface⟩ := Option.map_eq_some_iff.1 hface.symm
    obtain ⟨-, -, hprompt, -⟩ := Block.Face.mk.inj hface
    rw [perform_resolve hconfiguration hflow, preview, hat']
    simp only [hprompt]
    rw [← Template.resolve_of_faces hsettled hfaces]
  · have hs : (Store.ofBlocks blocks).IsFresh :=
      ⟨hd, FlowDefinition.isFresh_blocksFrom defaults 0 definition.blocks⟩
    exact Store.prompt?_executeFlow hs hat hk hsettled provider

/-- A prompt after an input block is shown as a run reports it. The text of the flow is both JSON
    and YAML. -/
theorem preview_foretells_after_input :
    let text := "\x7b\"blocks\": [" ++
      "\x7b\"kind\": \"Input\", \"id\": \"a\", \"name\": \"s\", \"input\": \"owls\"\x7d, " ++
      "\x7b\"kind\": \"Generate\", \"id\": \"g\", \"prompt\": \"On @[s](a)\"\x7d]\x7d"
    let definition : FlowDefinition := ⟨none,
      [{ BlockDefinition.ofKind .input with
          id? := some "a", name? := some "s", input? := some "owls" },
        { BlockDefinition.ofKind .generate with id? := some "g", prompt? := some "On @[s](a)" }]⟩
    let blocks := definition.toBlocks .standard fun _ => "new"
    let environment := fun name =>
      if name = "AI_FLOW_BASE_URL" then some "http://[::1]" else none
    let surroundings : Surroundings :=
      ⟨fun _ => .ok text, environment, .unreachable "no network", fun _ => "newer"⟩
    surroundings.flow "flow.json" = .ok definition ∧
      (Invocation.resolve "flow.json" 1).perform surroundings = .success ["On owls"] [] ∧
      ∃ outcome, ((Store.ofBlocks blocks).executeFlow (Failing.mk .missingPrompt)).1[1]? =
          some outcome ∧
        outcome.id = "g" ∧ outcome.index = 1 ∧ outcome.prompt? = some "On owls" := by
  intro text definition blocks environment surroundings
  have hread : ∀ format, (FlowDefinition.ofText (some "flow.json") text format).toOption =
      some definition := by
    rintro (_ | _) <;> decide +kernel
  have hflow : surroundings.flow "flow.json" = .ok definition := eq_ok_of_toOption (hread _)
  have hgood : (surroundings.configuration none).toOption.isSome := by decide +kernel
  obtain ⟨configuration, hconfiguration⟩ := Option.isSome_iff_exists.1 hgood
  have hsettled : Template.Settled "On @[s](a)" blocks 1 := by
    rintro previous ⟨⟩
    exact .inl rfl
  have htext : (Template.resolve "On @[s](a)" blocks 1).text = "On owls" := by decide +kernel
  have hreport : resolutionReport (Template.resolve "On @[s](a)" blocks 1) =
      .success ["On owls"] [] := by decide +kernel
  have hd : (blocks.map Block.id).Nodup := by decide
  have hat : blocks[1]? = some blocks[1] := rfl
  obtain ⟨hshown, houtcome⟩ := preview_foretells_run hd hat rfl hsettled
    (eq_ok_of_toOption hconfiguration) hflow (Failing.mk .missingPrompt)
  exact ⟨hflow, hshown.trans hreport, htext ▸ houtcome⟩

end CommandLine

end PromptChain
