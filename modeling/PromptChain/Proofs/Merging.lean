import PromptChain.Proofs.Budgets

/-!
# Changes merged

Changes of settings can be *merged* into one change, which gives each setting as the last of them
does that gives it at all. To apply them one after the other is to apply the one into which they
are merged, so changes may be put together before they are applied, and applied again afterwards
(`Block.changes_merge`). On a store this only shows in the version
(`Store.configure_merged`).

The settings of a block are looked at one by one (`Block.Setting`). What a block has for a setting
(`Settings.value`) after a change is what the change gives, if it gives anything, or else what the
block had before (`Settings.value_apply`); what a merged change gives is as simple
(`Patch.given?_merge`). The laws follow from these two, for all settings alike.

What a block has is not always what was given: a token budget of zero is raised to one. But it is
raised when it is applied and not when it is merged, and a budget of zero that was there before
stays until a change gives another (`Settings.maxTokens_foldl_apply_eq_zero_iff`).
-/

namespace PromptChain

namespace Block

/-! ## Settings one by one -/

/-- One of the settings of a block. -/
inductive Setting where
  | prompt
  | input
  | temperature
  | maxTokens
  | answerShape
  | schema

namespace Setting

/-- What a change gives for a setting. -/
abbrev Given : Setting → Type
  | prompt | input => String
  | temperature => Binary64
  | maxTokens => UInt32
  | answerShape => AnswerShape
  | schema => Schema.Description

/-- What a block has for a setting; a prompt, a text or a description may be missing. -/
abbrev Value : Setting → Type
  | prompt | input => Option String
  | temperature => Binary64
  | maxTokens => UInt32
  | answerShape => AnswerShape
  | schema => Option Schema.Description

/-- What a block has for a setting once a change gives it. A token budget is at least one. -/
def settled : (setting : Setting) → setting.Given → setting.Value
  | prompt, text | input, text => some text
  | temperature, number => number
  | maxTokens, budget => max 1 budget
  | answerShape, shape => shape
  | schema, description => some description

end Setting

/-- What the settings have for one of them. -/
def Settings.value (settings : Settings) : (setting : Setting) → setting.Value
  | .prompt => settings.prompt?
  | .input => settings.input?
  | .temperature => settings.temperature
  | .maxTokens => settings.maxTokens
  | .answerShape => settings.answerShape
  | .schema => settings.schema?

/-- What the change gives for a setting, if it gives it. -/
def Patch.given? (patch : Patch) : (setting : Setting) → Option setting.Given
  | .prompt => patch.prompt?
  | .input => patch.input?
  | .temperature => patch.temperature?
  | .maxTokens => patch.maxTokens?
  | .answerShape => patch.answerShape?
  | .schema => patch.schema?

/-- Settings are no more than what they have one by one. -/
theorem Settings.ext_value {settings settings' : Settings}
    (h : ∀ setting, settings.value setting = settings'.value setting) : settings = settings' := by
  cases settings
  cases settings'
  rw [mk.injEq]
  exact ⟨h .prompt, h .input, h .temperature, h .maxTokens, h .answerShape, h .schema⟩

/-- A change is no more than what it gives for each setting. -/
theorem Patch.ext_given {patch patch' : Patch}
    (h : ∀ setting, patch.given? setting = patch'.given? setting) : patch = patch' := by
  cases patch
  cases patch'
  rw [mk.injEq]
  exact ⟨h .prompt, h .input, h .temperature, h .maxTokens, h .answerShape, h .schema⟩

/-! ## Merging -/

namespace Patch

/-- The change that gives what the later of two changes gives, or else what the earlier gives. -/
def merge (earlier later : Patch) : Patch where
  prompt? := later.prompt?.or earlier.prompt?
  input? := later.input?.or earlier.input?
  temperature? := later.temperature?.or earlier.temperature?
  maxTokens? := later.maxTokens?.or earlier.maxTokens?
  answerShape? := later.answerShape?.or earlier.answerShape?
  schema? := later.schema?.or earlier.schema?

/-- Changes merged in their order. -/
def mergeAll (changes : List Patch) : Patch := changes.foldl merge empty

/-- No setting is given by both changes. -/
def Disjoint (patch patch' : Patch) : Prop :=
  ∀ setting, patch.given? setting = none ∨ patch'.given? setting = none

/-- A setting that is given by both changes is the same in the end. -/
def Compatible (patch patch' : Patch) : Prop :=
  ∀ setting, ∀ given ∈ patch.given? setting, ∀ given' ∈ patch'.given? setting,
    setting.settled given = setting.settled given'

theorem Disjoint.compatible {patch patch' : Patch} (h : patch.Disjoint patch') :
    patch.Compatible patch' := by
  intro setting given hgiven given' hgiven'
  rcases h setting with hnone | hnone
  · exact absurd (hnone ▸ hgiven) nofun
  · exact absurd (hnone ▸ hgiven') nofun

@[simp]
theorem given?_empty (setting : Setting) : empty.given? setting = none := by
  cases setting <;> rfl

@[simp]
theorem given?_merge (earlier later : Patch) (setting : Setting) :
    (earlier.merge later).given? setting = (later.given? setting).or (earlier.given? setting) := by
  cases setting <;> rfl

theorem merge_assoc (first second third : Patch) :
    (first.merge second).merge third = first.merge (second.merge third) :=
  ext_given fun setting => by simp only [given?_merge, Option.or_assoc]

theorem empty_merge (patch : Patch) : empty.merge patch = patch :=
  ext_given fun setting => by simp

theorem merge_empty (patch : Patch) : patch.merge empty = patch :=
  ext_given fun setting => by simp

theorem merge_self (patch : Patch) : patch.merge patch = patch :=
  ext_given fun setting => by simp

/-- Among many changes, the last one that gives a setting decides on it. -/
theorem given?_mergeAll (changes : List Patch) (setting : Setting) :
    (mergeAll changes).given? setting = changes.reverse.findSome? (·.given? setting) := by
  induction changes using List.reverseRecOn with
  | nil => exact given?_empty setting
  | append_singleton front last ih =>
    have hlast : mergeAll (front ++ [last]) = (mergeAll front).merge last := List.foldl_concat ..
    rw [hlast, given?_merge, ih, List.reverse_concat, List.findSome?_cons]
    cases last.given? setting <;> rfl

end Patch

/-! ## Applying what is merged -/

namespace Settings

open Patch (mergeAll)

variable {settings : Settings} {patch patch' : Patch} {setting : Setting}

/-- What a change makes of one setting. -/
theorem value_apply (settings : Settings) (patch : Patch) (setting : Setting) :
    (settings.apply patch).value setting =
      ((patch.given? setting).map setting.settled).getD (settings.value setting) := by
  obtain ⟨prompt?, input?, temperature?, maxTokens?, answerShape?, schema?⟩ := patch
  cases setting with
  | prompt => cases prompt? <;> rfl
  | input => cases input? <;> rfl
  | temperature => cases temperature? <;> rfl
  | maxTokens => cases maxTokens? <;> rfl
  | answerShape => cases answerShape? <;> rfl
  | schema => cases schema? <;> rfl

theorem value_apply_of_given {given : setting.Given} (h : patch.given? setting = some given) :
    (settings.apply patch).value setting = setting.settled given := by
  rw [value_apply, h, Option.map_some, Option.getD_some]

theorem value_apply_of_absent (h : patch.given? setting = none) :
    (settings.apply patch).value setting = settings.value setting := by
  rw [value_apply, h, Option.map_none, Option.getD_none]

theorem apply_empty (settings : Settings) : settings.apply .empty = settings :=
  ext_value fun setting => value_apply_of_absent (Patch.given?_empty setting)

theorem apply_apply (settings : Settings) (patch patch' : Patch) :
    (settings.apply patch).apply patch' = settings.apply (patch.merge patch') := by
  refine ext_value fun setting => ?_
  rw [value_apply, value_apply, value_apply, Patch.given?_merge]
  -- What the later change gives hides what the earlier one gave and what was there before.
  cases patch'.given? setting <;> rfl

/-- To apply changes one after the other is to apply the one into which they are merged. -/
theorem foldl_apply (settings : Settings) (changes : List Patch) :
    changes.foldl apply settings = settings.apply (mergeAll changes) := by
  rw [mergeAll, ← List.foldl_hom settings.apply (apply_apply settings), apply_empty]

theorem apply_self (settings : Settings) (patch : Patch) :
    (settings.apply patch).apply patch = settings.apply patch := by
  rw [apply_apply, Patch.merge_self]

/-- The order of two changes does not matter just if they are compatible. -/
theorem apply_comm_iff :
    (settings.apply patch).apply patch' = (settings.apply patch').apply patch ↔
      patch.Compatible patch' := by
  refine ⟨fun h setting given hgiven given' hgiven' => ?_, fun h => ext_value fun setting => ?_⟩
  · rw [← value_apply_of_given hgiven, ← value_apply_of_given hgiven', h]
  · rw [value_apply, value_apply, value_apply, value_apply]
    cases hgiven : patch.given? setting with
    | none => rfl
    | some given =>
      cases hgiven' : patch'.given? setting with
      | none => rfl
      | some given' => exact (h setting given hgiven given' hgiven').symm

/-- A setting is what the last change gives that gives it, or else what it was before. -/
theorem value_foldl_apply (settings : Settings) (changes : List Patch) (setting : Setting) :
    (changes.foldl apply settings).value setting =
      ((changes.reverse.findSome? (·.given? setting)).map setting.settled).getD
        (settings.value setting) := by
  rw [foldl_apply, value_apply, Patch.given?_mergeAll]

/-- A budget of zero stays as long as no change gives a budget, and no longer. -/
theorem maxTokens_foldl_apply_eq_zero_iff (h : settings.maxTokens = 0) (changes : List Patch) :
    (changes.foldl apply settings).maxTokens = 0 ↔
      ∀ change ∈ changes, change.maxTokens? = none := by
  have hvalue : (changes.foldl apply settings).maxTokens =
      ((changes.reverse.findSome? (·.maxTokens?)).map (max 1)).getD settings.maxTokens :=
    value_foldl_apply settings changes .maxTokens
  have hnone : changes.reverse.findSome? (·.maxTokens?) = none ↔
      ∀ change ∈ changes, change.maxTokens? = none := by
    simp [List.findSome?_eq_none_iff]
  rw [hvalue, ← hnone]
  cases changes.reverse.findSome? (·.maxTokens?) with
  | none => exact iff_of_true h rfl
  | some budget =>
    refine iff_of_false (fun hzero => ?_) nofun
    have hpositive : 1 ≤ max 1 budget := one_le_max_one budget
    rw [show max 1 budget = 0 from hzero] at hpositive
    exact absurd hpositive (by decide)

end Settings

/-- Changes of settings are a monoid under merging, in which the later change is preferred, and
    applying them is its action: changes that are applied one after the other have the effect of
    the one into which they are merged, and a change that is applied again has no further effect.
    The order of two changes that give no setting in common does not matter. What a change gives is
    there afterwards, and what it does not give stays as it was; so does a token budget of zero,
    until a change gives a budget. -/
theorem changes_merge (settings : Settings) (first second third : Patch) (changes : List Patch) :
    (∀ setting, (first.merge second).given? setting =
      (second.given? setting).or (first.given? setting)) ∧
    ((first.merge second).merge third = first.merge (second.merge third) ∧
      Patch.empty.merge first = first ∧ first.merge .empty = first) ∧
    (settings.apply .empty = settings ∧
      (settings.apply first).apply second = settings.apply (first.merge second)) ∧
    changes.foldl Settings.apply settings = settings.apply (Patch.mergeAll changes) ∧
    (settings.apply first).apply first = settings.apply first ∧
    (first.Disjoint second →
      (settings.apply first).apply second = (settings.apply second).apply first) ∧
    (∀ setting,
      (∀ given ∈ first.given? setting,
        (settings.apply first).value setting = setting.settled given) ∧
      (first.given? setting = none →
        (settings.apply first).value setting = settings.value setting)) ∧
    (settings.maxTokens = 0 → ((changes.foldl Settings.apply settings).maxTokens = 0 ↔
      ∀ change ∈ changes, change.maxTokens? = none)) :=
  ⟨Patch.given?_merge first second,
    ⟨Patch.merge_assoc first second third, Patch.empty_merge first, Patch.merge_empty first⟩,
    ⟨settings.apply_empty, settings.apply_apply first second⟩,
    settings.foldl_apply changes,
    settings.apply_self first,
    fun h => Settings.apply_comm_iff.2 h.compatible,
    fun _ => ⟨fun _ h => Settings.value_apply_of_given h,
      fun h => Settings.value_apply_of_absent h⟩,
    fun h => Settings.maxTokens_foldl_apply_eq_zero_iff h changes⟩

/-- Settings are read with a budget of zero, which outlives a change of the prompt and the
    temperature. This change can be exchanged with one that gives a budget; it gives zero again,
    and that makes the budget one. -/
theorem changes_merge_zero_budget :
    let document := Json.object [("prompt", .string "go"), ("maxTokens", .ofWord 0)]
    let settings : Settings := { Settings.standard with prompt? := some "go", maxTokens := 0 }
    let first : Patch := { Patch.empty with prompt? := some "stop", temperature? := some .nan }
    let second : Patch := { Patch.empty with maxTokens? := some 0, answerShape? := some .object }
    Settings.decode document = .ok settings ∧ settings.maxTokens = 0 ∧ first.Disjoint second ∧
      (settings.apply first).apply second = (settings.apply second).apply first ∧
      "stop" ∈ first.given? .prompt ∧ (settings.apply first).value .prompt = some "stop" ∧
      first.given? .maxTokens = none ∧
      (settings.apply first).value .maxTokens = settings.value .maxTokens ∧
      ([first, first].foldl Settings.apply settings).maxTokens = 0 ∧
      ([first, second, first].foldl Settings.apply settings).maxTokens = 1 := by
  intro document settings first second
  have hzero : settings.maxTokens = 0 := rfl
  have hdisjoint : first.Disjoint second := fun setting => by cases setting <;> decide
  have hgiven : "stop" ∈ first.given? .prompt := rfl
  have habsent : first.given? .maxTokens = none := rfl
  obtain ⟨-, -, -, -, -, hcomm, hvalue, hbudget⟩ :=
    changes_merge settings first second .empty [first, first]
  refine ⟨rfl, hzero, hdisjoint, hcomm hdisjoint, hgiven, (hvalue .prompt).1 _ hgiven, habsent,
    (hvalue .maxTokens).2 habsent, ?_, rfl⟩
  exact (hbudget hzero).2 (by simp [first, Patch.empty])

end Block

/-! ## Changes of a block in a store -/

namespace Store

open Block

variable {id : String} {store : Store} {changes : List Patch}

/-- Change the settings of the first block with an id, by each of the changes in turn. -/
def configureEach? (id : String) : List Patch → Store → Option Store
  | [], store => some store
  | change :: rest, store => (store.configure? id change).bind (configureEach? id rest)

theorem configureEach?_of_first {before after : List Block} {block : Block}
    (h : First id store.blocks before block after) (changes : List Patch) :
    store.configureEach? id changes = some ⟨store.version + changes.length,
      before ++ { block with settings := changes.foldl Settings.apply block.settings } :: after⟩ := by
  induction changes generalizing store block with
  | nil => simp [configureEach?, ← h.split]
  | cons change rest ih =>
    let changed : Block := { block with settings := block.settings.apply change }
    have hfirst : First id (before ++ changed :: after) before changed after :=
      ⟨rfl, h.id_eq, h.before_ne⟩
    rw [configureEach?, configure?, update?_of_first h, Option.bind_some, ih hfirst,
      List.length_cons, Nat.add_right_comm, Nat.add_assoc]
    rfl

/-- Changes made in turn leave the list that the one into which they are merged leaves. Only the
    version tells how many there were. -/
theorem configure_merged (hne : changes ≠ []) (store : Store) :
    store.configureEach? id changes = (store.configure? id (Patch.mergeAll changes)).map
      fun merged => { merged with version := store.version + changes.length } := by
  rcases first_or_absent id store.blocks with ⟨before, block, after, hf⟩ | ha
  · rw [configureEach?_of_first hf, configure?, update?_of_first hf, Settings.foldl_apply]
    rfl
  · obtain ⟨change, rest, rfl⟩ := List.exists_cons_of_ne_nil hne
    rw [configureEach?, configure?, configure?, update?_of_absent ha, update?_of_absent ha]
    rfl

end Store

end PromptChain
