import PromptChain.Proofs.Fields

/-!
# Settings and changes from one document

A document may be read as settings or as a change of settings. Both have the same fields, but
settings are also given by the older names of two fields, which a change passes over, and a change
never sets a token budget below one, which settings may have.

So a change that can be read from a document of settings makes `Block.Settings.asChange` of the
settings of a new block, and this is what the document says as settings just if it has no part on
which the two differ (`Block.change_means_settings_iff`).
-/

namespace PromptChain

open Source (ReadOf Interchange optionally)
open Json (under)

/-- A token budget that is at least one is not raised. -/
theorem max_one_eq_self_iff {n : UInt32} : max 1 n = n ↔ 1 ≤ n := by
  change (if 1 ≤ n then n else 1) = n ↔ 1 ≤ n
  split
  next h => exact iff_of_true rfl h
  next h => exact ⟨fun heq => heq ▸ UInt32.le_refl 1, fun hle => absurd hle h⟩

/-! ## Older names -/

section Older

variable {name older : String} {members : List (String × Json)}

/-- The members under two names are those under the one and those under the other. -/
theorem Json.length_under_pair (hne : name ≠ older) (members : List (String × Json)) :
    (under [name, older] members).length =
      (under [name] members).length + (under [older] members).length := by
  simp only [under, List.length_map, ← List.countP_eq_length_filter, List.mem_cons,
    List.not_mem_nil, or_false]
  induction members with
  | nil => rfl
  | cons member rest ih =>
    simp only [List.countP_cons, ih, decide_eq_true_eq]
    by_cases hname : member.1 = name
    · simp only [hname, hne, or_false, if_true, if_false]
      omega
    · simp only [hname, false_or, if_false]
      omega

/-- If there is at most one member under two names, then it is under one of them. -/
theorem Json.under_newer (hne : name ≠ older) (hone : (under [name, older] members).length ≤ 1) :
    under [name] members =
      if older ∈ members.map Prod.fst then [] else under [name, older] members := by
  rw [length_under_pair hne] at hone
  split
  next h =>
    obtain ⟨member, hmember, rfl⟩ := List.mem_map.1 h
    have holder : member.2 ∈ under [member.1] members :=
      List.mem_map_of_mem (List.mem_filter.2 ⟨hmember, by simp⟩)
    have := List.length_pos_of_mem holder
    exact List.eq_nil_of_length_eq_zero (by omega)
  next h =>
    refine congrArg _ (List.filter_congr fun member hmember => ?_)
    have hkey : member.1 ≠ older := fun heq => h (heq ▸ List.mem_map_of_mem hmember)
    simp [hkey]

end Older

namespace Block

/-! ## What is read -/

/-- The settings have what is read from the members of an object. -/
structure Settings.ReadFrom (members : List (String × Json)) (settings : Settings) : Prop where
  prompt : ReadOf (optionally Source.string) none (under ["prompt"] members) settings.prompt?
  input : ReadOf (optionally Source.string) none (under ["input"] members) settings.input?
  temperature : ReadOf Source.double defaultTemperature (under ["temperature"] members)
    settings.temperature
  maxTokens : ReadOf Source.word32 defaultMaxTokens (under ["maxTokens"] members)
    settings.maxTokens
  answerShape : ReadOf AnswerShape.decode .text
    (under ["generationShape", "generateType"] members) settings.answerShape
  schema : ReadOf (optionally Schema.Description.decode) none
    (under ["schema", "schemaDefinition"] members) settings.schema?

/-- The change has what is read from the members of an object. -/
structure Patch.ReadFrom (members : List (String × Json)) (patch : Patch) : Prop where
  prompt : ReadOf (optionally Source.string) none (under ["prompt"] members) patch.prompt?
  input : ReadOf (optionally Source.string) none (under ["input"] members) patch.input?
  temperature : ReadOf (optionally Source.double) none (under ["temperature"] members)
    patch.temperature?
  maxTokens : ReadOf (optionally Source.word32) none (under ["maxTokens"] members)
    patch.maxTokens?
  answerShape : ReadOf (optionally AnswerShape.decode) none (under ["generationShape"] members)
    patch.answerShape?
  schema : ReadOf (optionally Schema.Description.decode) none (under ["schema"] members)
    patch.schema?

theorem Settings.interchange_slots : (slots (δ := Json)).Pairwise Interchange := by
  simp only [slots, List.pairwise_cons, List.forall_mem_cons, List.Pairwise.nil, and_true]
  and_intros <;> first | exact .optional (by intros; rfl) | exact nofun

theorem Patch.interchange_slots : (slots (δ := Json)).Pairwise Interchange := by
  simp only [slots, List.pairwise_cons, List.forall_mem_cons, List.Pairwise.nil, and_true]
  and_intros <;> first | exact .optional (by intros; rfl) | exact nofun

variable {members : List (String × Json)} {settings : Settings} {patch : Patch}

theorem Settings.readFrom_of_decode (h : decode (Json.object members) = .ok settings) :
    settings.ReadFrom members := by
  have hreads := Source.readsEach_of_recordOf (by decide +kernel) interchange_slots h
  obtain ⟨prompt?, hprompt, hreads⟩ := hreads.optional _ rfl
  obtain ⟨input?, hinput, hreads⟩ := hreads.optional _ rfl
  obtain ⟨temperature, htemperature, hreads⟩ := hreads.optional _ rfl
  obtain ⟨maxTokens, hmaxTokens, hreads⟩ := hreads.optional _ rfl
  obtain ⟨answerShape, hanswerShape, hreads⟩ := hreads.optional _ rfl
  obtain ⟨schema?, hschema, hreads⟩ := hreads.optional _ rfl
  cases hreads
  exact ⟨hprompt, hinput, htemperature, hmaxTokens, hanswerShape, hschema⟩

theorem Patch.readFrom_of_decode (h : decode (Json.object members) = .ok patch) :
    patch.ReadFrom members := by
  have hreads := Source.readsEach_of_recordOf (by decide +kernel) interchange_slots h
  obtain ⟨prompt?, hprompt, hreads⟩ := hreads.optional _ rfl
  obtain ⟨input?, hinput, hreads⟩ := hreads.optional _ rfl
  obtain ⟨temperature?, htemperature, hreads⟩ := hreads.optional _ rfl
  obtain ⟨maxTokens?, hmaxTokens, hreads⟩ := hreads.optional _ rfl
  obtain ⟨answerShape?, hanswerShape, hreads⟩ := hreads.optional _ rfl
  obtain ⟨schema?, hschema, hreads⟩ := hreads.optional _ rfl
  cases hreads
  exact ⟨hprompt, hinput, htemperature, hmaxTokens, hanswerShape, hschema⟩

/-! ## What a change makes of new settings -/

/-- What a change makes of the settings of a new block, if it is read from the document of these
    settings, which has the given keys. -/
def Settings.asChange (settings : Settings) (keys : List String) : Settings :=
  { settings with
    maxTokens := max 1 settings.maxTokens
    answerShape := if "generateType" ∈ keys then .text else settings.answerShape
    schema? := if "schemaDefinition" ∈ keys then none else settings.schema? }

theorem Settings.asChange_eq_self_iff {keys : List String} :
    settings.asChange keys = settings ↔
      1 ≤ settings.maxTokens ∧ ("generateType" ∈ keys → settings.answerShape = .text) ∧
        ("schemaDefinition" ∈ keys → settings.schema? = none) := by
  obtain ⟨prompt?, input?, temperature, maxTokens, answerShape, schema?⟩ := settings
  simp only [asChange, mk.injEq, true_and, max_one_eq_self_iff, ite_eq_right_iff]
  simp only [eq_comm]

theorem Settings.apply_of_readFrom (hs : settings.ReadFrom members)
    (hp : patch.ReadFrom members) :
    standard.apply patch = settings.asChange (members.map Prod.fst) := by
  have hprompt : patch.prompt? = settings.prompt? := hp.prompt.unique hs.prompt
  have hinput : patch.input? = settings.input? := hp.input.unique hs.input
  have htemperature : patch.temperature?.getD defaultTemperature = settings.temperature :=
    hs.temperature.getD_optionally nofun hp.temperature
  have hmaxTokens : (patch.maxTokens?.map (max 1)).getD defaultMaxTokens =
      max 1 settings.maxTokens := by
    rw [← hs.maxTokens.getD_optionally nofun hp.maxTokens]
    exact Option.getD_map (max 1) defaultMaxTokens patch.maxTokens?
  have hanswerShape : patch.answerShape?.getD .text =
      if "generateType" ∈ members.map Prod.fst then .text else settings.answerShape := by
    have hpatch := hp.answerShape
    rw [Json.under_newer (by decide) hs.answerShape.length_le_one] at hpatch
    split
    next h =>
      -- The one member there is goes by the older name, and the change does not know that.
      rw [if_pos h] at hpatch
      rw [hpatch.unique .omitted, Option.getD_none]
    next h =>
      rw [if_neg h] at hpatch
      exact hs.answerShape.getD_optionally nofun hpatch
  have hschema : patch.schema? =
      if "schemaDefinition" ∈ members.map Prod.fst then none else settings.schema? := by
    have hpatch := hp.schema
    rw [Json.under_newer (by decide) hs.schema.length_le_one] at hpatch
    split
    next h =>
      rw [if_pos h] at hpatch
      exact hpatch.unique .omitted
    next h =>
      rw [if_neg h] at hpatch
      exact hpatch.unique hs.schema
  simp [apply, standard, asChange, hprompt, hinput, htemperature, hmaxTokens, hanswerShape, hschema]

/-- The change that is read from a document of settings makes of the settings of a new block what
    the document says, except for a token budget of zero and for what is given by an older name.
    So it makes just these settings of them if there is no such part, or it has no effect. -/
theorem change_means_settings_iff (hs : Settings.decode (Json.object members) = .ok settings)
    (hp : Patch.decode (Json.object members) = .ok patch) :
    Settings.standard.apply patch = settings.asChange (members.map Prod.fst) ∧
      (Settings.standard.apply patch = settings ↔
        1 ≤ settings.maxTokens ∧
          ("generateType" ∈ members.map Prod.fst → settings.answerShape = .text) ∧
            ("schemaDefinition" ∈ members.map Prod.fst → settings.schema? = none)) := by
  have happly := Settings.apply_of_readFrom (Settings.readFrom_of_decode hs)
    (Patch.readFrom_of_decode hp)
  exact ⟨happly, happly ▸ Settings.asChange_eq_self_iff⟩

/-- An older name does no harm if there is null under it. -/
theorem change_means_settings_null :
    let members := [("maxTokens", Json.ofWord 5), ("schemaDefinition", .null),
      ("input", .string "x")]
    let settings : Settings := { Settings.standard with input? := some "x", maxTokens := 5 }
    let patch : Patch := { Patch.empty with input? := some "x", maxTokens? := some 5 }
    Settings.decode (Json.object members) = .ok settings ∧
      Patch.decode (Json.object members) = .ok patch ∧
      Settings.standard.apply patch = settings := by
  intro members settings patch
  have hs : Settings.decode (Json.object members) = .ok settings := rfl
  have hp : Patch.decode (Json.object members) = .ok patch := rfl
  exact ⟨hs, hp, (change_means_settings_iff hs hp).2.2 (by decide)⟩

/-- Settings with older names are also read as a change, but as one that changes nothing. -/
theorem change_passes_over_older_names :
    let document := Json.object [("generateType", .string "object"),
      ("schemaDefinition", .object [("outputType", .string "enum"),
        ("enumValues", .array [.string "a", .string "b"])])]
    let settings : Settings := { Settings.standard with
      answerShape := .object, schema? := some (.choice ["a", "b"]) }
    Settings.decode document = .ok settings ∧ Patch.decode document = .ok .empty ∧
      Settings.standard.apply .empty ≠ settings :=
  ⟨rfl, rfl, by decide⟩

end Block

end PromptChain
