import PromptChain.Proofs.Members
import PromptChain.Schema.Compiled

/-!
# Conformance

What a description asks of a value can be said without a JSON schema (`Description.Conforms`):
an object has the declared names for its keys, and under each one a value of the type that
the last declaration of the name gives; a list holds such objects; a choice is one of the
choices. The compiled schema finds nothing wrong with a value just if the value conforms
(`Compiled.isValid_check_iff`).

A schema *expresses* a property of values if a check with it finds nothing just in the values
that have the property, wherever they stand (`Expresses`). The schemas that descriptions are
compiled to are put together from schemas of parts, and so is what they express.
-/

namespace PromptChain.Schema

/-! ## What a description asks of a value -/

/-- A value has a type. An unknown type is that of texts. -/
inductive FieldType.Admits : FieldType → Json → Prop
  | text (s : String) : Admits .text (.string s)
  | number (n : Json.Number) : Admits .number (.number n)
  | boolean (b : Bool) : Admits .boolean (.bool b)
  | textList {items : List Json} :
      (∀ item ∈ items, ∃ s, item = .string s) → Admits .textList (.array items)
  | other (name s : String) : Admits (.other name) (.string s)

/-- The last field that is declared with a name. -/
def Field.last? (fields : List Field) (name : String) : Option Field :=
  fields.reverse.find? (·.name = name)

/-- The members of an object fit the declared fields. -/
structure Fits (fields : List Field) (members : List (String × Json)) : Prop where
  /-- The keys are the declared names. -/
  keys : ∀ name, name ∈ members.map Prod.fst ↔ name ∈ fields.map Field.name
  /-- What is under a name has the type of the last declaration of the name. -/
  values : ∀ name value field, Json.lookup name members = some value →
    Field.last? fields name = some field → field.type.Admits value

/-- A value conforms to a description. -/
inductive Description.Conforms (description : Description) : Json → Prop
  | single {members : List (String × Json)} :
      description.shape = .single → Fits description.fields members →
      Conforms description (.object members)
  | list {items : List Json} :
      description.shape = .list →
      (∀ item ∈ items, ∃ members, item = .object members ∧ Fits description.fields members) →
      Conforms description (.array items)
  | choice {s : String} :
      description.shape = .choice → s ∈ description.choices → Conforms description (.string s)

/-! ## What a schema expresses -/

/-- A schema finds nothing wrong with a value just if the value has a property. -/
def Expresses (schema : Json) (P : Json → Prop) : Prop :=
  ∀ value location, findings value schema location = [] ↔ P value

theorem Expresses.congr {schema : Json} {P Q : Json → Prop} (h : Expresses schema P)
    (hPQ : ∀ value, P value ↔ Q value) : Expresses schema Q :=
  fun value location => (h value location).trans (hPQ value)

theorem typeAdmits_iff {name : String} {value : Json}
    (hn : name ∈ ["null", "boolean", "number", "string", "array", "object"]) :
    typeAdmits name value = true ↔ typeName value = name := by
  have hne : name ≠ "integer" := by
    rintro rfl
    revert hn
    decide
  unfold typeAdmits
  rw [if_neg hne, if_pos (List.contains_iff_mem.2 hn), decide_eq_true_eq]

section Typed

variable {schema : Json} {name : String}

/-- A value of another type than the schema asks for is wrong, and that is all; in a value of
    the type, the inside matters, and whether the value is one of those allowed. -/
theorem findingsWith_eq_nil_iff (ht : typeOf? schema = some name) (inside : Check) (value : Json)
    (location : Location) :
    findingsWith inside value schema location = [] ↔
      typeAdmits name value = true ∧ inside schema location = [] ∧
        ∀ allowed, allowedBy? schema = some allowed → value.among allowed = true := by
  rw [findingsWith, enumFindings, ht]
  by_cases hadmits : typeAdmits name value = true
  · cases allowedBy? schema <;> simp [hadmits]
  · simp [hadmits]

/-- A schema that names one of the simple types expresses just that type. -/
theorem expresses_typeName (ht : typeOf? schema = some name) (he : allowedBy? schema = none)
    (hn : name ∈ ["boolean", "number", "string"]) : Expresses schema (typeName · = name) := by
  have hknown : name ∈ ["null", "boolean", "number", "string", "array", "object"] :=
    List.mem_cons_of_mem "null" (List.mem_append_left ["array", "object"] hn)
  intro value location
  cases value with
  | array | object =>
    -- What is inside does not matter, as the type is none of the simple ones.
    have hne : ∀ other ∈ ["boolean", "number", "string"], other ≠ "array" ∧ other ≠ "object" := by
      decide
    simp [findings, findingsWith_eq_nil_iff ht, he, typeAdmits_iff hknown, typeName, Ne.symm,
      hne name hn]
  | null | bool | number | string =>
    simp [findings, findingsWith_eq_nil_iff ht, he, typeAdmits_iff hknown]

end Typed

/-! ### Lists -/

theorem itemFindings_eq_nil_iff {part : Json} {P : Json → Prop} (h : Expresses part P)
    (items : List Json) (location : Location) (i : Nat) :
    itemFindings part location i (itemChecks items) = [] ↔ ∀ item ∈ items, P item := by
  induction items generalizing i with
  | nil => simp [itemChecks, itemFindings]
  | cons item rest ih =>
    rw [itemChecks, itemFindings, List.append_eq_nil_iff, h item, ih, List.forall_mem_cons]

/-- A schema of lists expresses that every item has what the schema of items expresses. -/
theorem expresses_items {schema part : Json} {P : Json → Prop}
    (ht : typeOf? schema = some "array") (he : allowedBy? schema = none)
    (hi : schema.get? "items" = some part) (h : Expresses part P) :
    Expresses schema fun value => ∃ items, value = .array items ∧ ∀ item ∈ items, P item := by
  intro value location
  cases value with
  | array items =>
    simp [findings, findingsWith_eq_nil_iff ht, he, hi, itemFindings_eq_nil_iff h, typeAdmits_iff,
      typeName]
  | null | bool | number | string | object =>
    simp [findings, findingsWith_eq_nil_iff ht, typeAdmits_iff, typeName]

/-! ### Choices -/

theorem same_string_iff {value : Json} {s : String} :
    value.same (.string s) = true ↔ value = .string s := by
  cases value <;> simp [Json.same]

/-- A value is among texts just if it is one of them. -/
theorem among_map_string_iff {value : Json} {texts : List String} :
    value.among (texts.map .string) = true ↔ ∃ s ∈ texts, value = .string s := by
  rw [Json.among, List.any_map, List.any_eq_true]
  simp only [Function.comp_apply, same_string_iff]

/-- A schema of choices expresses that a value is one of them. -/
theorem expresses_choices (choices : List String) :
    Expresses (.object (typeOnly "string" ++ [("enum", Json.ofStrings choices)])) fun value =>
      ∃ s ∈ choices, value = .string s := by
  have ht : typeOf? (.object (typeOnly "string" ++ [("enum", Json.ofStrings choices)])) =
    some "string" := rfl
  have he : allowedBy? (.object (typeOnly "string" ++ [("enum", Json.ofStrings choices)])) =
    some (choices.map .string) := rfl
  intro value location
  cases value with
  | string t =>
    simp [findings, findingsWith_eq_nil_iff ht, he, typeAdmits_iff, typeName,
      -List.mem_map, among_map_string_iff]
  | null | bool | number | array | object =>
    simp [findings, findingsWith_eq_nil_iff ht, typeAdmits_iff, typeName]

/-! ### Closed objects -/

theorem lookup_memberChecks (name : String) (members : List (String × Json)) :
    Json.lookup name (memberChecks members) = (Json.lookup name members).map findings := by
  induction members with
  | nil => rfl
  | cons member rest ih =>
    obtain ⟨k, v⟩ := member
    by_cases hk : k = name <;> simp [memberChecks, Json.lookup, hk, ih]

theorem keys_memberChecks (members : List (String × Json)) :
    (memberChecks members).map Prod.fst = members.map Prod.fst := by
  induction members with
  | nil => rfl
  | cons member rest ih => simp [memberChecks, ih]

/-- Nothing is wrong with the members of an object if none is missing, none that is declared
    is wrong, and, in a closed object, all are declared. -/
theorem memberFindings_eq_nil_iff {members : List (String × Check)} {schema : Json}
    {location : Location} :
    memberFindings members schema location = [] ↔
      (∀ name ∈ requiredBy schema, (Json.lookup name members).isSome) ∧
      (∀ name part, (name, part) ∈ propertiesOf schema → ∀ check,
        Json.lookup name members = some check → check part (location ++ [.key name]) = []) ∧
      (isClosed schema = true →
        ∀ name ∈ members.map Prod.fst, (Json.lookup name (propertiesOf schema)).isSome) := by
  rw [memberFindings, List.append_eq_nil_iff, List.append_eq_nil_iff, and_assoc]
  refine and_congr ?_ (and_congr ?_ ?_)
  · simp [List.filter_eq_nil_iff, Option.isSome_iff_ne_none]
  · rw [List.flatMap_eq_nil_iff, Prod.forall]
    refine forall_congr' fun name => forall_congr' fun part => imp_congr_right fun _ => ?_
    cases hl : Json.lookup name members <;> simp [hl]
  · cases isClosed schema <;> simp [List.filter_eq_nil_iff, Option.isSome_iff_ne_none]

/-- The schema of a closed object expresses that the keys are the names of its properties, and
    that each property has what the last schema of its name expresses. -/
theorem expresses_closedObject {properties : List (String × Json)} {P : String → Json → Prop}
    (h : ∀ name part, Json.lookup name properties.reverse = some part → Expresses part (P name)) :
    Expresses (closedObject properties) fun value => ∃ members, value = .object members ∧
      (∀ name, name ∈ members.map Prod.fst ↔ name ∈ properties.map Prod.fst) ∧
      ∀ name v, Json.lookup name members = some v → P name v := by
  have ht : typeOf? (closedObject properties) = some "object" := rfl
  have he : allowedBy? (closedObject properties) = none := rfl
  have hp : propertiesOf (closedObject properties) = Json.inserted properties := rfl
  have hc : isClosed (closedObject properties) = true := rfl
  have hr : requiredBy (closedObject properties) = (Json.inserted properties).map Prod.fst := by
    change (((Json.inserted properties).map Prod.fst).map Json.string).filterMap Json.string? = _
    simp [List.filterMap_map, Function.comp_def, Json.string?]
  intro value location
  cases value with
  | object members =>
    -- What is declared last under a name is the part that the value under it is checked with.
    have hparts : (∀ name part, (name, part) ∈ Json.inserted properties → ∀ check,
        (Json.lookup name members).map findings = some check →
          check part (location ++ [.key name]) = []) ↔
        ∀ name part, Json.lookup name properties.reverse = some part → ∀ v,
          Json.lookup name members = some v → P name v := by
      refine forall_congr' fun name => forall_congr' fun part => ?_
      rw [← Json.lookup_eq_some_iff (Json.nodup_keys_inserted _), Json.lookup_inserted]
      refine imp_congr_right fun hpart => ?_
      cases Json.lookup name members <;> simp [h name part hpart _ _]
    rw [findings, findingsWith_eq_nil_iff ht, memberFindings_eq_nil_iff, hp, hr, hc, he]
    simp only [lookup_memberChecks, keys_memberChecks, Option.isSome_map, Json.isSome_lookup_iff,
      Json.mem_keys_inserted, hparts, Json.object.injEq, exists_eq_left']
    constructor
    · rintro ⟨-, ⟨hrequired, hvalues, hdeclared⟩, -⟩
      refine ⟨fun name => ⟨hdeclared trivial name, hrequired name⟩, fun name v hv => ?_⟩
      have hmem : name ∈ properties.map Prod.fst :=
        hdeclared trivial name (Json.isSome_lookup_iff.1 (by rw [hv]; rfl))
      obtain ⟨part, hpart⟩ := Option.isSome_iff_exists.1
        (Json.isSome_lookup_iff.2 (by rwa [List.map_reverse, List.mem_reverse]))
      exact hvalues name part hpart v hv
    · rintro ⟨hkeys, hvalues⟩
      exact ⟨rfl, ⟨fun name => (hkeys name).2, fun name _ _ v => hvalues name v,
        fun _ name => (hkeys name).1⟩, fun _ h => by cases h⟩
  | null | bool | number | string | array =>
    simp [findings, findingsWith_eq_nil_iff ht, typeAdmits_iff, typeName]

/-! ## What compiled descriptions express -/

theorem typeName_eq_string_iff {value : Json} :
    typeName value = "string" ↔ ∃ s, value = .string s := by
  cases value <;> simp [typeName]

theorem FieldType.admits_iff {type : FieldType} {value : Json} :
    type.Admits value ↔
      match type with
      | .text | .other _ => typeName value = "string"
      | .number => typeName value = "number"
      | .boolean => typeName value = "boolean"
      | .textList => ∃ items, value = .array items ∧ ∀ item ∈ items, typeName item = "string" := by
  constructor
  · rintro (_ | _ | _ | h | _)
    · rfl
    · rfl
    · rfl
    · exact ⟨_, rfl, fun item hi => typeName_eq_string_iff.2 (h item hi)⟩
    · rfl
  · cases type with
    | text | other | number | boolean =>
      cases value <;> simp only [typeName, String.reduceEq, false_implies, true_implies]
      constructor
    | textList =>
      rintro ⟨items, rfl, h⟩
      exact .textList fun item hi => typeName_eq_string_iff.1 (h item hi)

/-- The schema of a field expresses the type of the field. -/
theorem Field.expresses_schema (field : Field) : Expresses field.schema field.type.Admits := by
  obtain ⟨name, type, description?⟩ := field
  have he : allowedBy? (Field.schema ⟨name, type, description?⟩) = none := by
    cases type <;> cases description? <;> rfl
  refine .congr ?_ fun value => FieldType.admits_iff.symm
  cases type with
  | text | other | number | boolean => exact expresses_typeName rfl he (by decide)
  | textList => exact expresses_items rfl he rfl (expresses_typeName rfl rfl (by decide))

/-- Under a name, the schema of the last field with the name was put in last. -/
theorem lookup_schema (fields : List Field) (name : String) :
    Json.lookup name (fields.map fun field => (field.name, field.schema)).reverse =
      (Field.last? fields name).map Field.schema := by
  rw [← List.map_reverse, Field.last?]
  induction fields.reverse with
  | nil => rfl
  | cons field rest ih => by_cases hname : field.name = name <;> simp [Json.lookup, hname, ih]

/-- The schema of objects with the declared fields expresses that the members fit. -/
theorem expresses_fits (fields : List Field) :
    Expresses (closedObject (fields.map fun field => (field.name, field.schema))) fun value =>
      ∃ members, value = .object members ∧ Fits fields members := by
  refine .congr (expresses_closedObject (P := fun name value => ∀ field,
    Field.last? fields name = some field → field.type.Admits value) fun name part hpart => ?_)
    fun value => exists_congr fun members => and_congr_right fun _ => ?_
  · rw [lookup_schema] at hpart
    obtain ⟨field, hfield, rfl⟩ := Option.map_eq_some_iff.1 hpart
    refine field.expresses_schema.congr fun value => ?_
    simp [hfield]
  · rw [List.map_map]
    exact ⟨fun h => ⟨h.1, fun name value field hv => h.2 name value hv field⟩,
      fun h => ⟨h.keys, fun name value hv field => h.values name value field hv⟩⟩

theorem Description.conforms_iff {description : Description} {value : Json} :
    description.Conforms value ↔
      match description.shape with
      | .single => ∃ members, value = .object members ∧ Fits description.fields members
      | .list => ∃ items, value = .array items ∧
          ∀ item ∈ items, ∃ members, item = .object members ∧ Fits description.fields members
      | .choice => ∃ s ∈ description.choices, value = .string s := by
  constructor
  · rintro (⟨hs, h⟩ | ⟨hs, h⟩ | ⟨hs, h⟩) <;> rw [hs]
    · exact ⟨_, rfl, h⟩
    · exact ⟨_, rfl, h⟩
    · exact ⟨_, h, rfl⟩
  · cases hs : description.shape with
    | single =>
      rintro ⟨members, rfl, h⟩
      exact .single hs h
    | list =>
      rintro ⟨items, rfl, h⟩
      exact .list hs h
    | choice =>
      rintro ⟨s, h, rfl⟩
      exact .choice hs h

/-- A compiled schema expresses that values conform to the description. -/
theorem expresses_conforms {description : Description} {compiled : Compiled}
    (h : compile? description = some compiled) :
    Expresses compiled.schema description.Conforms := by
  refine .congr ?_ fun value => Description.conforms_iff.symm
  obtain ⟨shape, fields, choices⟩ := description
  cases shape with
  | single =>
    obtain rfl := Option.some.inj h
    exact expresses_fits fields
  | list =>
    obtain rfl := Option.some.inj h
    exact expresses_items rfl rfl rfl (expresses_fits fields)
  | choice =>
    cases choices with
    | nil => cases h
    | cons first rest =>
      obtain rfl := Option.some.inj h
      exact expresses_choices (first :: rest)

/-- There is a compiled schema unless there is nothing to choose from. -/
theorem compile?_eq_none_iff {description : Description} :
    compile? description = none ↔ description.shape = .choice ∧ description.choices = [] := by
  obtain ⟨shape, fields, choices⟩ := description
  cases shape <;> cases choices <;> simp [compile?]

/-! ## Verdicts -/

theorem isValid_validate_iff {schema value : Json} :
    (validate schema value).isValid = true ↔ findings value schema [] = [] := by
  rw [validate]
  cases findings value schema [] <;> simp [Verdict.success, Verdict.failure, Verdict.isValid]

/-- A valid value is handed back. -/
theorem validate_of_isValid {schema value : Json} (h : (validate schema value).isValid = true) :
    validate schema value = .success value := by
  rw [validate, isValid_validate_iff.1 h]

/-- The check of a compiled description finds nothing wrong with a value just if the value
    conforms to the description. -/
theorem Compiled.isValid_check_iff {description : Description} {compiled : Compiled}
    (h : compile? description = some compiled) (value : Json) :
    (compiled.check value).isValid = true ↔ description.Conforms value :=
  isValid_validate_iff.trans (expresses_conforms h value [])

/-- A description is compiled unless it has nothing to choose from, and the check of the
    compiled schema lets just the conforming values pass, as they are. -/
theorem conforming_values_pass (description : Description) :
    (compile? description = none ↔ description.shape = .choice ∧ description.choices = []) ∧
    ∀ compiled, compile? description = some compiled → ∀ value,
      ((compiled.check value).isValid = true ↔ description.Conforms value) ∧
      ((compiled.check value).isValid = true → (compiled.check value).data? = some value) := by
  refine ⟨compile?_eq_none_iff, fun compiled h value => ⟨compiled.isValid_check_iff h value, ?_⟩⟩
  intro hvalid
  rw [Compiled.check, validate_of_isValid hvalid]
  rfl

/-- Of two declarations of one name, which is also a keyword of schemas, the last one counts. -/
theorem conforming_values_pass_repeated :
    ∃ compiled, compile? (.object [⟨"type", .number, some "n"⟩, ⟨"items", .textList, none⟩,
        ⟨"type", .boolean, none⟩]) = some compiled ∧
      (compiled.check (.object [("items", .array []), ("type", .bool true)])).isValid = true ∧
      ¬(compiled.check (.object [("items", .array []), ("type", .ofWord 1)])).isValid = true := by
  have hpass := fun value => ((conforming_values_pass (.object [⟨"type", .number, some "n"⟩,
    ⟨"items", .textList, none⟩, ⟨"type", .boolean, none⟩])).2 _ rfl value).1
  refine ⟨_, rfl, (hpass _).2 (.single rfl ⟨fun name => ?_, fun name value field hv hf => ?_⟩), ?_⟩
  · simp [Description.object]
    tauto
  · have hname : name = "items" ∨ name = "type" := by
      simpa using Json.isSome_lookup_iff.1 (Option.isSome_of_mem hv)
    rcases hname with rfl | rfl
    · cases hv
      cases hf
      exact .textList fun _ h => absurd h List.not_mem_nil
    · cases hv
      cases hf
      exact .boolean true
  · intro hvalid
    cases (hpass _).1 hvalid with
    | single _ hfits => cases hfits.values "type" _ _ rfl rfl

end PromptChain.Schema
