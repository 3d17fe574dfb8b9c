import Mathlib.Data.List.Nodup
import PromptChain.Proofs.Conformance
import PromptChain.Proofs.Proper

/-!
# What a check finds

A schema is any JSON value. A location leads from a value and its schema to a part of each: a
key leads to the member under it, which is described by the property of that name, and an index
leads to the item there, which is described by the schema of items (`follow?`). At a part a
value breaks its schema if its type, the list of allowed values, the required properties or the
declared ones say otherwise (`BreaksHere`). A breach is *hidden* if it is at or below a part
whose type is wrong, and is not this (`Hidden`).

* `mem_findings_iff`: what a check finds is the breaches that are not hidden;
* `pairwise_findings`: it finds nothing twice, unless a schema requires a property twice.

Values and schemas are proper here: they repeat no key (`Json.Proper`).
-/

namespace PromptChain

namespace Schema

/-! ## Locations -/

/-- Take a step from a value and its schema. -/
def step? (step : Step) (value schema : Json) : Option (Json × Json) :=
  match step, value with
  | .key name, .object members => do
    let part ← Json.lookup name (propertiesOf schema)
    let value ← Json.lookup name members
    return (value, part)
  | .index i, .array items => do
    let part ← schema.get? "items"
    let item ← items[i]?
    return (item, part)
  | _, _ => none

/-- The part of a value at a location, and the schema that describes it. -/
def follow? : Location → Json → Json → Option (Json × Json)
  | [], value, schema => some (value, schema)
  | step :: rest, value, schema => do
    let (value, schema) ← step? step value schema
    follow? rest value schema

theorem step?_key_iff {name : String} {members : List (String × Json)}
    {schema part partSchema : Json} :
    step? (.key name) (.object members) schema = some (part, partSchema) ↔
      Json.lookup name (propertiesOf schema) = some partSchema ∧
        Json.lookup name members = some part := by
  simp only [step?, Option.bind_eq_bind, Option.bind_eq_some_iff, Option.pure_def,
    Option.some.injEq, Prod.mk.injEq]
  constructor
  · rintro ⟨_, hpart, _, hv, rfl, rfl⟩
    exact ⟨hpart, hv⟩
  · rintro ⟨hpart, hv⟩
    exact ⟨partSchema, hpart, part, hv, rfl, rfl⟩

theorem step?_index_iff {i : Nat} {items : List Json} {schema part partSchema : Json} :
    step? (.index i) (.array items) schema = some (part, partSchema) ↔
      schema.get? "items" = some partSchema ∧ items[i]? = some part := by
  simp only [step?, Option.bind_eq_bind, Option.bind_eq_some_iff, Option.pure_def,
    Option.some.injEq, Prod.mk.injEq]
  constructor
  · rintro ⟨_, hpart, _, hv, rfl, rfl⟩
    exact ⟨hpart, hv⟩
  · rintro ⟨hpart, hv⟩
    exact ⟨partSchema, hpart, part, hv, rfl, rfl⟩

/-- A step goes to a member of an object or to an item of a list. -/
theorem step?_cases {step : Step} {value schema part partSchema : Json}
    (h : step? step value schema = some (part, partSchema)) :
    (∃ name members, step = .key name ∧ value = .object members ∧
      Json.lookup name (propertiesOf schema) = some partSchema ∧
      Json.lookup name members = some part) ∨
    ∃ i items, step = .index i ∧ value = .array items ∧ schema.get? "items" = some partSchema ∧
      items[i]? = some part := by
  cases step with
  | key name =>
    cases value with
    | object members => exact .inl ⟨name, members, rfl, rfl, step?_key_iff.1 h⟩
    | _ => cases h
  | index i =>
    cases value with
    | array items => exact .inr ⟨i, items, rfl, rfl, step?_index_iff.1 h⟩
    | _ => cases h

theorem sizeOf_of_step? {step : Step} {value schema part partSchema : Json}
    (h : step? step value schema = some (part, partSchema)) : sizeOf part < sizeOf value := by
  rcases step?_cases h with ⟨name, members, -, rfl, -, hv⟩ | ⟨i, items, -, rfl, -, hv⟩
  · have := List.sizeOf_lt_of_mem (Json.mem_of_lookup hv)
    simp only [Prod.mk.sizeOf_spec, Json.object.sizeOf_spec] at this ⊢
    omega
  · have := List.sizeOf_lt_of_mem (List.mem_of_getElem? hv)
    simp only [Json.array.sizeOf_spec]
    omega

theorem follow?_cons {step : Step} {rest : Location} {value schema part partSchema : Json} :
    follow? (step :: rest) value schema = some (part, partSchema) ↔
      ∃ inside insideSchema, step? step value schema = some (inside, insideSchema) ∧
        follow? rest inside insideSchema = some (part, partSchema) := by
  simp only [follow?, Option.bind_eq_bind, Option.bind_eq_some_iff, Prod.exists]

/-- A proper schema declares no property twice, and describes each by a proper schema. -/
theorem proper_propertiesOf {schema : Json} (hs : schema.Proper) :
    ((propertiesOf schema).map Prod.fst).Nodup ∧
      ∀ member ∈ propertiesOf schema, member.2.Proper := by
  cases hp : schema.get? "properties" with
  | none => simp [propertiesOf, hp]
  | some properties =>
    cases hs.get? hp with
    | object hkeys hmembers =>
      simp only [propertiesOf, hp, Option.bind_some, Json.members?, Option.getD_some]
      exact ⟨hkeys, hmembers⟩
    | _ => simp [propertiesOf, hp, Json.members?]

theorem proper_of_step? {step : Step} {value schema part partSchema : Json}
    (h : step? step value schema = some (part, partSchema)) :
    (value.Proper → part.Proper) ∧ (schema.Proper → partSchema.Proper) := by
  rcases step?_cases h with ⟨name, members, -, rfl, hp, hv⟩ | ⟨i, items, -, rfl, hp, hv⟩
  · refine ⟨fun hvalue => ?_, fun hs => (proper_propertiesOf hs).2 _ (Json.mem_of_lookup hp)⟩
    cases hvalue with
    | object _ hmembers => exact hmembers _ (Json.mem_of_lookup hv)
  · refine ⟨fun hvalue => ?_, fun hs => hs.get? hp⟩
    cases hvalue with
    | array hitems => exact hitems _ (List.mem_of_getElem? hv)

/-! ## Breaches -/

/-- The type with a name admits a value. A name that is not known admits every value. -/
inductive HasType : String → Json → Prop
  | null : HasType "null" .null
  | boolean (b : Bool) : HasType "boolean" (.bool b)
  | number (n : Json.Number) : HasType "number" (.number n)
  | integer (n : Json.WideInt) : HasType "integer" (.number (.int n))
  | string (s : String) : HasType "string" (.string s)
  | array (items : List Json) : HasType "array" (.array items)
  | object (members : List (String × Json)) : HasType "object" (.object members)
  | unknown {name : String} (value : Json) :
      name ∉ ["null", "boolean", "number", "integer", "string", "array", "object"] →
      HasType name value

/-- A value breaks its schema itself, and not only in a part. A property that is missing or that
    is not declared is located at its key. -/
inductive BreaksHere (value schema : Json) : Location → Breach → Prop
  | wrongType {name : String} : typeOf? schema = some name → ¬HasType name value →
      BreaksHere value schema [] (.wrongType name value)
  | notAllowed {allowed : List Json} : allowedBy? schema = some allowed →
      ¬value.among allowed = true → BreaksHere value schema [] (.notAllowed allowed)
  | missing {members : List (String × Json)} {name : String} : value = .object members →
      name ∈ requiredBy schema → name ∉ members.map Prod.fst →
      BreaksHere value schema [.key name] (.missing name)
  | undeclared {members : List (String × Json)} {name : String} : value = .object members →
      isClosed schema = true → name ∈ members.map Prod.fst →
      name ∉ (propertiesOf schema).map Prod.fst →
      BreaksHere value schema [.key name] (.undeclared name)

/-- Some part of a value breaks its schema. -/
def Breaks (value schema : Json) (finding : Finding) : Prop :=
  ∃ location part partSchema last, follow? location value schema = some (part, partSchema) ∧
    BreaksHere part partSchema last finding.breach ∧ finding.location = location ++ last

/-- A finding is that a part of the value is not of the type that its schema asks for. -/
def IsMistyped (value schema : Json) (finding : Finding) : Prop :=
  ∃ part partSchema name, follow? finding.location value schema = some (part, partSchema) ∧
    typeOf? partSchema = some name ∧ ¬HasType name part ∧ finding.breach = .wrongType name part

/-- A finding is at or below a part of a wrong type, and is not this. -/
def Hidden (value schema : Json) (finding : Finding) : Prop :=
  ∃ cause, IsMistyped value schema cause ∧ cause.location <+: finding.location ∧ finding ≠ cause

theorem BreaksHere.exists_members {value schema : Json} {name : String} {breach : Breach}
    (h : BreaksHere value schema [.key name] breach) : ∃ members, value = .object members ∧
      (breach = .missing name ∧ name ∈ requiredBy schema ∧ name ∉ members.map Prod.fst ∨
        breach = .undeclared name ∧ isClosed schema = true ∧ name ∈ members.map Prod.fst ∧
          name ∉ (propertiesOf schema).map Prod.fst) := by
  cases h with
  | missing hvalue hrequired hkey => exact ⟨_, hvalue, .inl ⟨rfl, hrequired, hkey⟩⟩
  | undeclared hvalue hclosed hkey hdeclared =>
    exact ⟨_, hvalue, .inr ⟨rfl, hclosed, hkey, hdeclared⟩⟩

theorem typeAdmits_iff_hasType {name : String} {value : Json} :
    typeAdmits name value = true ↔ HasType name value := by
  by_cases hinteger : name = "integer"
  · constructor
    · intro h
      rw [hinteger] at h ⊢
      match value, h with
      | .number (.int n), _ => exact .integer n
    · intro h
      cases h with
      | integer n => rfl
      | unknown _ hunknown => exact absurd (by simp [hinteger]) hunknown
      | _ => exact absurd hinteger (by decide)
  · by_cases hknown : name ∈ ["null", "boolean", "number", "string", "array", "object"]
    · rw [typeAdmits_iff hknown]
      constructor
      · rintro rfl
        cases value <;> constructor
      · intro h
        cases h with
        | integer n => exact absurd rfl hinteger
        | unknown _ hunknown =>
          refine absurd ?_ hunknown
          simp only [List.mem_cons, List.not_mem_nil, or_false] at hknown ⊢
          tauto
        | _ => rfl
    · have hunknown : name ∉
          ["null", "boolean", "number", "integer", "string", "array", "object"] := by
        simp only [List.mem_cons, List.not_mem_nil, or_false] at hknown ⊢
        tauto
      refine iff_of_true ?_ (.unknown value hunknown)
      unfold typeAdmits
      rw [if_neg hinteger, if_neg (by simpa using hknown)]

/-! ### One step down -/

/-- A value breaks its schema itself or in a part. -/
theorem breaks_iff {value schema : Json} {location : Location} {breach : Breach} :
    Breaks value schema ⟨location, breach⟩ ↔ BreaksHere value schema location breach ∨
      ∃ step rest part partSchema, location = step :: rest ∧
        step? step value schema = some (part, partSchema) ∧
        Breaks part partSchema ⟨rest, breach⟩ := by
  constructor
  · rintro ⟨_ | ⟨step, rest⟩, part, partSchema, last, hfollow, hbreaks, rfl⟩
    · obtain ⟨rfl, rfl⟩ := Prod.mk.inj (Option.some.inj hfollow)
      exact .inl hbreaks
    · obtain ⟨inside, insideSchema, hstep, hrest⟩ := follow?_cons.1 hfollow
      exact .inr ⟨step, _, inside, insideSchema, rfl, hstep, rest, part, partSchema, last, hrest,
        hbreaks, rfl⟩
  · rintro (h | ⟨step, _, inside, insideSchema, rfl, hstep, rest, part, partSchema, last, hrest,
      hbreaks, rfl⟩)
    · exact ⟨[], value, schema, location, rfl, h, rfl⟩
    · exact ⟨step :: rest, part, partSchema, last,
        follow?_cons.2 ⟨inside, insideSchema, hstep, hrest⟩, hbreaks, rfl⟩

/-- A value has the type that its schema asks for. -/
def FitsType (value schema : Json) : Prop :=
  ∀ name, typeOf? schema = some name → HasType name value

/-- Where a value has the right type, what is hidden is hidden in a part of it. -/
theorem hidden_cons_iff {step : Step} {value schema part partSchema : Json}
    (hfits : FitsType value schema) (hstep : step? step value schema = some (part, partSchema))
    (rest : Location) (breach : Breach) :
    Hidden value schema ⟨step :: rest, breach⟩ ↔ Hidden part partSchema ⟨rest, breach⟩ := by
  constructor
  · rintro ⟨⟨_ | ⟨step', before⟩, cause⟩, ⟨inside, insideSchema, name, hfollow, ht, hnot, hcause⟩,
      habove, hne⟩
    · obtain ⟨rfl, rfl⟩ := Prod.mk.inj (Option.some.inj hfollow)
      exact absurd (hfits name ht) hnot
    · obtain ⟨rfl, hbefore⟩ := List.cons_prefix_cons.1 habove
      obtain ⟨part', partSchema', hstep', hrest⟩ := follow?_cons.1 hfollow
      rw [hstep] at hstep'
      obtain ⟨rfl, rfl⟩ := Prod.mk.inj (Option.some.inj hstep')
      refine ⟨⟨before, cause⟩, ⟨inside, insideSchema, name, hrest, ht, hnot, hcause⟩, hbefore, ?_⟩
      rintro ⟨rfl, rfl⟩
      exact hne rfl
  · rintro ⟨⟨before, cause⟩, ⟨inside, insideSchema, name, hfollow, ht, hnot, hcause⟩, habove, hne⟩
    refine ⟨⟨step :: before, cause⟩, ⟨inside, insideSchema, name,
      follow?_cons.2 ⟨_, _, hstep, hfollow⟩, ht, hnot, hcause⟩, ?_, ?_⟩
    · exact List.cons_prefix_cons.2 ⟨rfl, habove⟩
    · rintro ⟨⟩
      exact hne rfl

/-- What a value of the right type breaks itself is not hidden. -/
theorem not_hidden_of_breaksHere {value schema : Json} {location : Location} {breach : Breach}
    (hfits : FitsType value schema) (h : BreaksHere value schema location breach) :
    ¬Hidden value schema ⟨location, breach⟩ := by
  rintro ⟨⟨before, cause⟩, ⟨inside, insideSchema, name, hfollow, ht, hnot, -⟩, habove, -⟩
  cases before with
  | nil =>
    obtain ⟨rfl, rfl⟩ := Prod.mk.inj (Option.some.inj hfollow)
    exact hnot (hfits name ht)
  | cons step before =>
    obtain ⟨part, partSchema, hstep, -⟩ := follow?_cons.1 hfollow
    cases h with
    | wrongType | notAllowed => cases List.prefix_nil.1 habove
    | missing hvalue _ hkey | undeclared hvalue _ _ hkey =>
      -- No step leads to a key that is missing, or that is not declared.
      subst hvalue
      obtain ⟨rfl, -⟩ := List.cons_prefix_cons.1 habove
      simp [step?, Json.lookup_eq_none_iff.2 hkey] at hstep

/-- Where the type of a value is wrong, this is the only breach that is not hidden. -/
theorem breaks_and_not_hidden_of_wrongType {value schema : Json} {name : String}
    {location : Location} {breach : Breach} (ht : typeOf? schema = some name)
    (hnot : ¬HasType name value) :
    Breaks value schema ⟨location, breach⟩ ∧ ¬Hidden value schema ⟨location, breach⟩ ↔
      location = [] ∧ breach = .wrongType name value := by
  constructor
  · rintro ⟨-, hvisible⟩
    have heq : (⟨location, breach⟩ : Finding) = ⟨[], .wrongType name value⟩ := by
      by_contra hne
      exact hvisible ⟨_, ⟨value, schema, name, rfl, ht, hnot, rfl⟩, List.nil_prefix, hne⟩
    exact Finding.mk.inj heq
  · rintro ⟨rfl, rfl⟩
    refine ⟨breaks_iff.2 (.inl (.wrongType ht hnot)), ?_⟩
    rintro ⟨⟨before, cause⟩, ⟨part, partSchema, other, hfollow, ht', -, hcause⟩, habove, hne⟩
    obtain rfl := List.prefix_nil.1 habove
    obtain ⟨rfl, rfl⟩ := Prod.mk.inj (Option.some.inj hfollow)
    obtain rfl := Option.some.inj (ht.symm.trans ht')
    exact hne (by rw [← show cause = _ from hcause])

/-- A breach that is not hidden is a wrong type, or else the value breaks its schema itself or in
    a part. -/
theorem breaks_and_not_hidden_iff {value schema : Json} {location : Location} {breach : Breach} :
    Breaks value schema ⟨location, breach⟩ ∧ ¬Hidden value schema ⟨location, breach⟩ ↔
      (∃ name, typeOf? schema = some name ∧ ¬HasType name value ∧ location = [] ∧
        breach = .wrongType name value) ∨
      FitsType value schema ∧ (BreaksHere value schema location breach ∨
        ∃ step rest part partSchema, location = step :: rest ∧
          step? step value schema = some (part, partSchema) ∧
          Breaks part partSchema ⟨rest, breach⟩ ∧ ¬Hidden part partSchema ⟨rest, breach⟩) := by
  by_cases hfits : FitsType value schema
  · have hnone : ¬∃ name, typeOf? schema = some name ∧ ¬HasType name value ∧ location = [] ∧
        breach = .wrongType name value := by
      rintro ⟨name, ht, hnot, -⟩
      exact hnot (hfits name ht)
    rw [or_iff_right hnone, and_iff_right hfits, breaks_iff, or_and_right]
    refine or_congr (and_iff_left_of_imp (not_hidden_of_breaksHere hfits)) ?_
    constructor
    · rintro ⟨⟨step, rest, part, partSchema, rfl, hstep, hbreaks⟩, hvisible⟩
      rw [hidden_cons_iff hfits hstep] at hvisible
      exact ⟨step, rest, part, partSchema, rfl, hstep, hbreaks, hvisible⟩
    · rintro ⟨step, rest, part, partSchema, rfl, hstep, hbreaks, hvisible⟩
      rw [hidden_cons_iff hfits hstep]
      exact ⟨⟨step, rest, part, partSchema, rfl, hstep, hbreaks⟩, hvisible⟩
  · rw [or_iff_left fun h => hfits h.1]
    rw [FitsType] at hfits
    push Not at hfits
    obtain ⟨name, ht, hnot⟩ := hfits
    rw [breaks_and_not_hidden_of_wrongType ht hnot]
    constructor
    · exact fun hwrong => ⟨name, ht, hnot, hwrong⟩
    · rintro ⟨other, ht', -, hwrong⟩
      obtain rfl := Option.some.inj (ht.symm.trans ht')
      exact hwrong

/-! ## What is found -/

/-- What is found inside a value of the right type. -/
def inside : Json → Check
  | .array items, schema, location =>
    match schema.get? "items" with
    | some part => itemFindings part location 0 (itemChecks items)
    | none => []
  | .object members, schema, location => memberFindings (memberChecks members) schema location
  | _, _, _ => []

theorem findings_eq (value : Json) : findings value = findingsWith (inside value) value := by
  cases value <;> rfl

variable {finding : Finding} {location : Location}

theorem mem_enumFindings {value schema : Json} :
    finding ∈ enumFindings value schema location ↔
      ∃ allowed, allowedBy? schema = some allowed ∧ ¬value.among allowed = true ∧
        finding = ⟨location, .notAllowed allowed⟩ := by
  rw [enumFindings]
  cases allowedBy? schema with
  | none => simp
  | some allowed => by_cases hamong : value.among allowed = true <;> simp [hamong]

theorem itemFindings_eq (part : Json) (location : Location) (first : Nat) (items : List Json) :
    itemFindings part location first (itemChecks items) =
      (items.zipIdx first).flatMap fun (item, i) =>
        findings item part (location ++ [.index i]) := by
  induction items generalizing first with
  | nil => rfl
  | cons item rest ih => rw [itemChecks, itemFindings, ih, List.zipIdx_cons, List.flatMap_cons]

theorem mem_itemFindings {part : Json} {items : List Json} :
    finding ∈ itemFindings part location 0 (itemChecks items) ↔
      ∃ i item, items[i]? = some item ∧
        finding ∈ findings item part (location ++ [.index i]) := by
  simp only [itemFindings_eq, List.mem_flatMap, Prod.exists, List.mem_zipIdx_iff_getElem?]
  exact exists_comm

/-- The properties that a schema requires and an object lacks. -/
def lacking (members : List (String × Json)) (schema : Json) : List String :=
  (requiredBy schema).filter fun name => (Json.lookup name members).isNone

/-- The properties that an object has and a closed schema does not declare. -/
def surplus (members : List (String × Json)) (schema : Json) : List String :=
  if isClosed schema then
    (members.map Prod.fst).filter fun name => (Json.lookup name (propertiesOf schema)).isNone
  else []

/-- What is found in the member that a declared property describes. -/
def propertyFindings (members : List (String × Json)) (location : Location) :
    String × Json → List Finding
  | (name, part) =>
    match Json.lookup name members with
    | some value => findings value part (location ++ [.key name])
    | none => []

theorem memberFindings_eq (members : List (String × Json)) (schema : Json) (location : Location) :
    memberFindings (memberChecks members) schema location =
      (lacking members schema).map (fun name => ⟨location ++ [.key name], .missing name⟩) ++
        (propertiesOf schema).flatMap (propertyFindings members location) ++
        (surplus members schema).map fun name => ⟨location ++ [.key name], .undeclared name⟩ := by
  simp only [memberFindings, lookup_memberChecks, keys_memberChecks, Option.isNone_map]
  refine congrArg₂ _ (congrArg₂ _ rfl ?_) ?_
  · refine List.flatMap_congr fun member _ => ?_
    rw [propertyFindings]
    cases Json.lookup member.1 members <;> rfl
  · rw [surplus]
    cases isClosed schema <;> rfl

theorem mem_lacking {members : List (String × Json)} {schema : Json} {name : String} :
    name ∈ lacking members schema ↔ name ∈ requiredBy schema ∧ name ∉ members.map Prod.fst := by
  rw [lacking, List.mem_filter, Option.isNone_iff_eq_none, Json.lookup_eq_none_iff]

theorem mem_surplus {members : List (String × Json)} {schema : Json} {name : String} :
    name ∈ surplus members schema ↔ isClosed schema = true ∧ name ∈ members.map Prod.fst ∧
      name ∉ (propertiesOf schema).map Prod.fst := by
  rw [surplus]
  cases isClosed schema with
  | false => simp
  | true => simp only [if_true, List.mem_filter, Option.isNone_iff_eq_none,
      Json.lookup_eq_none_iff, true_and]

theorem mem_propertyFindings {members : List (String × Json)} {property : String × Json} :
    finding ∈ propertyFindings members location property ↔
      ∃ value, Json.lookup property.1 members = some value ∧
        finding ∈ findings value property.2 (location ++ [.key property.1]) := by
  obtain ⟨name, part⟩ := property
  rw [propertyFindings]
  cases Json.lookup name members <;> simp

/-- What is found inside an object is about one of its keys, or is found in a member. -/
theorem mem_inside_object {members : List (String × Json)} {schema : Json} (hs : schema.Proper) :
    finding ∈ inside (.object members) schema location ↔
      (∃ name, BreaksHere (.object members) schema [.key name] finding.breach ∧
        finding.location = location ++ [.key name]) ∨
      ∃ step part partSchema, step? step (.object members) schema = some (part, partSchema) ∧
        finding ∈ findings part partSchema (location ++ [step]) := by
  rw [inside, memberFindings_eq, List.mem_append, List.mem_append, List.mem_map, List.mem_map,
    List.mem_flatMap]
  constructor
  · rintro ((⟨name, hname, rfl⟩ | ⟨⟨name, part⟩, hpart, hmem⟩) | ⟨name, hname, rfl⟩)
    · obtain ⟨hrequired, hkey⟩ := mem_lacking.1 hname
      exact .inl ⟨name, .missing rfl hrequired hkey, rfl⟩
    · obtain ⟨v, hv, hmem⟩ := mem_propertyFindings.1 hmem
      rw [← Json.lookup_eq_some_iff (proper_propertiesOf hs).1] at hpart
      exact .inr ⟨.key name, v, part, step?_key_iff.2 ⟨hpart, hv⟩, hmem⟩
    · obtain ⟨hclosed, hkey, hdeclared⟩ := mem_surplus.1 hname
      exact .inl ⟨name, .undeclared rfl hclosed hkey hdeclared, rfl⟩
  · rintro (⟨name, hbreaks, hlocation⟩ | ⟨step, v, part, hstep, hmem⟩)
    · obtain ⟨place, breach⟩ := finding
      obtain rfl : place = location ++ [.key name] := hlocation
      obtain ⟨_, ⟨⟩, ⟨rfl, hrequired, hkey⟩ | ⟨rfl, hclosed, hkey, hdeclared⟩⟩ :=
        hbreaks.exists_members
      · exact .inl (.inl ⟨name, mem_lacking.2 ⟨hrequired, hkey⟩, rfl⟩)
      · exact .inr ⟨name, mem_surplus.2 ⟨hclosed, hkey, hdeclared⟩, rfl⟩
    · rcases step?_cases hstep with ⟨name, _, rfl, ⟨⟩, hpart, hv⟩ | ⟨_, _, _, ⟨⟩, _⟩
      exact .inl (.inr ⟨_, Json.mem_of_lookup hpart, mem_propertyFindings.2 ⟨v, hv, hmem⟩⟩)

/-- What is found inside a list is found in an item. -/
theorem mem_inside_array {items : List Json} {schema : Json} :
    finding ∈ inside (.array items) schema location ↔
      ∃ step part partSchema, step? step (.array items) schema = some (part, partSchema) ∧
        finding ∈ findings part partSchema (location ++ [step]) := by
  rw [inside]
  constructor
  · intro h
    cases hitems : schema.get? "items" with
    | none => simp [hitems] at h
    | some part =>
      rw [hitems] at h
      obtain ⟨i, item, hi, hmem⟩ := mem_itemFindings.1 h
      exact ⟨.index i, item, part, step?_index_iff.2 ⟨hitems, hi⟩, hmem⟩
  · rintro ⟨step, item, part, hstep, hmem⟩
    rcases step?_cases hstep with ⟨_, _, _, ⟨⟩, _⟩ | ⟨i, _, rfl, ⟨⟩, hitems, hi⟩
    rw [hitems]
    exact mem_itemFindings.2 ⟨i, item, hi, hmem⟩

/-- What is found inside a value is about one of its keys, or is found in a part of it. -/
theorem mem_inside {value schema : Json} (hs : schema.Proper) :
    finding ∈ inside value schema location ↔
      (∃ name, BreaksHere value schema [.key name] finding.breach ∧
        finding.location = location ++ [.key name]) ∨
      ∃ step part partSchema, step? step value schema = some (part, partSchema) ∧
        finding ∈ findings part partSchema (location ++ [step]) := by
  cases value with
  | object members => exact mem_inside_object hs
  | array items =>
    rw [mem_inside_array, or_iff_right]
    rintro ⟨name, hbreaks, -⟩
    obtain ⟨_, ⟨⟩, -⟩ := hbreaks.exists_members
  | null | bool | number | string =>
    refine iff_of_false List.not_mem_nil ?_
    rintro (⟨name, hbreaks, -⟩ | ⟨step, v, part, hstep, -⟩)
    · obtain ⟨_, ⟨⟩, -⟩ := hbreaks.exists_members
    · rcases step?_cases hstep with ⟨_, _, _, ⟨⟩, _⟩ | ⟨_, _, _, ⟨⟩, _⟩

theorem mem_findings {value schema : Json} :
    finding ∈ findings value schema location ↔
      (∃ name, typeOf? schema = some name ∧ ¬HasType name value ∧
        finding = ⟨location, .wrongType name value⟩) ∨
      FitsType value schema ∧
        (finding ∈ inside value schema location ∨
          finding ∈ enumFindings value schema location) := by
  rw [findings_eq, findingsWith, FitsType]
  cases typeOf? schema with
  | none => simp
  | some name =>
    by_cases hadmits : typeAdmits name value = true
    · simp [hadmits, typeAdmits_iff_hasType.1 hadmits]
    · simp [hadmits, mt typeAdmits_iff_hasType.2 hadmits]

/-- What a check finds is the breaches that are not hidden. -/
theorem mem_findings_iff {finding : Finding} {location : Location} {value schema : Json}
    (hs : schema.Proper) :
    finding ∈ findings value schema location ↔ ∃ rest, finding.location = location ++ rest ∧
      Breaks value schema ⟨rest, finding.breach⟩ ∧ ¬Hidden value schema ⟨rest, finding.breach⟩ := by
  rw [mem_findings, mem_inside hs, mem_enumFindings]
  constructor
  · rintro (⟨name, ht, hnot, rfl⟩ |
      ⟨hfits, (⟨name, hbreaks, hlocation⟩ | ⟨step, part, partSchema, hstep, hmem⟩) |
        ⟨allowed, hallowed, hnot, rfl⟩⟩)
    · exact ⟨[], (List.append_nil _).symm,
        breaks_and_not_hidden_iff.2 (.inl ⟨name, ht, hnot, rfl, rfl⟩)⟩
    · exact ⟨[.key name], hlocation, breaks_and_not_hidden_iff.2 (.inr ⟨hfits, .inl hbreaks⟩)⟩
    · -- What is found in a part is a breach of the part, which is smaller than the value.
      have := sizeOf_of_step? hstep
      obtain ⟨rest, hlocation, hbreaks⟩ := (mem_findings_iff ((proper_of_step? hstep).2 hs)).1 hmem
      exact ⟨step :: rest, by rw [hlocation, List.append_assoc, List.singleton_append],
        breaks_and_not_hidden_iff.2
          (.inr ⟨hfits, .inr ⟨step, rest, part, partSchema, rfl, hstep, hbreaks⟩⟩)⟩
    · exact ⟨[], (List.append_nil _).symm,
        breaks_and_not_hidden_iff.2 (.inr ⟨hfits, .inl (.notAllowed hallowed hnot)⟩)⟩
  · obtain ⟨place, breach⟩ := finding
    rintro ⟨rest, rfl, hbreaks⟩
    rcases breaks_and_not_hidden_iff.1 hbreaks with ⟨name, ht, hnot, rfl, rfl⟩ |
      ⟨hfits, hhere | ⟨step, rest, part, partSchema, rfl, hstep, hpart⟩⟩
    · exact .inl ⟨name, ht, hnot, by rw [List.append_nil]⟩
    · cases hhere with
      | wrongType ht hnot => exact absurd (hfits _ ht) hnot
      | notAllowed hallowed hnot =>
        exact .inr ⟨hfits, .inr ⟨_, hallowed, hnot, by rw [List.append_nil]⟩⟩
      | missing hvalue hrequired hkey =>
        exact .inr ⟨hfits, .inl (.inl ⟨_, .missing hvalue hrequired hkey, rfl⟩)⟩
      | undeclared hvalue hclosed hkey hdeclared =>
        exact .inr ⟨hfits, .inl (.inl ⟨_, .undeclared hvalue hclosed hkey hdeclared, rfl⟩)⟩
    · have := sizeOf_of_step? hstep
      refine .inr ⟨hfits, .inl (.inr ⟨step, part, partSchema, hstep, ?_⟩)⟩
      rw [mem_findings_iff ((proper_of_step? hstep).2 hs)]
      exact ⟨rest, by rw [List.append_assoc, List.singleton_append], hpart⟩
termination_by sizeOf value

/-! ## What is found twice -/

/-- A finding is that a property is missing that a schema requires twice. -/
def IsRepeated (value schema : Json) (finding : Finding) : Prop :=
  ∃ location part partSchema name, follow? location value schema = some (part, partSchema) ∧
    ¬(requiredBy partSchema).Nodup ∧ finding = ⟨location ++ [.key name], .missing name⟩

/-- Of two findings at or below a location, the second is not the first one again, unless a
    property that is missing is required twice. -/
def Differ (value schema : Json) (location : Location) (finding other : Finding) : Prop :=
  finding = other → ∃ rest, finding.location = location ++ rest ∧
    IsRepeated value schema ⟨rest, finding.breach⟩

theorem Differ.of_step {step : Step} {value schema part partSchema : Json} {location : Location}
    {finding other : Finding} (hstep : step? step value schema = some (part, partSchema))
    (h : Differ part partSchema (location ++ [step]) finding other) :
    Differ value schema location finding other := by
  intro heq
  obtain ⟨_, hlocation, before, inside, insideSchema, name, hfollow, hrequired, hfinding⟩ := h heq
  obtain ⟨rfl, hbreach⟩ := Finding.mk.inj hfinding
  refine ⟨step :: (before ++ [.key name]), by simpa using hlocation, step :: before, inside,
    insideSchema, name, follow?_cons.2 ⟨_, _, hstep, hfollow⟩, hrequired, ?_⟩
  rw [hbreach, List.cons_append]

/-- A finding is at or below the place to which a step leads. -/
def Finding.Under (finding : Finding) (location : Location) (step : Step) : Prop :=
  ∃ rest, finding.location = location ++ step :: rest

/-- What is found in a part is under the step to it. -/
theorem under_of_mem {finding : Finding} {location : Location} {step : Step}
    {part partSchema : Json} (hs : partSchema.Proper)
    (h : finding ∈ findings part partSchema (location ++ [step])) :
    finding.Under location step := by
  obtain ⟨rest, hlocation, -⟩ := (mem_findings_iff hs).1 h
  exact ⟨rest, by rw [hlocation, List.append_assoc, List.singleton_append]⟩

/-- Findings under two steps are not the same. -/
theorem differ_of_under {step step' : Step} {value schema : Json} {location : Location}
    {finding other : Finding} (hne : step ≠ step') (h : finding.Under location step)
    (h' : other.Under location step') : Differ value schema location finding other := by
  rintro rfl
  obtain ⟨rest, hrest⟩ := h
  obtain ⟨rest', hrest'⟩ := h'
  rw [hrest, List.append_cancel_left_eq, List.cons.injEq] at hrest'
  exact absurd hrest'.1 hne

/-- Of the properties that an object lacks none is found twice, unless it is required twice. -/
theorem pairwise_lacking (members : List (String × Json)) (schema : Json) (location : Location) :
    ((lacking members schema).map fun name =>
      Finding.mk (location ++ [.key name]) (.missing name)).Pairwise
        (Differ (.object members) schema location) := by
  by_cases hrequired : (requiredBy schema).Nodup
  · rw [List.pairwise_map]
    refine (hrequired.filter _).imp fun {name other} hne heq => ?_
    obtain ⟨-, hbreach⟩ := Finding.mk.inj heq
    exact absurd (Breach.missing.inj hbreach) hne
  · refine List.pairwise_of_forall_mem_list fun finding hmem other _ _ => ?_
    obtain ⟨name, -, rfl⟩ := List.mem_map.1 hmem
    exact ⟨_, rfl, [], .object members, schema, name, rfl, hrequired, rfl⟩

theorem pairwise_surplus {members : List (String × Json)} (hkeys : (members.map Prod.fst).Nodup)
    (schema : Json) (location : Location) :
    ((surplus members schema).map fun name =>
      Finding.mk (location ++ [.key name]) (.undeclared name)).Pairwise
        (Differ (.object members) schema location) := by
  have hnodup : (surplus members schema).Nodup := by
    rw [surplus]
    split
    · exact hkeys.filter _
    · exact List.nodup_nil
  rw [List.pairwise_map]
  refine hnodup.imp fun {name other} hne heq => ?_
  obtain ⟨-, hbreach⟩ := Finding.mk.inj heq
  exact absurd (Breach.undeclared.inj hbreach) hne

/-- In no part of a value is anything found twice. -/
def PartsDiffer (value schema : Json) (location : Location) : Prop :=
  ∀ step part partSchema, step? step value schema = some (part, partSchema) →
    (findings part partSchema (location ++ [step])).Pairwise (Differ value schema location)

section Object

variable {members : List (String × Json)} {schema : Json} (hs : schema.Proper)

include hs

theorem under_of_mem_propertyFindings {property : String × Json}
    (hproperty : property ∈ propertiesOf schema)
    (hmem : finding ∈ propertyFindings members location property) :
    finding.Under location (.key property.1) := by
  obtain ⟨v, -, hmem⟩ := mem_propertyFindings.1 hmem
  exact under_of_mem ((proper_propertiesOf hs).2 _ hproperty) hmem

theorem pairwise_properties (hparts : PartsDiffer (.object members) schema location) :
    ((propertiesOf schema).flatMap (propertyFindings members location)).Pairwise
      (Differ (.object members) schema location) := by
  have hprops := (proper_propertiesOf hs).1
  rw [List.pairwise_flatMap]
  refine ⟨fun ⟨name, part⟩ hpart => ?_, ?_⟩
  · rw [← Json.lookup_eq_some_iff hprops] at hpart
    rw [propertyFindings]
    cases hl : Json.lookup name members with
    | none => exact .nil
    | some v => exact hparts _ _ _ (step?_key_iff.2 ⟨hpart, hl⟩)
  · rw [List.Nodup, List.pairwise_map] at hprops
    refine hprops.imp_of_mem fun {a b} ha hb hne finding hmem other hother => ?_
    have hkeys : Step.key a.1 ≠ .key b.1 := mt Step.key.inj hne
    exact differ_of_under hkeys (under_of_mem_propertyFindings hs ha hmem)
      (under_of_mem_propertyFindings hs hb hother)

/-- What is missing is not found in a member. -/
theorem differ_lacking_property {name : String} (hname : name ∈ lacking members schema)
    {other : Finding}
    (hother : other ∈ (propertiesOf schema).flatMap (propertyFindings members location)) :
    Differ (.object members) schema location ⟨location ++ [.key name], .missing name⟩ other := by
  obtain ⟨property, hproperty, hother⟩ := List.mem_flatMap.1 hother
  have hne : name ≠ property.1 := by
    rintro rfl
    obtain ⟨v, hv, -⟩ := mem_propertyFindings.1 hother
    refine (mem_lacking.1 hname).2 ?_
    rw [← Json.isSome_lookup_iff, hv, Option.isSome_some]
  exact differ_of_under (mt Step.key.inj hne) ⟨[], rfl⟩
    (under_of_mem_propertyFindings hs hproperty hother)

/-- What is not declared is not found in a member that is. -/
theorem differ_property_surplus {name : String} (hname : name ∈ surplus members schema)
    (hmem : finding ∈ (propertiesOf schema).flatMap (propertyFindings members location)) :
    Differ (.object members) schema location finding
      ⟨location ++ [.key name], .undeclared name⟩ := by
  obtain ⟨property, hproperty, hmem⟩ := List.mem_flatMap.1 hmem
  have hne : property.1 ≠ name := by
    rintro rfl
    exact (mem_surplus.1 hname).2.2 (List.mem_map_of_mem hproperty)
  exact differ_of_under (mt Step.key.inj hne) (under_of_mem_propertyFindings hs hproperty hmem)
    ⟨[], rfl⟩

end Object

theorem pairwise_items {items : List Json} {schema part : Json} (hpart : part.Proper)
    (hitems : schema.get? "items" = some part)
    (hparts : PartsDiffer (.array items) schema location) :
    (itemFindings part location 0 (itemChecks items)).Pairwise
      (Differ (.array items) schema location) := by
  rw [itemFindings_eq, List.pairwise_flatMap]
  refine ⟨fun ⟨item, i⟩ hi => ?_, ?_⟩
  · exact hparts _ _ _ (step?_index_iff.2 ⟨hitems, List.mem_zipIdx_iff_getElem?.1 hi⟩)
  · have hindices : (items.zipIdx.map Prod.snd).Nodup := by
      rw [List.zipIdx_map_snd]
      exact List.nodup_range'
    rw [List.Nodup, List.pairwise_map] at hindices
    refine hindices.imp fun {a b} hne finding hmem other hother => ?_
    have hsteps : Step.index a.2 ≠ .index b.2 := by simpa
    exact differ_of_under hsteps (under_of_mem hpart hmem) (under_of_mem hpart hother)

/-- Inside a value nothing is found twice if nothing is in a part of it. -/
theorem pairwise_inside {value schema : Json} {location : Location} (hv : value.Proper)
    (hs : schema.Proper) (hparts : PartsDiffer value schema location) :
    (inside value schema location).Pairwise (Differ value schema location) := by
  cases value with
  | object members =>
    rw [inside, memberFindings_eq, List.pairwise_append, List.pairwise_append]
    cases hv with | object hkeys _ => ?_
    refine ⟨⟨pairwise_lacking _ _ _, pairwise_properties hs hparts, ?_⟩,
      pairwise_surplus hkeys _ _, ?_⟩
    · intro finding hmem other hother
      obtain ⟨name, hname, rfl⟩ := List.mem_map.1 hmem
      exact differ_lacking_property hs hname hother
    · intro finding hmem other hother
      obtain ⟨name, hname, rfl⟩ := List.mem_map.1 hother
      rcases List.mem_append.1 hmem with hmem | hmem
      · obtain ⟨name', -, rfl⟩ := List.mem_map.1 hmem
        intro heq
        cases (Finding.mk.inj heq).2
      · exact differ_property_surplus hs hname hmem
  | array items =>
    rw [inside]
    cases hitems : schema.get? "items" with
    | none => exact .nil
    | some part => exact pairwise_items (hs.get? hitems) hitems hparts
  | null | bool | number | string => exact .nil

/-- Nothing is found twice, except that a property is missing that is required twice. -/
theorem pairwise_findings {value schema : Json} {location : Location} (hv : value.Proper)
    (hs : schema.Proper) :
    (findings value schema location).Pairwise (Differ value schema location) := by
  have hinside : (inside value schema location).Pairwise (Differ value schema location) :=
    pairwise_inside hv hs fun step part partSchema hstep => by
      have := sizeOf_of_step? hstep
      exact (pairwise_findings ((proper_of_step? hstep).1 hv) ((proper_of_step? hstep).2 hs)).imp
        fun h => Differ.of_step hstep h
  have henum : (enumFindings value schema location).Pairwise (Differ value schema location) := by
    rw [enumFindings]
    cases allowedBy? schema with
    | none => exact .nil
    | some allowed =>
      dsimp only
      split
      · exact .nil
      · exact List.pairwise_singleton _ _
  have hboth : (inside value schema location ++ enumFindings value schema location).Pairwise
      (Differ value schema location) := by
    refine List.pairwise_append.2 ⟨hinside, henum, fun finding hmem other hother heq => ?_⟩
    subst heq
    obtain ⟨allowed, -, -, rfl⟩ := mem_enumFindings.1 hother
    -- What is found inside the value is located below it.
    rcases (mem_inside hs).1 hmem with ⟨name, -, hlocation⟩ | ⟨step, part, partSchema, hstep, hmem⟩
    · exact absurd hlocation (by simp)
    · obtain ⟨rest, hlocation⟩ := under_of_mem ((proper_of_step? hstep).2 hs) hmem
      exact absurd hlocation (by simp)
  rw [findings_eq, findingsWith]
  cases typeOf? schema with
  | none => exact hboth
  | some name =>
    dsimp only
    split
    · exact hboth
    · exact List.pairwise_singleton _ _
termination_by sizeOf value

/-! ## Wrong types -/

theorem IsMistyped.breaks {value schema : Json} {cause : Finding}
    (h : IsMistyped value schema cause) : Breaks value schema cause := by
  obtain ⟨part, partSchema, name, hfollow, ht, hnot, hbreach⟩ := h
  refine ⟨_, part, partSchema, [], hfollow, ?_, (List.append_nil _).symm⟩
  rw [hbreach]
  exact .wrongType ht hnot

/-- At one location only one type is wrong. -/
theorem IsMistyped.eq_of_location {value schema : Json} {cause other : Finding}
    (h : IsMistyped value schema cause) (h' : IsMistyped value schema other)
    (heq : cause.location = other.location) : cause = other := by
  obtain ⟨location, breach⟩ := cause
  obtain ⟨location', breach'⟩ := other
  obtain rfl : location = location' := heq
  obtain ⟨part, partSchema, name, hfollow, ht, -, rfl⟩ := h
  obtain ⟨part', partSchema', name', hfollow', ht', -, rfl⟩ := h'
  obtain ⟨rfl, rfl⟩ := Prod.mk.inj (Option.some.inj (hfollow.symm.trans hfollow'))
  obtain rfl := Option.some.inj (ht.symm.trans ht')
  rfl

/-- Where a value breaks its schema, some breach is not hidden: this one, or the first wrong type
    on the way to it. -/
theorem exists_not_hidden {value schema : Json} {finding : Finding}
    (h : Breaks value schema finding) :
    ∃ cause, Breaks value schema cause ∧ ¬Hidden value schema cause := by
  by_cases hhidden : Hidden value schema finding
  · obtain ⟨cause, hcause, habove, -⟩ := hhidden
    clear h habove
    -- The causes of a cause are at shorter locations.
    induction hn : cause.location.length using Nat.strongRecOn generalizing cause with
    | _ n ih =>
      by_cases hagain : Hidden value schema cause
      · obtain ⟨first, hfirst, habove, hne⟩ := hagain
        refine ih _ ?_ first hfirst rfl
        rw [← hn]
        refine Nat.lt_of_le_of_ne habove.length_le fun hlength => hne ?_
        exact hcause.eq_of_location hfirst (habove.eq_of_length hlength).symm
      · exact ⟨cause, hcause.breaks, hagain⟩
  · exact ⟨finding, h, hhidden⟩

/-- A wrong type is all that is found at its location and below. -/
theorem filter_findings_of_isMistyped {value schema : Json} {cause : Finding} (hv : value.Proper)
    (hs : schema.Proper) (hmem : cause ∈ findings value schema [])
    (hcause : IsMistyped value schema cause) :
    (findings value schema []).filter (fun f => cause.location.isPrefixOf f.location) =
      [cause] := by
  have hall : ∀ f ∈ (findings value schema []).filter
      (fun f => cause.location.isPrefixOf f.location), f = cause := by
    intro f hf
    obtain ⟨hf, habove⟩ := List.mem_filter.1 hf
    obtain ⟨rest, hlocation, -, hvisible⟩ := (mem_findings_iff hs).1 hf
    obtain rfl : f.location = rest := hlocation
    by_contra hne
    exact hvisible ⟨cause, hcause, List.isPrefixOf_iff_prefix.1 habove, hne⟩
  have hpairwise := (@pairwise_findings value schema [] hv hs).filter
    fun f => cause.location.isPrefixOf f.location
  have hself : ¬Differ value schema [] cause cause := by
    intro h
    obtain ⟨rest, -, _, _, _, name, -, -, heq⟩ := h rfl
    obtain ⟨part, partSchema, expected, -, -, -, hbreach⟩ := hcause
    cases hbreach.symm.trans (Finding.mk.inj heq).2
  have hin : cause ∈ (findings value schema []).filter
      (fun f => cause.location.isPrefixOf f.location) :=
    List.mem_filter.2 ⟨hmem, List.isPrefixOf_iff_prefix.2 List.prefix_rfl⟩
  generalize (findings value schema []).filter
    (fun f => cause.location.isPrefixOf f.location) = found at hall hpairwise hin
  match found with
  | [first] => rw [hall first List.mem_cons_self]
  | first :: second :: rest =>
    rw [hall first (by simp), hall second (by simp)] at hpairwise
    exact absurd (List.rel_of_pairwise_cons hpairwise List.mem_cons_self) hself

/-! ## Reports -/

theorem render_eq_join (location : Location) :
    location.render = "$" ++ String.join (location.map Step.render) := by
  have happend (path : String) : location.foldl (fun path step => path ++ step.render) path =
      path ++ String.join (location.map Step.render) := by
    induction location generalizing path with
    | nil => exact String.append_empty.symm
    | cons step rest ih =>
      rw [List.foldl_cons, ih, List.map_cons, String.join_cons, String.append_assoc]
  exact happend "$"

theorem violations_validate (schema value : Json) :
    (validate schema value).violations = (findings value schema []).map Finding.toViolation := by
  rw [validate]
  cases findings value schema [] <;> rfl

/-- What breaks is reported unless it is hidden, and nothing else is reported. -/
theorem violations_reported_exactly {schema value : Json} (hs : schema.Proper)
    (hv : value.Proper) :
    ∃ found : List Finding,
      -- The path leads to the part, and the message says how it breaks its schema.
      (validate schema value).violations = found.map (fun finding =>
        { path? := some ("$" ++ String.join (finding.location.map fun
            | .key name => "." ++ name
            | .index i => "[" ++ toString i ++ "]"))
          message :=
            match finding.breach with
            | .wrongType name part =>
              "Expected type '" ++ name ++ "', got '" ++ typeName part ++ "'"
            | .notAllowed allowed =>
              "Value not in allowed enum values: " ++ ", ".intercalate (allowed.map Json.render)
            | .missing name => "Missing required property: " ++ name
            | .undeclared name => "Additional property not allowed: " ++ name }) ∧
      (∀ finding, finding ∈ found ↔ Breaks value schema finding ∧ ¬Hidden value schema finding) ∧
      -- Nothing is reported twice.
      ((∀ location part partSchema, follow? location value schema = some (part, partSchema) →
        (requiredBy partSchema).Nodup) → found.Nodup) ∧
      -- A wrong type is reported once, and nothing else in its part.
      (∀ cause ∈ found, IsMistyped value schema cause →
        found.filter (fun finding => cause.location.isPrefixOf finding.location) = [cause]) ∧
      ((validate schema value).isValid = true ↔ ∀ finding, ¬Breaks value schema finding) := by
  have hmem (finding : Finding) : finding ∈ findings value schema [] ↔
      Breaks value schema finding ∧ ¬Hidden value schema finding := by
    rw [mem_findings_iff hs]
    constructor
    · rintro ⟨rest, hlocation, h⟩
      obtain rfl : finding.location = rest := hlocation
      exact h
    · exact fun h => ⟨_, rfl, h⟩
  refine ⟨findings value schema [], ?_, hmem, fun hrequired => ?_,
    fun cause hcause => filter_findings_of_isMistyped hv hs hcause, ?_⟩
  · rw [violations_validate]
    refine List.map_congr_left fun finding _ => ?_
    rw [Finding.toViolation, render_eq_join]
    obtain ⟨location, _ | _ | _ | _⟩ := finding <;> rfl
  · refine (pairwise_findings hv hs).imp fun {finding other} hdiffer heq => ?_
    obtain ⟨_, -, location, part, partSchema, name, hfollow, hrepeats, -⟩ := hdiffer heq
    exact hrepeats (hrequired location part partSchema hfollow)
  · rw [isValid_validate_iff]
    constructor
    · intro hnone finding hbreaks
      obtain ⟨cause, hcause⟩ := exists_not_hidden hbreaks
      rw [← hmem, hnone] at hcause
      cases hcause
    · intro hnone
      refine List.eq_nil_iff_forall_not_mem.2 fun finding hfinding => ?_
      exact hnone finding ((hmem finding).1 hfinding).1

/-- A part of a wrong type hides what is below it, but not what is beside it. -/
theorem violations_reported_exactly_beside :
    ∃ schema value : Json, schema.Proper ∧ value.Proper ∧
      schema = .object [("required", .array [.string "a", .string "b"]),
        ("properties", .object [("a", .object [("type", .string "array"), ("enum", .array [])])])] ∧
      value = .object [("a", .object [])] ∧
      (validate schema value).violations =
        [⟨"Missing required property: b", some "$.b"⟩,
          ⟨"Expected type 'array', got 'object'", some "$.a"⟩] ∧
      ∃ finding, Breaks value schema finding ∧ ¬Hidden value schema finding := by
  let schema : Json := .object [("required", .array [.string "a", .string "b"]),
    ("properties", .object [("a", .object [("type", .string "array"), ("enum", .array [])])])]
  let value : Json := .object [("a", .object [])]
  have hs : schema.Proper := by simp [schema]
  have hv : value.Proper := by simp [value]
  obtain ⟨-, -, -, -, -, hvalid⟩ := violations_reported_exactly hs hv
  have hinvalid : ¬(validate schema value).isValid = true := by decide +kernel
  rw [hvalid, not_forall] at hinvalid
  obtain ⟨finding, hbreaks⟩ := hinvalid
  exact ⟨schema, value, hs, hv, rfl, rfl, by decide +kernel, exists_not_hidden (not_not.1 hbreaks)⟩

end Schema

end PromptChain
