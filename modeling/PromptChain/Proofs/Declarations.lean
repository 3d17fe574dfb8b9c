import PromptChain.Proofs.Conformance

/-!
# Declared fields in the compiled schema

A description may declare a name more than once, with other types and with or without a
description. In the compiled schema every name is there once: its place is that of the first
declaration, and everything else is taken from the last one (`Field.last?`), which leaves nothing
of those before it.

What a single declaration asks for is said by a relation between the field and the schema of its
property (`Field.Declares`).
-/

namespace PromptChain.Schema

/-- The keywords of the schema of a field type. An unknown type is that of texts. -/
inductive FieldType.Keywords : FieldType → List (String × Json) → Prop
  | text : Keywords .text [("type", .string "string")]
  | number : Keywords .number [("type", .string "number")]
  | boolean : Keywords .boolean [("type", .string "boolean")]
  | textList : Keywords .textList
      [("type", .string "array"), ("items", .object [("type", .string "string")])]
  | other (name : String) : Keywords (.other name) [("type", .string "string")]

/-- A field declares the schema of a property: it has the keywords of the type, and the
    description if the field has one. -/
inductive Field.Declares : Field → Json → Prop
  | plain {name : String} {type : FieldType} {keywords : List (String × Json)} :
      type.Keywords keywords → Declares ⟨name, type, none⟩ (.object keywords)
  | described {name text : String} {type : FieldType} {keywords : List (String × Json)} :
      type.Keywords keywords →
      Declares ⟨name, type, some text⟩ (.object (keywords ++ [("description", .string text)]))

theorem FieldType.keywords_schemaMembers (type : FieldType) :
    type.Keywords type.schemaMembers := by
  cases type <;> constructor

theorem Field.declares_schema (field : Field) : field.Declares field.schema := by
  obtain ⟨name, type, description?⟩ := field
  cases description? with
  | none =>
    have hschema : Field.schema ⟨name, type, none⟩ = .object type.schemaMembers :=
      congrArg Json.object (List.append_nil _)
    exact hschema ▸ .plain type.keywords_schemaMembers
  | some text => exact .described type.keywords_schemaMembers

/-- A declared name has a last declaration. -/
theorem Field.exists_last? {fields : List Field} {name : String}
    (h : name ∈ fields.map Field.name) : ∃ field, last? fields name = some field := by
  rw [← Option.isSome_iff_exists, last?, List.find?_isSome]
  obtain ⟨field, hf, rfl⟩ := List.mem_map.1 h
  exact ⟨field, List.mem_reverse.2 hf, decide_eq_true rfl⟩

/-- The schema of an object of the answer. -/
def Compiled.objectSchema? (compiled : Compiled) : Option Json :=
  match compiled.shape with
  | .single => some compiled.schema
  | .list => compiled.schema.get? "items"
  | .choice => none

/-- The schema of objects with the declared fields is that of a closed object. -/
theorem exists_objectSchema {description : Description} (h : description.shape ≠ .choice) :
    ∃ compiled, compile? description = some compiled ∧ compiled.objectSchema? =
      some (closedObject (description.fields.map fun field => (field.name, field.schema))) := by
  obtain ⟨shape, fields, choices⟩ := description
  cases shape with
  | single | list => exact ⟨_, rfl, rfl⟩
  | choice => exact absurd rfl h

/-- In the compiled schema of objects, the properties are the declared names in the order of their
    first declarations; just these are required, and no others are allowed. The schema of a
    property is what the last declaration of its name declares. -/
theorem properties_as_declared {description : Description} (h : description.shape ≠ .choice) :
    let names := (description.fields.map Field.name).eraseDups
    ∃ compiled properties, compile? description = some compiled ∧
      compiled.objectSchema? = some (.object
        [("type", .string "object"),
          ("properties", .object properties),
          ("required", .array (names.map .string)),
          ("additionalProperties", .bool false)]) ∧
      properties.map Prod.fst = names ∧
      ∀ name ∈ names, ∃ field part, Field.last? description.fields name = some field ∧
        field.Declares part ∧ Json.lookup name properties = some part := by
  intro names
  obtain ⟨compiled, hcompiled, hobject⟩ := exists_objectSchema h
  have hnames : (Json.inserted (description.fields.map fun field =>
      (field.name, field.schema))).map Prod.fst = names := by
    rw [Json.keys_inserted, List.map_map]
    rfl
  refine ⟨compiled, _, hcompiled, ?_, hnames, fun name hname => ?_⟩
  · rw [hobject, ← hnames]
    rfl
  · obtain ⟨field, hlast⟩ := Field.exists_last? (List.mem_eraseDups.1 hname)
    refine ⟨field, field.schema, hlast, field.declares_schema, ?_⟩
    rw [Json.lookup_inserted, lookup_schema, hlast, Option.map_some]

/-- Two names are declared twice, once with a description that the last declaration drops. -/
theorem properties_as_declared_twice :
    let description := Description.list [⟨"when", .other "date", some "a day"⟩,
      ⟨"names", .number, none⟩, ⟨"when", .boolean, none⟩, ⟨"names", .textList, some "all"⟩]
    description.shape ≠ .choice ∧ ∃ compiled properties, compile? description = some compiled ∧
      compiled.objectSchema? = some (.object
        [("type", .string "object"),
          ("properties", .object properties),
          ("required", .array [.string "when", .string "names"]),
          ("additionalProperties", .bool false)]) ∧
      properties.map Prod.fst = ["when", "names"] ∧
      Json.lookup "when" properties = some (.object [("type", .string "boolean")]) ∧
      Json.lookup "names" properties = some (.object [("type", .string "array"),
        ("items", .object [("type", .string "string")]), ("description", .string "all")]) := by
  intro description
  have hshape : description.shape ≠ .choice := by decide
  obtain ⟨compiled, properties, hcompiled, hobject, hkeys, hparts⟩ :=
    properties_as_declared hshape
  refine ⟨hshape, compiled, properties, hcompiled, hobject, hkeys, ?_, ?_⟩
  · obtain ⟨field, part, hlast, hdeclares, hpart⟩ := hparts "when" (by decide)
    cases hlast
    cases hdeclares with
    | plain hkeywords =>
      cases hkeywords
      exact hpart
  · obtain ⟨field, part, hlast, hdeclares, hpart⟩ := hparts "names" (by decide)
    cases hlast
    cases hdeclares with
    | described hkeywords =>
      cases hkeywords
      exact hpart

end PromptChain.Schema
