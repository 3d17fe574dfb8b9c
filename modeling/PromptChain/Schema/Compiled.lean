import PromptChain.Schema.Description
import PromptChain.Schema.Validation

/-!
# Compiled schemas

A description is compiled to a JSON schema that closed objects, lists and choices are
checked with. Models are asked for an object in any case, so a list or a choice
travels in an *envelope*, an object with one property; `Compiled.unwrap` takes it out
again.
-/

namespace PromptChain.Schema

/-- The schema of an object that has all the given properties and no others. A repeated
    name keeps its place and takes the last schema. -/
def closedObject (properties : List (String × Json)) : Json :=
  let properties := Json.inserted properties
  .object
    [("type", .string "object"),
      ("properties", .object properties),
      ("required", Json.ofStrings (properties.map Prod.fst)),
      ("additionalProperties", .bool false)]

/-- The schema that only names a type. -/
def typeOnly (name : String) : List (String × Json) := [("type", .string name)]

/-- The members of the schema of a field type; an unknown type is a text. -/
def FieldType.schemaMembers : FieldType → List (String × Json)
  | .text | .other _ => typeOnly "string"
  | .number => typeOnly "number"
  | .boolean => typeOnly "boolean"
  | .textList => typeOnly "array" ++ [("items", .object (typeOnly "string"))]

/-- The schema of a field type. -/
def FieldType.schema (type : FieldType) : Json := .object type.schemaMembers

/-- The schema of a declared field. -/
def Field.schema (field : Field) : Json :=
  .object (field.type.schemaMembers ++
    Json.optionally "description" (field.description?.map .string))

/-- A compiled description. -/
structure Compiled where
  shape : Shape
  /-- The schema of the answer itself. -/
  schema : Json
  choices : List String
  /-- The names of the fields whose type was not known, one for each such declaration. -/
  fallbackFields : List String
deriving Repr

/-- Compile a description; a choice needs something to choose from. -/
def compile? (description : Description) : Option Compiled :=
  match description.shape with
  | .choice =>
    if description.choices.isEmpty then none
    else
      let schema := typeOnly "string" ++ [("enum", Json.ofStrings description.choices)]
      some ⟨.choice, .object schema, description.choices, []⟩
  | shape =>
    let object := closedObject (description.fields.map fun field => (field.name, field.schema))
    let schema :=
      if shape = .list then .object (typeOnly "array" ++ [("items", object)]) else object
    some ⟨shape, schema, [],
      (description.fields.filter fun field => field.type.isOther).map Field.name⟩

/-- The property of the envelope in which an answer of a shape travels. -/
def envelopeKey? : Shape → Option String
  | .single => none
  | .list => some "elements"
  | .choice => some "result"

namespace Compiled

/-- Check an answer. -/
def check (compiled : Compiled) (value : Json) : Verdict := validate compiled.schema value

/-- The schema that a model is asked to obey. -/
def requestSchema (compiled : Compiled) : Json :=
  match envelopeKey? compiled.shape with
  | none => compiled.schema
  | some key => closedObject [(key, compiled.schema)]

/-- Put an answer into its envelope. -/
def wrap (compiled : Compiled) (value : Json) : Json :=
  match envelopeKey? compiled.shape with
  | none => value
  | some key => .object [(key, value)]

/-- Take an answer out of its envelope; what comes without one is left as it is. -/
def unwrap (compiled : Compiled) (value : Json) : Json :=
  match envelopeKey? compiled.shape, value with
  | some key, .object [(k, content)] => if k = key then content else value
  | _, _ => value

/-- The format of the answer, as a model is told it. -/
def responseFormat (compiled : Compiled) : Json :=
  .object
    [("type", .string "json_schema"),
      ("json_schema", .object
        [("name", .string "response"),
          ("strict", .bool true),
          ("schema", compiled.requestSchema)])]

end Compiled

end PromptChain.Schema
