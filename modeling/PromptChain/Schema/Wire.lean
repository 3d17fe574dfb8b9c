import PromptChain.Decode.Record
import PromptChain.Schema.Description

/-!
# Schema descriptions on the wire

How a schema description is written as a JSON value and read from a document. Reading
also accepts the older names of the fields and the short names of the shapes.
-/

namespace PromptChain.Schema

variable {δ : Type} [Source δ]

namespace Shape

/-- The shape as a JSON value. -/
def encode (shape : Shape) : Json := .string shape.name

/-- Read a shape. -/
def decode (part : δ) : Except DecodeError Shape := Source.oneOf names part

end Shape

namespace FieldType

/-- The field type as a JSON value. -/
def encode (type : FieldType) : Json := .string type.name

/-- Read a field type. -/
def decode (part : δ) : Except DecodeError FieldType := ofName <$> Source.string part

end FieldType

namespace Field

/-- The field as a JSON value. -/
def encode (field : Field) : Json :=
  .object ([("name", .string field.name), ("primitiveType", field.type.encode)] ++
    Json.optionally "description" (field.description?.map .string))

/-- The parts of a field in the order of declaration. -/
def slots : List (Slot δ Field) :=
  [.needed "name" [] Source.string fun v field => { field with name := v },
    .needed "primitiveType" ["type"] FieldType.decode fun v field => { field with type := v },
    .optional "description" [] (Source.optionally Source.string) fun v field =>
      { field with description? := v }]

/-- Read a field. -/
def decode (part : δ) : Except DecodeError Field :=
  Source.recordOf "FieldSpec" slots ⟨"", .text, none⟩ part

end Field

namespace Description

/-- The description as a JSON value. -/
def encode (description : Description) : Json :=
  .object
    [("outputShape", description.shape.encode),
      ("fields", .array (description.fields.map Field.encode)),
      ("choices", Json.ofStrings description.choices)]

/-- The parts of a description in the order of declaration. -/
def slots : List (Slot δ Description) :=
  [.optional "outputShape" ["outputType"] Shape.decode fun v description =>
      { description with shape := v },
    .optional "fields" ["properties"] (Source.listOf Field.decode) fun v description =>
      { description with fields := v },
    .optional "choices" ["enumValues"] (Source.listOf Source.string) fun v description =>
      { description with choices := v }]

/-- Read a description; nothing in it is required. -/
def decode (part : δ) : Except DecodeError Description :=
  Source.recordOf "SchemaDescription" slots (object []) part

end Description

end PromptChain.Schema
