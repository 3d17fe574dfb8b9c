/-!
# Schema descriptions

What a person writes next to a prompt to say which structure the answer shall have:
one object with named fields, a list of such objects, or one of several choices.
-/

namespace PromptChain.Schema

/-- The overall shape of a structured answer. -/
inductive Shape where
  /-- One object with the declared fields. -/
  | single
  /-- A list of objects with the declared fields. -/
  | list
  /-- One of the choices. -/
  | choice
deriving DecidableEq, Repr, Inhabited

/-- The name of a shape. -/
def Shape.name : Shape → String
  | .single => "single-object"
  | .list => "array-of-objects"
  | .choice => "enum-choice"

/-- All names of shapes; each shape also has a short name. -/
def Shape.names : List (String × Shape) :=
  [("object", .single), ("single-object", .single), ("array", .list),
    ("array-of-objects", .list), ("enum", .choice), ("enum-choice", .choice)]

/-- The type of a field. A name that is not known is kept as it is. -/
inductive FieldType where
  | text
  | number
  | boolean
  | textList
  | other (name : String)
deriving DecidableEq, Repr, Inhabited

namespace FieldType

/-- The name of a field type. -/
def name : FieldType → String
  | text => "string"
  | number => "number"
  | boolean => "boolean"
  | textList => "string-list"
  | other name => name

/-- The field type with a name; a list of texts has two names. -/
def ofName (name : String) : FieldType :=
  if name = "string" then text
  else if name = "number" then number
  else if name = "boolean" then boolean
  else if name = "string-list" || name = "string[]" then textList
  else other name

/-- Whether the type is none of the known ones. -/
def isOther : FieldType → Bool
  | other _ => true
  | _ => false

end FieldType

/-- A declared field. -/
structure Field where
  name : String
  type : FieldType
  description? : Option String
deriving DecidableEq, Repr, Inhabited

/-- The structure that an answer shall have. The fields matter to objects, the choices
    to choices. -/
structure Description where
  shape : Shape
  fields : List Field
  choices : List String
deriving DecidableEq, Repr, Inhabited

namespace Description

/-- An object with the given fields. -/
def object (fields : List Field) : Description := ⟨.single, fields, []⟩

/-- A list of objects with the given fields. -/
def list (fields : List Field) : Description := ⟨.list, fields, []⟩

/-- One of the given texts. -/
def choice (choices : List String) : Description := ⟨.choice, [], choices⟩

end Description

end PromptChain.Schema
