import PromptChain.Json.Printer

/-!
# Checking a value against a JSON schema

A value is checked against the part of JSON Schema that answers are described with:
`type`, `items`, `properties`, `required`, `additionalProperties` and `enum`. All
violations are found, except inside a part whose type is already wrong. Keywords of
another form than expected are ignored, and so is a type that has no known name.

A part of a value is found by following keys and indices from the whole (`Location`). The
outcome of a check are the violations or, if there are none, the value itself
(`Verdict`).
-/

namespace PromptChain.Schema

/-! ## Locations and verdicts -/

/-- A step into a value. -/
inductive Step where
  | key (name : String)
  | index (i : Nat)
deriving DecidableEq, Repr

/-- The steps from the whole value to a part. -/
abbrev Location := List Step

/-- A step as it is written in a path. -/
def Step.render : Step → String
  | .key name => "." ++ name
  | .index i => "[" ++ toString i ++ "]"

/-- The path of a location; the whole value is at `$`. -/
def Location.render (location : Location) : String :=
  location.foldl (fun path step => path ++ step.render) "$"

/-- A violation in words, and the path of the part that it is about. -/
structure Violation where
  message : String
  path? : Option String
deriving DecidableEq, Repr

/-- The violation on one line. -/
def Violation.describe (violation : Violation) : String :=
  match violation.path? with
  | some path => path ++ ": " ++ violation.message
  | none => violation.message

/-- The outcome of checking a value. -/
structure Verdict where
  violations : List Violation
  data? : Option Json
deriving Repr

namespace Verdict

/-- The value is as it should be. -/
def success (data : Json) : Verdict := ⟨[], some data⟩

/-- The value breaks the rules in the given ways. -/
def failure (violations : List Violation) : Verdict := ⟨violations, none⟩

/-- Whether nothing is wrong with the value. -/
def isValid (verdict : Verdict) : Bool := verdict.violations.isEmpty

/-- The violations, each on one line. -/
def messages (verdict : Verdict) : List String := verdict.violations.map Violation.describe

/-- The value, null if none is kept, or else the violations. -/
def toExcept (verdict : Verdict) : Except (List Violation) Json :=
  if verdict.isValid then .ok (verdict.data?.getD .null) else .error verdict.violations

end Verdict

/-! ## Breaches -/

/-- A way in which a part of a value breaks its schema. -/
inductive Breach where
  /-- The part is not of the named type. -/
  | wrongType (expected : String) (value : Json)
  /-- The part is none of the allowed values. -/
  | notAllowed (allowed : List Json)
  /-- The object lacks a required property. -/
  | missing (name : String)
  /-- The object has a property that it may not have. -/
  | undeclared (name : String)
deriving Repr

/-- A breach at a location. -/
structure Finding where
  location : Location
  breach : Breach
deriving Repr

/-- The name of the type of a value. -/
def typeName : Json → String
  | .null => "null"
  | .bool _ => "boolean"
  | .number _ => "number"
  | .string _ => "string"
  | .array _ => "array"
  | .object _ => "object"

/-- Whether the type with a name admits a value. -/
def typeAdmits (name : String) (value : Json) : Bool :=
  if name = "integer" then
    match value with
    | .number (.int _) => true
    | _ => false
  else if ["null", "boolean", "number", "string", "array", "object"].contains name then
    typeName value = name
  else true

/-- The wording of a breach. -/
def Breach.message : Breach → String
  | wrongType expected value => "Expected type '" ++ expected ++ "', got '" ++ typeName value ++ "'"
  | notAllowed allowed =>
    "Value not in allowed enum values: " ++ ", ".intercalate (allowed.map Json.render)
  | missing name => "Missing required property: " ++ name
  | undeclared name => "Additional property not allowed: " ++ name

/-- A finding in words. -/
def Finding.toViolation (finding : Finding) : Violation :=
  ⟨finding.breach.message, some finding.location.render⟩

/-! ## Keywords of a schema -/

/-- The name of the type that a schema asks for. -/
def typeOf? (schema : Json) : Option String := (schema.get? "type").bind Json.string?

/-- The values that a schema allows. -/
def allowedBy? (schema : Json) : Option (List Json) := (schema.get? "enum").bind Json.items?

/-- The names of the properties that a schema requires. -/
def requiredBy (schema : Json) : List String :=
  (((schema.get? "required").bind Json.items?).getD []).filterMap Json.string?

/-- The properties that a schema declares. -/
def propertiesOf (schema : Json) : List (String × Json) :=
  ((schema.get? "properties").bind Json.members?).getD []

/-- Whether a schema admits only the properties that it declares. -/
def isClosed (schema : Json) : Bool :=
  (schema.get? "additionalProperties").bind Json.bool? = some false

/-! ## Checks -/

/-- A check of one value: what is found against a schema, for a value at a location. -/
abbrev Check := Json → Location → List Finding

/-- Breaches of the list of allowed values. -/
def enumFindings (value schema : Json) (location : Location) : List Finding :=
  match allowedBy? schema with
  | none => []
  | some allowed => if value.among allowed then [] else [⟨location, .notAllowed allowed⟩]

/-- What is found in the items of a list, the first one being at index `i`. -/
def itemFindings (schema : Json) (location : Location) : Nat → List Check → List Finding
  | _, [] => []
  | i, check :: rest =>
    check schema (location ++ [.index i]) ++ itemFindings schema location (i + 1) rest

/-- What is found in an object, given the checks of its members: what is missing, then
    what is wrong with the declared properties, then what is undeclared. -/
def memberFindings (members : List (String × Check)) (schema : Json) (location : Location) :
    List Finding :=
  let absent name := (Json.lookup name members).isNone
  let undeclared name := (Json.lookup name (propertiesOf schema)).isNone
  ((requiredBy schema).filter absent).map
      (fun name => ⟨location ++ [.key name], .missing name⟩) ++
    (propertiesOf schema).flatMap
      (fun (name, part) =>
        match Json.lookup name members with
        | some check => check part (location ++ [.key name])
        | none => []) ++
    if isClosed schema then
      ((members.map Prod.fst).filter undeclared).map
        fun name => ⟨location ++ [.key name], .undeclared name⟩
    else []

/-- What is found in a value: a wrong type, or else what is wrong inside it and with the
    value as a whole. -/
def findingsWith (inside : Check) (value schema : Json) (location : Location) : List Finding :=
  match typeOf? schema with
  | some name =>
    if typeAdmits name value then inside schema location ++ enumFindings value schema location
    else [⟨location, .wrongType name value⟩]
  | none => inside schema location ++ enumFindings value schema location

mutual

/-- All findings in a value. -/
def findings : Json → Check
  | .array items =>
    findingsWith
      (fun schema location =>
        match schema.get? "items" with
        | some part => itemFindings part location 0 (itemChecks items)
        | none => [])
      (.array items)
  | .object members => findingsWith (memberFindings (memberChecks members)) (.object members)
  | value => findingsWith (fun _ _ => []) value

/-- The checks of the items of a list. -/
def itemChecks : List Json → List Check
  | [] => []
  | item :: rest => findings item :: itemChecks rest

/-- The checks of the members of an object. -/
def memberChecks : List (String × Json) → List (String × Check)
  | [] => []
  | (name, value) :: rest => (name, findings value) :: memberChecks rest

end

/-- Check a value against a schema. -/
def validate (schema value : Json) : Verdict :=
  match findings value schema [] with
  | [] => .success value
  | found => .failure (found.map Finding.toViolation)

end PromptChain.Schema
