import PromptChain.Json.Fault
import PromptChain.Json.Printer
import PromptChain.Text.Quoted

/-!
# Why a typed value cannot be read

A document may be malformed, or hold something else than what its reader expects.
The causes are kept as data (`DecodeError`); `DecodeError.message` words them.
-/

namespace PromptChain

/-- What a document holds in the place of what was expected. -/
inductive Found where
  | null
  | bool (b : Bool)
  | number (n : Json.Number)
  | string (s : String)
  | list
  | record
deriving DecidableEq, Repr

/-- What is found, in words. -/
def Found.describe : Found → String
  | .null => "null"
  | .bool b => "boolean `" ++ (if b then "true" else "false") ++ "`"
  | .number (.int n) => "integer `" ++ toString n.val ++ "`"
  | .number (.float x) => "floating point `" ++ x.dataText ++ "`"
  | .string s => "string " ++ Text.quoted s
  | .list => "sequence"
  | .record => "map"

/-- Why a typed value cannot be read from a document. -/
inductive DecodeError where
  /-- The document is malformed. -/
  | malformed (cause : Json.SyntaxError)
  /-- A value of another type than expected. -/
  | wrongType (found : Found) (expected : String)
  /-- A value of the right type but out of its range. -/
  | wrongValue (found : Found) (expected : String)
  /-- A list with the wrong number of items. -/
  | wrongLength (length : Nat) (expected : String)
  /-- A name that is none of the known ones. -/
  | unknownVariant (name : String) (known : List String)
  /-- A field that must be present is not. -/
  | missingField (name : String)
  /-- A field that is given twice. -/
  | duplicateField (name : String)
deriving DecidableEq, Repr

namespace DecodeError

/-- The names that would have been right, in words. -/
def oneOf : List String → String
  | [] => "there are no variants"
  | [a] => "expected `" ++ a ++ "`"
  | [a, b] => "expected `" ++ a ++ "` or `" ++ b ++ "`"
  | names => "expected one of " ++ ", ".intercalate (names.map fun n => "`" ++ n ++ "`")

/-- The wording of an error. -/
def message : DecodeError → String
  | malformed cause => cause.message
  | wrongType found expected => "invalid type: " ++ found.describe ++ ", expected " ++ expected
  | wrongValue found expected => "invalid value: " ++ found.describe ++ ", expected " ++ expected
  | wrongLength length expected => "invalid length " ++ toString length ++ ", expected " ++ expected
  | unknownVariant name known => "unknown variant `" ++ name ++ "`, " ++ oneOf known
  | missingField name => "missing field `" ++ name ++ "`"
  | duplicateField name => "duplicate field `" ++ name ++ "`"

end DecodeError

end PromptChain
