import PromptChain.Decode.OfValue
import PromptChain.Json.Draft

/-!
# Typed values from JSON text

Typed values are read from a draft in the order of the text, and only where they are
wanted: a part of the wrong type is not looked into, and a field that the type does not
have is skipped.
-/

namespace PromptChain.Json

/-- Give the complaint about malformed text as the reason of a failed reading. -/
def asMalformed {α : Type} : Except SyntaxError α → Except DecodeError α
  | .ok a => .ok a
  | .error e => .error (.malformed e)

/-- What stands in a draft, for a complaint. A list and an object are not looked
    into. -/
def Draft.found : Draft → Except SyntaxError Found
  | .absent fault | .number (.error fault) => .error fault.whenTaken
  | .null fault? => (fun _ => .null) <$> checkTaken fault?
  | .bool b fault? => (fun _ => .bool b) <$> checkTaken fault?
  | .number (.ok n) => .number <$> n.take
  | .string s => .string <$> s.take
  | .list .. => .ok .list
  | .object .. => .ok .record

/-- Complain that a draft is not of the expected type. -/
def Draft.unexpected {α : Type} (expected : String) (d : Draft) : Except DecodeError α := do
  throw (.wrongType (← asMalformed d.found) expected)

/-- The complaint about what ends a list, when it is closed there. -/
def closeFault : Fault → SyntaxError
  | .listCut => .endInList
  | .listTrailingComma => .trailingComma
  | _ => .trailingCharacters

/-- The items of a list that some fault may end. -/
def Draft.itemsOf (items : List Draft) (fault? : Option Fault) : Items Draft where
  items := items
  next? := fault?.map fun f => .malformed f.whenTaken
  close? := fault?.map fun f => .malformed (closeFault f)
  surplus := .malformed .trailingCharacters

/-- The name of an alternative that is written as the key of an object. -/
def Draft.alternative : Draft → Except DecodeError String
  | .string s => asMalformed s.take
  | d => d.unexpected "variant identifier"

/-- An alternative has no content but null. -/
def Draft.checkUnit : Draft → Except DecodeError Unit
  | .null fault? => asMalformed (checkTaken fault?)
  | d => d.unexpected "unit"

/-- What ends an object that stands for an alternative, after its first member. -/
def checkSole (rest : List (Draft × Draft)) (fault? : Option Fault) : Except SyntaxError Unit :=
  match rest, fault? with
  | [], none => .ok ()
  | [], some .objectCut => .error .endInObject
  | _, _ => .error .expectedValue

instance : ValueSource Draft where
  string
    | .string s => asMalformed s.take
    | d => d.unexpected "a string"
  bool
    | .bool b fault? => (fun _ => b) <$> asMalformed (checkTaken fault?)
    | d => d.unexpected "a boolean"
  double
    | .number (.ok n) => Number.toBinary64 <$> asMalformed n.take
    | d => d.unexpected "f64"
  word limit type
    | .number (.ok n) => do (← asMalformed n.take).toWord limit type
    | d => d.unexpected type
  optional
    | .null fault? => (fun _ => none) <$> asMalformed (checkTaken fault?)
    | d => .ok (some d)
  list
    | .list level items fault? => do
      asMalformed (checkLevel level)
      return Draft.itemsOf items fault?
    | d => d.unexpected "a sequence"
  record expected
    | .object level members fault? => do
      asMalformed (checkLevel level)
      return .named (members.map fun (k, v) => (asMalformed k.key, v))
        (fault?.map fun f => .malformed f.whenTaken)
    | .list level items fault? => do
      asMalformed (checkLevel level)
      return .positional (Draft.itemsOf items fault?)
    | d => d.unexpected expected
  choice meaning
    | .string s => do meaning (← asMalformed s.take)
    | .object level members fault? => do
      asMalformed (checkLevel level)
      match members with
      | [] =>
        throw (.malformed (if fault? = some .objectCut then .endInValue else .expectedValue))
      | (k, v) :: rest =>
        let result ← meaning (← k.alternative)
        v.checkUnit
        asMalformed (checkSole rest fault?)
        return result
    | .absent fault => .error (.malformed fault.whenTaken)
    | _ => .error (.malformed .expectedValue)
  skip d := asMalformed d.skip
  value d := asMalformed d.take

/-- Read a typed value that is the whole of a text. -/
def decodeText {α : Type} (decode : Draft → Except DecodeError α) (text : String) :
    Except DecodeError α := do
  let (draft, rest?) := Draft.read text.toList
  let value ← decode draft
  asMalformed (checkEnd rest?)
  return value

end PromptChain.Json
