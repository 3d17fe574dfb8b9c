import PromptChain.Decode.Source

/-!
# Typed values from JSON values

A JSON value is a document without faults, so only its types can be wrong. An integer
serves as a number of either kind; a fraction never serves as an integer.
-/

namespace PromptChain.Json

/-- What a value is, for a complaint. -/
def found : Json → Found
  | .null => .null
  | .bool b => .bool b
  | .number n => .number n
  | .string s => .string s
  | .array _ => .list
  | .object _ => .record

/-- The floating-point number that a number is or is nearest to. -/
def Number.toBinary64 : Number → Binary64
  | .int n => Binary64.ofInt n.val
  | .float x => .finite x

/-- A natural number below a limit; the text names the type of such numbers. -/
def Number.toWord (limit : Nat) (type : String) : Number → Except DecodeError (Fin limit)
  | .int n =>
    if h : 0 ≤ n.val ∧ n.val.toNat < limit then .ok ⟨n.val.toNat, h.2⟩
    else .error (.wrongValue (.number (.int n)) type)
  | .float x => .error (.wrongType (.number (.float x)) type)

/-- The items of a value that is a list. -/
def itemsOf (items : List Json) : Items Json :=
  ⟨items, none, none, .wrongLength items.length "fewer elements in array"⟩

instance : ValueSource Json where
  string
    | .string s => .ok s
    | v => .error (.wrongType v.found "a string")
  bool
    | .bool b => .ok b
    | v => .error (.wrongType v.found "a boolean")
  double
    | .number n => .ok n.toBinary64
    | v => .error (.wrongType v.found "f64")
  word limit type
    | .number n => n.toWord limit type
    | v => .error (.wrongType v.found type)
  optional
    | .null => .ok none
    | v => .ok (some v)
  list
    | .array items => .ok (itemsOf items)
    | v => .error (.wrongType v.found "a sequence")
  record expected
    | .object members => .ok (.named (members.map fun (k, v) => (.ok k, v)) none)
    | .array items => .ok (.positional (itemsOf items))
    | v => .error (.wrongType v.found expected)
  choice meaning
    | .string name => meaning name
    | .object [(name, v)] => do
      let result ← meaning name
      match v with
      | .null => return result
      | v => throw (.wrongType v.found "unit")
    | .object _ => .error (.wrongValue .record "map with a single key")
    | v => .error (.wrongType v.found "string or map")
  skip _ := .ok ()
  value := .ok

end PromptChain.Json
