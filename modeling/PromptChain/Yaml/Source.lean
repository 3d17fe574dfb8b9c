import PromptChain.Binary64.Text
import PromptChain.Decode.Source
import PromptChain.Yaml.Document

/-!
# Typed values from YAML documents

Any scalar serves as a text. Only a plain scalar serves as nothing, a truth value or a
number, and a literal block that is tagged as such. Where nothing is written, there is
an empty list or record.

The name of an alternative is a scalar, or the tag of a node that is nothing else.
-/

namespace PromptChain.Yaml

/-- A part of a document: a node, or nothing, together with the nodes that aliases in it
    stand for. -/
structure Part where
  anchored : List (Nat × Node)
  node? : Option Node

/-- The whole of a document. -/
def Document.part (document : Document) : Part := ⟨document.anchored, document.root?⟩

namespace Part

/-- Another part of the same document. -/
def other (part : Part) (node : Node) : Part := { part with node? := some node }

/-- The node itself in the place of an alias. -/
def target (part : Part) : Part :=
  match part.node? with
  | some (.alias number) => { part with node? := List.lookup number part.anchored }
  | _ => part

/-- What a part is, for a complaint. -/
def found (part : Part) : Found :=
  match part.node? with
  | some (.scalar _ _ text) => .string text
  | some (.sequence ..) => .list
  | some (.mapping ..) => .record
  | _ => .null

/-- Complain that a part is not of the expected type. -/
def unexpected {α : Type} (expected : String) (part : Part) : Except DecodeError α :=
  .error (.wrongType part.found expected)

/-- Whether nothing is written in the place of the part. -/
def isNothing (part : Part) : Bool :=
  match part.node? with
  | none => true
  | some (.scalar _ .plain text) => text.isEmpty
  | _ => false

/-- The words for nothing. -/
def isNullWord (text : String) : Bool := ["null", "Null", "NULL", "~"].contains text

/-- The tag of a type that every document knows. -/
def coreTag (name : String) : String := "tag:yaml.org,2002:" ++ name

/-- The text of a scalar that may stand for a value of the type with the tag. -/
def wordOf? (name : String) (part : Part) : Option String :=
  match part.node? with
  | some (.scalar _ .plain text) => some text
  | some (.scalar (some tag) .literal text) => if tag = coreTag name then some text else none
  | _ => none

/-! ## Words -/

/-- The truth value that a word stands for. -/
def truthOf? (word : String) : Option Bool :=
  if ["true", "True", "TRUE"].contains word then some true
  else if ["false", "False", "FALSE"].contains word then some false
  else none

/-- The number that a word stands for. -/
def doubleOf? (word : String) : Option Binary64 :=
  let unsigned :=
    match word.toList with
    | '+' :: rest => rest
    | rest => rest
  if word.toList.head? = some '+' && (unsigned.head? = some '+' || unsigned.head? = some '-') then
    none
  else if [".inf", ".Inf", ".INF"].contains (String.ofList unsigned) then some (.infinite false)
  else if ["-.inf", "-.Inf", "-.INF"].contains word then some (.infinite true)
  else if [".nan", ".NaN", ".NAN"].contains word then some .nan
  else
    match Binary64.ofText? (String.ofList unsigned) with
    | some (.finite x) => some (.finite x)
    | _ => none

/-- The value of a digit, be it a letter. -/
def digitOf? (base : Nat) (c : Char) : Option Nat := do
  let n ← Json.hexValue? c
  if n < base then some n else none

/-- The number with the given digits in a base, at least one. -/
def digitsOf? (base : Nat) (digits : List Char) : Option Nat :=
  if digits.isEmpty then none
  else digits.foldlM (fun n c => (digitOf? base c).map (base * n + ·)) 0

/-- The natural number that a word stands for. Decimal digits after a zero stand for no
    number. -/
def wordNumber? (word : String) : Option Nat :=
  let unsigned :=
    match word.toList with
    | '+' :: rest => rest
    | rest => rest
  match unsigned with
  | '0' :: 'x' :: digits => digitsOf? 16 digits
  | '0' :: 'o' :: digits => digitsOf? 8 digits
  | '0' :: 'b' :: digits => digitsOf? 2 digits
  | ['0'] => some 0
  | '0' :: _ => none
  | digits => digitsOf? 10 digits

/-! ## The instance -/

/-- Whether a node is there but stands for nothing; a complaint if it is tagged as nothing
    and is something. -/
def isNull (tag? : Option String) (style : Style) (text : String) : Except DecodeError Bool :=
  match style, tag? with
  | .plain, none => .ok (text.isEmpty || isNullWord text)
  | .plain, some tag =>
    if tag ≠ coreTag "null" then .ok false
    else if isNullWord text then .ok true
    else .error (.wrongValue (.string text) "null")
  | _, _ => .ok false

/-- The name of an alternative that a tag gives. -/
def alternative? (tag? : Option String) : Option String := do
  match (← tag?).toList with
  | ['!'] => some "!"
  | '!' :: name => some (String.ofList name)
  | _ => none

/-- The tag of a node. -/
def tag? (part : Part) : Option String :=
  match part.node? with
  | some (.scalar tag? ..) | some (.sequence tag? _) | some (.mapping tag? _) => tag?
  | _ => none

/-- An alternative has no content. -/
def checkUnit (part : Part) : Except DecodeError Unit :=
  match part.node? with
  | some (.scalar _ .plain text) =>
    if text.isEmpty || isNullWord text then .ok () else part.unexpected "unit"
  | _ => part.unexpected "unit"

instance : Source Part where
  string part :=
    match part.target.node? with
    | some (.scalar _ _ text) => .ok text
    | _ => part.target.unexpected "a string"
  bool part :=
    match (wordOf? "bool" part.target).bind truthOf? with
    | some b => .ok b
    | none => part.target.unexpected "a boolean"
  double part :=
    match (wordOf? "float" part.target).bind doubleOf? with
    | some x => .ok x
    | none => part.target.unexpected "f64"
  word limit type part :=
    match (wordOf? "int" part.target).bind wordNumber? with
    | some n =>
      if h : n < limit then .ok ⟨n, h⟩ else .error (.wrongValue part.target.found type)
    | none => part.target.unexpected type
  optional part :=
    match part.target.node? with
    | none => .ok none
    | some (.scalar tag? style text) => do
      return if ← isNull tag? style text then none else some part.target
    | some _ => .ok (some part.target)
  list part :=
    match part.target.node? with
    | some (.sequence _ items) =>
      .ok ⟨items.map part.other, none, none, .wrongLength items.length "a sequence"⟩
    | _ =>
      if part.target.isNothing then .ok ⟨[], none, none, .wrongLength 0 "a sequence"⟩
      else part.target.unexpected "a sequence"
  record expected part :=
    match part.target.node? with
    | some (.mapping _ entries) =>
      .ok (.named (entries.map fun (key, value) =>
        (match (part.other key).target.node? with
          | some (.scalar _ _ text) => .ok text
          | _ => (part.other key).target.unexpected "field identifier", part.other value)) none)
    | _ =>
      if part.target.isNothing then .ok (.named [] none) else part.target.unexpected expected
  choice meaning part :=
    match alternative? part.target.tag?, part.target.node? with
    | some name, _ => do
      let result ← meaning name
      part.target.checkUnit
      return result
    | none, some (.scalar _ _ text) => meaning text
    | none, _ => part.target.unexpected "a YAML tag starting with '!'"
  skip _ := .ok ()

end Part

/-! ## Texts -/

/-- Why no typed value can be read from a text. -/
inductive Fault where
  /-- The text is no document. -/
  | malformed
  /-- The document holds something else. -/
  | unfit (cause : DecodeError)
deriving DecidableEq, Repr

/-- The wording of a fault. -/
def Fault.message : Fault → String
  | malformed => "the text is not a YAML document"
  | unfit cause => cause.message

/-- Read a typed value from the document that is the whole of a text. -/
def decodeText {α : Type} (decode : Part → Except DecodeError α) (text : String) :
    Except Fault α :=
  match Document.ofText? text with
  | none => .error .malformed
  | some document =>
    match decode document.part with
    | .ok value => .ok value
    | .error cause => .error (.unfit cause)

end PromptChain.Yaml
