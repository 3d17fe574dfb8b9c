import PromptChain.Decode.Error

/-!
# Documents that typed values are read from

A `Source` is a type of documents, or parts of documents, from which typed values can
be read: a JSON value, JSON text as far as it reads, a node of a YAML document. The
class says how each kind of value is found in a part, in the order in which the part
is written, so that of two faults the one that comes first is reported.
-/

namespace PromptChain

/-- The items of a list, and the complaints that come after them. -/
structure Items (δ : Type) where
  /-- The items that can be read. -/
  items : List δ
  /-- The complaint when one more item is looked for after the last. -/
  next? : Option DecodeError
  /-- The complaint when the list is closed after the last item. -/
  close? : Option DecodeError
  /-- The complaint when the list is closed while there are items left. -/
  surplus : DecodeError

/-- The fields of a record, by name or by position. -/
inductive Fields (δ : Type) where
  /-- Keys with their values, and the complaint that comes after them. -/
  | named (members : List (Except DecodeError String × δ)) (end? : Option DecodeError)
  | positional (items : Items δ)

/-- A type of documents, or parts of them, from which typed values are read. -/
class Source (δ : Type) where
  /-- A text. -/
  string : δ → Except DecodeError String
  /-- A truth value. -/
  bool : δ → Except DecodeError Bool
  /-- A number. -/
  double : δ → Except DecodeError Binary64
  /-- A natural number below a limit; the text names the type of such numbers. -/
  word (limit : Nat) (type : String) : δ → Except DecodeError (Fin limit)
  /-- Nothing, or a part that is not nothing. -/
  optional : δ → Except DecodeError (Option δ)
  /-- The items of a list. -/
  list : δ → Except DecodeError (Items δ)
  /-- The fields of a record; the text says what is expected. -/
  record (expected : String) : δ → Except DecodeError (Fields δ)
  /-- What the name of an alternative stands for. -/
  choice {α : Type} (meaning : String → Except DecodeError α) : δ → Except DecodeError α
  /-- Nothing is wanted from the part. -/
  skip : δ → Except DecodeError Unit

/-- A type of documents whose parts also hold JSON values. -/
class ValueSource (δ : Type) extends Source δ where
  /-- A value of whatever type. -/
  value : δ → Except DecodeError Json

namespace Source

variable {δ : Type} [Source δ]

/-- Pass on a complaint, if there is one. -/
def check (complaint? : Option DecodeError) : Except DecodeError Unit :=
  match complaint? with
  | none => .ok ()
  | some complaint => .error complaint

/-- Nothing, or what is read from the part. -/
def optionally {α : Type} (read : δ → Except DecodeError α) (part : δ) :
    Except DecodeError (Option α) := do
  match ← optional part with
  | none => return none
  | some part => some <$> read part

/-- What is read from each item. -/
def readAll {α : Type} (read : δ → Except DecodeError α) : List δ → Except DecodeError (List α)
  | [] => .ok []
  | item :: rest => do
    let value ← read item
    return value :: (← readAll read rest)

/-- A list of what is read from its items. -/
def listOf {α : Type} (read : δ → Except DecodeError α) (part : δ) :
    Except DecodeError (List α) := do
  let items ← list part
  let values ← readAll read items.items
  check items.next?
  return values

/-- A natural number of 32 bits. -/
def word32 (part : δ) : Except DecodeError UInt32 := do
  return UInt32.ofFin (← word UInt32.size "u32" part)

/-- A natural number of 64 bits. -/
def word64 (part : δ) : Except DecodeError UInt64 := do
  return UInt64.ofFin (← word UInt64.size "u64" part)

/-- One of the named alternatives. All names are listed in the complaint about a name
    that is none of them. -/
def oneOf {α : Type} (names : List (String × α)) (part : δ) : Except DecodeError α :=
  choice (fun name =>
    match Json.lookup name names with
    | some value => .ok value
    | none => .error (.unknownVariant name (names.map Prod.fst))) part

end Source

end PromptChain
