import PromptChain.Decode.Source

/-!
# Reading records

A record type is described by its `Slot`s: the fields with their names, and what
reading one does to the record under construction. The fields of a document come by
name, in any order, each at most once, among others that are passed over; or by
position, as a list in the order of the slots.
-/

namespace PromptChain

/-- A field of a record type `σ`. -/
structure Slot (δ σ : Type) where
  name : String
  /-- The other names under which the field may be given. -/
  aliases : List String
  /-- Whether the field must be given. -/
  required : Bool
  /-- Read the field, and say how it changes the record. -/
  read : δ → Except DecodeError (σ → σ)

namespace Slot

variable {δ σ : Type}

/-- A field that must be given. -/
def needed {α : Type} (name : String) (aliases : List String) (read : δ → Except DecodeError α)
    (set : α → σ → σ) : Slot δ σ :=
  ⟨name, aliases, true, fun part => set <$> read part⟩

/-- A field that may be left out. -/
def optional {α : Type} (name : String) (aliases : List String)
    (read : δ → Except DecodeError α) (set : α → σ → σ) : Slot δ σ :=
  ⟨name, aliases, false, fun part => set <$> read part⟩

/-- Whether the field may be given under a name. -/
def goesBy (slot : Slot δ σ) (name : String) : Bool :=
  slot.name == name || slot.aliases.contains name

end Slot

namespace Source

variable {δ σ : Type} [Source δ]

/-- Read the fields that come by name. The first component collects the names of the
    slots that have been given. -/
def fillNamed (slots : List (Slot δ σ)) :
    List (Except DecodeError String × δ) → List String → σ → Except DecodeError (List String × σ)
  | [], given, record => .ok (given, record)
  | (key, part) :: rest, given, record => do
    match slots.find? (·.goesBy (← key)) with
    | none =>
      skip part
      fillNamed slots rest given record
    | some slot =>
      if given.contains slot.name then throw (.duplicateField slot.name)
      let change ← slot.read part
      fillNamed slots rest (slot.name :: given) (change record)

/-- Complain about the first slot that is required and not given. -/
def checkGiven (slots : List (Slot δ σ)) (given : List String) : Except DecodeError Unit :=
  match slots.find? fun slot => slot.required && !given.contains slot.name with
  | none => .ok ()
  | some slot => .error (.missingField slot.name)

/-- Read the fields that come by position, the next one being at `position`; what is
    expected in all is for the complaint about too few. The items left over are given
    back. -/
def fillPositional (expected : String) (next? : Option DecodeError) :
    List (Slot δ σ) → List δ → Nat → σ → Except DecodeError (List δ × σ)
  | [], items, _, record => .ok (items, record)
  | slot :: slots, [], position, record => do
    check next?
    if slot.required then throw (.wrongLength position expected)
    fillPositional expected next? slots [] (position + 1) record
  | slot :: slots, item :: items, position, record => do
    let change ← slot.read item
    fillPositional expected next? slots items (position + 1) (change record)

/-- Read a record with the given slots, starting from `initial`. -/
def recordOf (name : String) (slots : List (Slot δ σ)) (initial : σ) (part : δ) :
    Except DecodeError σ := do
  match ← record ("struct " ++ name) part with
  | .named members end? =>
    let (given, value) ← fillNamed slots members [] initial
    check end?
    checkGiven slots given
    return value
  | .positional items =>
    let expected := "struct " ++ name ++ " with " ++ toString slots.length ++ " elements"
    let (left, value) ← fillPositional expected items.next? slots items.items 0 initial
    if left.isEmpty then check items.close? else throw items.surplus
    return value

end Source

end PromptChain
