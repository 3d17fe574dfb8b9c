import PromptChain.Binary64
import PromptChain.Text.Basic

/-!
# JSON values

A number is an integer of 64 bits, signed or unsigned, or a finite floating-point
number; the two are never equal. An object is a list of members in the order in
which their keys first appeared.

Nothing in the type keeps an object from repeating a key. What reads and what
builds values goes through `insert`, where a repeated key keeps its place and takes
the new value.

A pointer is a list of steps into a value (`pointer?`). A step names a member of an
object, or counts an item of an array.
-/

namespace PromptChain

/-- The integers that fit 64 bits, signed or unsigned. -/
abbrev Json.WideInt := { n : Int // -0x8000000000000000 ≤ n ∧ n < 0x10000000000000000 }

/-- A JSON number. -/
inductive Json.Number where
  | int (n : Json.WideInt)
  | float (x : Binary64.Finite)
deriving DecidableEq, Repr

/-- A JSON value. -/
inductive Json where
  | null
  | bool (b : Bool)
  | number (n : Json.Number)
  | string (s : String)
  | array (items : List Json)
  | object (members : List (String × Json))
deriving Repr

namespace Json

instance : Inhabited Json := ⟨.null⟩

/-- The value under a key in a list of members, the first one if it is repeated. -/
def lookup {α : Type} (key : String) : List (String × α) → Option α
  | [] => none
  | (k, v) :: rest => if k = key then some v else lookup key rest

/-- Put a value under a key: in the place of the value it had, or else at the end. -/
def insert {α : Type} (key : String) (value : α) : List (String × α) → List (String × α)
  | [] => [(key, value)]
  | (k, v) :: rest => if k = key then (key, value) :: rest else (k, v) :: insert key value rest

/-- The members after putting all the given ones in turn, starting from none. -/
def inserted {α : Type} (members : List (String × α)) : List (String × α) :=
  members.foldl (fun done (k, v) => insert k v done) []

/-! ## Looking into a value -/

/-- The member of an object under a key. -/
def get? (key : String) : Json → Option Json
  | .object members => lookup key members
  | _ => none

/-- The text of a string. -/
def string? : Json → Option String
  | .string s => some s
  | _ => none

/-- The truth value of a boolean. -/
def bool? : Json → Option Bool
  | .bool b => some b
  | _ => none

/-- The items of an array. -/
def items? : Json → Option (List Json)
  | .array items => some items
  | _ => none

/-- The members of an object. -/
def members? : Json → Option (List (String × Json))
  | .object members => some members
  | _ => none

/-! ## Equality

Two values are the same when they differ at most in the order of members and in the
sign of a zero. Equality itself is decided, too. -/

/-- The same number: both integers or both floating-point, and equal. -/
def Number.same : Number → Number → Bool
  | .int m, .int n => m = n
  | .float x, .float y => x.place = y.place
  | _, _ => false

mutual

/-- The same value, up to the order of members and the sign of a zero. -/
def same : Json → Json → Bool
  | .null, .null => true
  | .bool a, .bool b => a == b
  | .number a, .number b => a.same b
  | .string a, .string b => a == b
  | .array a, .array b => sameItems a b
  | .object a, .object b => a.length == b.length && sameMembers a b
  | _, _ => false

/-- The same items in the same order. -/
def sameItems : List Json → List Json → Bool
  | [], [] => true
  | a :: as, b :: bs => same a b && sameItems as bs
  | _, _ => false

/-- Every member on the left has the same value on the right. -/
def sameMembers : List (String × Json) → List (String × Json) → Bool
  | [], _ => true
  | (k, a) :: rest, b =>
    (match lookup k b with
      | some v => same a v
      | none => false) && sameMembers rest b

end

/-- Whether a value is the same as one of the list. -/
def among (value : Json) (values : List Json) : Bool :=
  values.any (same value ·)

mutual

/-- The same value to the letter. -/
def equal : Json → Json → Bool
  | .null, .null => true
  | .bool a, .bool b => a = b
  | .number a, .number b => a = b
  | .string a, .string b => a = b
  | .array a, .array b => equalItems a b
  | .object a, .object b => equalMembers a b
  | _, _ => false

/-- Equal items in the same order. -/
def equalItems : List Json → List Json → Bool
  | [], [] => true
  | a :: as, b :: bs => equal a b && equalItems as bs
  | _, _ => false

/-- Equal members in the same order. -/
def equalMembers : List (String × Json) → List (String × Json) → Bool
  | [], [] => true
  | (k, a) :: as, (l, b) :: bs => k = l && equal a b && equalMembers as bs
  | _, _ => false

end

mutual

theorem equal_iff (a b : Json) : equal a b = true ↔ a = b := by
  cases a with
  | null | bool | number | string => cases b <;> simp [equal]
  | array items => cases b <;> simp [equal, equalItems_iff items]
  | object members => cases b <;> simp [equal, equalMembers_iff members]

theorem equalItems_iff (as bs : List Json) : equalItems as bs = true ↔ as = bs := by
  cases as with
  | nil => cases bs <;> simp [equalItems]
  | cons a as => cases bs <;> simp [equalItems, equal_iff a, equalItems_iff as]

theorem equalMembers_iff (as bs : List (String × Json)) :
    equalMembers as bs = true ↔ as = bs := by
  cases as with
  | nil => cases bs <;> simp [equalMembers]
  | cons member as =>
    obtain ⟨k, a⟩ := member
    cases bs <;> simp [equalMembers, equal_iff a, equalMembers_iff as, Prod.ext_iff]

end

instance : DecidableEq Json := fun a b => decidable_of_iff (equal a b = true) (equal_iff a b)

/-! ## Pointers -/

/-- The position that a step counts: decimal digits without a sign or a zero in front. -/
def position? (step : String) : Option Nat :=
  match step.toList with
  | '+' :: _ | '0' :: _ :: _ => none
  | _ => (Text.count? UInt64.size step).toOption

/-- The part of a value that a step leads to. -/
def step? (value : Json) (step : String) : Option Json :=
  match value with
  | .object members => lookup step members
  | .array items => (position? step).bind (items[·]?)
  | _ => none

/-- The part of a value that a pointer leads to. -/
def pointer? (steps : List String) (value : Json) : Option Json := steps.foldlM step? value

/-! ## Building values -/

/-- A number of 64 bits. -/
def ofWord (n : UInt64) : Json :=
  .number (.int ⟨n.toNat, by have := n.toNat_lt; omega⟩)

/-- A floating-point number; one that is not finite is null. -/
def ofBinary64 : Binary64 → Json
  | .finite x => .number (.float x)
  | _ => .null

/-- A list of texts. -/
def ofStrings (texts : List String) : Json := .array (texts.map .string)

/-- A member that is left out when there is no value. -/
def optionally (key : String) (value : Option Json) : List (String × Json) :=
  (value.map fun v => (key, v)).toList

/-- The value, or null. -/
def orNull (value : Option Json) : Json := value.getD .null

end Json

end PromptChain
