/-!
# Looking into texts

* `trimmed`: a text without the blanks at its ends, a blank being any character with the Unicode
  property White_Space;
* `cut?`: a text cut at the first place where a mark stands;
* `widest?`: the widest part of a text that one character opens and another closes;
* `count?`: the count that a text stands for. It is written in decimal digits, perhaps after a plus
  sign, and is limited in size.
-/

namespace PromptChain.Text

/-! ## Blanks -/

/-- The ranges of the characters with the Unicode property White_Space. -/
def blankRanges : List (Nat × Nat) :=
  [(0x09, 0x0D), (0x20, 0x20), (0x85, 0x85), (0xA0, 0xA0), (0x1680, 0x1680), (0x2000, 0x200A),
    (0x2028, 0x2029), (0x202F, 0x202F), (0x205F, 0x205F), (0x3000, 0x3000)]

/-- A character with the Unicode property White_Space. -/
def isBlank (c : Char) : Bool :=
  blankRanges.any fun (lo, hi) => lo ≤ c.toNat && c.toNat ≤ hi

/-- The text without the blanks at its ends. -/
def trim (cs : List Char) : List Char :=
  ((cs.dropWhile isBlank).reverse.dropWhile isBlank).reverse

/-- The string without the blanks at its ends. -/
def trimmed (s : String) : String :=
  String.ofList (trim s.toList)

/-! ## Cuts -/

/-- What follows the mark at the start of a text, if the text starts with it. -/
def after? : List Char → List Char → Option (List Char)
  | [], cs => some cs
  | _ :: _, [] => none
  | m :: ms, c :: cs => if m = c then after? ms cs else none

/-- What stands before and after the first occurrence of the mark. -/
def cut? (mark : List Char) : List Char → Option (List Char × List Char)
  | [] => (after? mark []).map fun rest => ([], rest)
  | c :: cs =>
    match after? mark (c :: cs) with
    | some rest => some ([], rest)
    | none => (cut? mark cs).map fun (before, rest) => (c :: before, rest)

/-- The part from the first `opening` to the last `closing`, if the former comes
    first. -/
def widest? (opening closing : Char) (cs : List Char) : Option (List Char) :=
  let started := cs.dropWhile (· ≠ opening)
  match (started.reverse.dropWhile (· ≠ closing)).reverse with
  | [] => none
  | part => some part

/-! ## Counts -/

/-- Why a text is no count. -/
inductive CountFault where
  | empty
  | invalidDigit
  | tooLarge
deriving DecidableEq, Repr

/-- The wording of a fault. -/
def CountFault.message : CountFault → String
  | empty => "cannot parse integer from empty string"
  | invalidDigit => "invalid digit found in string"
  | tooLarge => "number too large to fit in target type"

/-- Read decimal digits after the number `n`. Of two faults the first one counts. -/
def readCount (limit n : Nat) : List Char → Except CountFault Nat
  | [] => .ok n
  | c :: rest =>
    if c.isDigit then
      let next := 10 * n + (c.toNat - '0'.toNat)
      if next < limit then readCount limit next rest else .error .tooLarge
    else .error .invalidDigit

/-- The count below a limit that a text stands for. A sign alone is no count. -/
def count? (limit : Nat) (text : String) : Except CountFault Nat :=
  match text.toList with
  | [] => .error .empty
  | ['+'] | ['-'] => .error .invalidDigit
  | '+' :: digits => readCount limit 0 digits
  | digits => readCount limit 0 digits

end PromptChain.Text
