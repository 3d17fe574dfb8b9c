import PromptChain.Json.Basic
import PromptChain.Json.Fault
import PromptChain.Binary64.Text

/-!
# Numbers in JSON text

A number is a sign, a whole part, and optionally a fraction and an exponent. One
with neither of these is an integer if it fits 64 bits; minus zero is not.

Any other number is floating-point. Its *significand* is made of the digits from
the front as long as they fit 64 bits; whole digits beyond count as tenfold steps,
digits of the fraction beyond do not count. The significand is rounded to a
floating-point number, and that is multiplied or divided by a rounded power of ten,
which rounds again. So the result may differ in the last bit from the number
nearest to the decimal.
-/

namespace PromptChain.Json

/-- A well-formed number. -/
structure NumberText where
  negative : Bool
  /-- The digits before the point. -/
  whole : List Char
  /-- The digits after the point, if there is one. -/
  fraction? : Option (List Char)
  /-- The exponent, if there is one. -/
  exponent? : Option Int
deriving DecidableEq, Repr

namespace NumberText

/-! ## Reading -/

/-- The fault of a missing digit: the text ends there, or goes on otherwise. -/
def digitMissing (rest : List Char) : Fault :=
  if rest.isEmpty then .numberCut else .numberMalformed

/-- Read at least one digit. -/
def readDigits (cs : List Char) : Except Fault (List Char × List Char) :=
  let digits := cs.takeWhile Char.isDigit
  if digits.isEmpty then .error (digitMissing cs) else .ok (digits, cs.dropWhile Char.isDigit)

/-- Read the whole part: one zero, or digits that start with another one. -/
def readWhole (cs : List Char) : Except Fault (List Char × List Char) := do
  let (digits, rest) ← readDigits cs
  if digits.head? = some '0' && digits.length ≠ 1 then .error .numberMalformed
  else .ok (digits, rest)

/-- Read the digits after a point, if there is one. -/
def readFraction : List Char → Except Fault (Option (List Char) × List Char)
  | '.' :: rest => do
    let (digits, rest) ← readDigits rest
    return (some digits, rest)
  | rest => .ok (none, rest)

/-- Read an exponent with its optional sign, if there is one. -/
def readExponent : List Char → Except Fault (Option Int × List Char)
  | [] => .ok (none, [])
  | c :: rest =>
    if c = 'e' || c = 'E' then do
      let (negative, rest) :=
        match rest with
        | '-' :: r => (true, r)
        | '+' :: r => (false, r)
        | r => (false, r)
      let (digits, rest) ← readDigits rest
      let n : Int := Binary64.digitsValue digits
      return (some (if negative then -n else n), rest)
    else .ok (none, c :: rest)

/-- Read a number; what follows it is given back. -/
def read (cs : List Char) : Except Fault (NumberText × List Char) := do
  let (negative, cs) :=
    match cs with
    | '-' :: r => (true, r)
    | r => (false, r)
  let (whole, cs) ← readWhole cs
  let (fraction?, cs) ← readFraction cs
  let (exponent?, cs) ← readExponent cs
  return (⟨negative, whole, fraction?, exponent?⟩, cs)

/-! ## Value -/

/-- Append digits to a significand as long as it fits 64 bits; the second result is
    the number of digits left over. -/
def appendDigits : Nat → List Char → Nat × Nat
  | n, [] => (n, 0)
  | n, c :: rest =>
    let m := 10 * n + (c.toNat - '0'.toNat)
    if m < UInt64.size then appendDigits m rest else (n, rest.length + 1)

/-- The largest power of ten that is a floating-point number. -/
def largestPower : Nat := 308

/-- `x` divided by `10 ^ n`, in steps of at most `10 ^ 308`, each rounded. -/
def dividedByPower (x : Binary64.Finite) (n : Nat) : Binary64.Finite :=
  if x.isZero then x
  else
    match x.overNat (Binary64.nearestNat (Binary64.tenTo (min n largestPower))) with
    | .finite y => if n ≤ largestPower then y else dividedByPower y (n - largestPower)
    | _ => x
termination_by n
decreasing_by simp only [largestPower] at *; omega

/-- `x` multiplied by `10 ^ n`, if that is finite. -/
def timesPower? (x : Binary64.Finite) (n : Nat) : Option Binary64.Finite :=
  if x.isZero then some x
  else if n ≤ largestPower then
    match x.timesNat (Binary64.nearestNat (Binary64.tenTo n)) with
    | .finite y => some y
    | _ => none
  else none

/-- The floating-point number `significand * 10 ^ exponent`, if it is finite. -/
def scaled? (negative : Bool) (significand : Nat) (exponent : Int) : Option Binary64.Finite :=
  match Binary64.ofRatio negative significand 1 with
  | .finite x =>
    if 0 ≤ exponent then timesPower? x exponent.toNat
    else some (dividedByPower x (-exponent).toNat)
  | _ => none

/-- The integer, if it fits 64 bits and is not minus zero. -/
def integer? (negative : Bool) (n : Nat) : Option WideInt :=
  if negative then
    if h : 0 < n ∧ n ≤ 0x8000000000000000 then some ⟨-n, by omega⟩ else none
  else if h : n < 0x10000000000000000 then some ⟨n, by omega⟩
  else none

/-- The value of a number. -/
def take (t : NumberText) : Except SyntaxError Number :=
  let (significand, left) := appendDigits 0 t.whole
  let isInteger := left = 0 && t.fraction?.isNone && t.exponent?.isNone
  match if isInteger then integer? t.negative significand else none with
  | some n => .ok (.int n)
  | none =>
    let fraction := t.fraction?.getD []
    let (significand, ignored) := appendDigits significand fraction
    let exponent := (left : Int) - (fraction.length - ignored : Nat) + t.exponent?.getD 0
    match scaled? t.negative significand exponent with
    | some x => .ok (.float x)
    | none => .error .outOfRange

end NumberText

end PromptChain.Json
