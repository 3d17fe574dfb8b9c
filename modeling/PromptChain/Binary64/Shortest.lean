import PromptChain.Binary64

/-!
# The shortest decimal

Among the decimals that round to a given number, the one with the fewest digits,
and of those the nearest (`Binary64.Finite.shortest`).

The decimals of `n` digits form a grid; if one of its points rounds to the number,
then so does one of the two points around the number. So it suffices to test these
two, for 1, 2, … up to 17 digits, which are always enough. All tests are exact, on
natural numbers.
-/

namespace PromptChain.Binary64

/-- Compare `c * 10 ^ p` with `b * 2 ^ f`. -/
def compareDecimal (c : Nat) (p : Int) (b : Nat) (f : Int) : Ordering :=
  compare ((c * tenTo p.toNat) <<< (-f).toNat) ((b * tenTo (-p).toNat) <<< f.toNat)

/-- Whether `c * 10 ^ p` rounds to `m * 2 ^ e`: it lies between the midpoints
    towards the two neighbours, or on one of them when `m` is even. Towards zero the
    grid is finer below a power of two, so that midpoint is closer. -/
def roundsTo (c : Nat) (p : Int) (m : Nat) (e : Int) : Bool :=
  let below := if m = gridSize && -1074 < e then 4 * m - 1 else 4 * m - 2
  let closed := m % 2 = 0
  (match compareDecimal c p below (e - 2) with
    | .lt => false
    | .eq => closed
    | .gt => true) &&
  (match compareDecimal c p (4 * m + 2) (e - 2) with
    | .lt => true
    | .eq => closed
    | .gt => false)

/-- The exponent of the first decimal digit of `num / den`. -/
def leadingExponent (num den : Nat) : Int :=
  if den ≤ num then (digitCount (num / den) : Int) - 1 else -(digitCount ((den - 1) / num) : Int)

/-- `num / den` divided by `10 ^ p`, rounded down. -/
def floorDecimal (num den : Nat) (p : Int) : Nat :=
  num * tenTo (-p).toNat / (den * tenTo p.toNat)

/-- The point of the grid of step `10 ^ p` that rounds to `m * 2 ^ e` and is nearest
    to it, if there is one. -/
def gridPoint? (m : Nat) (e : Int) (num den : Nat) (p : Int) : Option Nat :=
  let c := floorDecimal num den p
  match roundsTo c p m e, roundsTo (c + 1) p m e with
  | true, true =>
    match compare (2 * num * tenTo (-p).toNat) ((2 * c + 1) * den * tenTo p.toNat) with
    | .lt => some c
    | .gt => some (c + 1)
    | .eq => some (if c % 2 = 0 then c else c + 1)
  | true, false => some c
  | false, true => some (c + 1)
  | false, false => none

/-- Search the grids of step `10 ^ p`, `10 ^ (p - 1)`, … -/
def searchGrids (m : Nat) (e : Int) (num den : Nat) : Nat → Int → Nat × Int
  | 0, p => (floorDecimal num den p, p)
  | n + 1, p =>
    match gridPoint? m e num den p with
    | some c => (c, p)
    | none => searchGrids m e num den n (p - 1)

/-- The digits of `c * 10 ^ p` without the zeros at the end, most significant
    first, and the exponent of the first one. -/
def significantDigits (c : Nat) (p : Int) : List Char × Int :=
  let digits := Nat.toDigits 10 c
  ((digits.reverse.dropWhile (· = '0')).reverse, p + digits.length - 1)

/-- The digits of the shortest decimal that rounds to a number other than zero,
    and the exponent of the first one. -/
def Finite.shortest (x : Finite) : List Char × Int :=
  let (m, e) := x.parts
  let (num, den) := x.ratio
  let (c, p) := searchGrids m e num den 17 (leadingExponent num den)
  significantDigits c p

end PromptChain.Binary64
