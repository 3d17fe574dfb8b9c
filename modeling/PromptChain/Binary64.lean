/-!
# Binary floating-point numbers of 64 bits

A finite number is a sign and a *rank*, its place among the non-negative ones
in increasing order: rank 0 is zero, rank 1 the smallest positive number
`2 ^ (-1074)`. The first `2 ^ 52` ranks share the grid of step `2 ^ (-1074)`, and
each following run of `2 ^ 52` ranks has a grid twice as coarse as the one before.
So every number has one representation only (zero has two, one for each sign),
and comparing magnitudes is comparing ranks.

All arithmetic is exact, on natural numbers, followed by one rounding to the
nearest number, a tie going to the even rank (`Binary64.ofRatio`).
-/

namespace PromptChain

/-- The number of ranks that share a grid, `2 ^ 52`. -/
def Binary64.gridSize : Nat := 0x10000000000000

/-- A finite floating-point number: its sign, and its place among the
    non-negative ones. -/
structure Binary64.Finite where
  /-- Whether it is negative (or the negative zero). -/
  negative : Bool
  /-- Its place among the non-negative numbers. -/
  rank : Fin (2047 * Binary64.gridSize)
deriving DecidableEq, Repr

/-- A floating-point number. -/
inductive Binary64 where
  | finite (x : Binary64.Finite)
  | infinite (negative : Bool)
  | nan
deriving DecidableEq, Repr

namespace Binary64

namespace Finite

/-- The magnitude as `significand * 2 ^ exponent`, the significand being below
    `2 ^ 53`. -/
def parts (x : Finite) : Nat × Int :=
  if x.rank.val < gridSize then (x.rank.val, -1074)
  else (gridSize + x.rank.val % gridSize, (x.rank.val / gridSize : Nat) - 1075)

/-- The magnitude as a quotient of natural numbers. -/
def ratio (x : Finite) : Nat × Nat :=
  let (m, e) := x.parts
  if 0 ≤ e then (m <<< e.toNat, 1) else (m, 1 <<< (-e).toNat)

/-- The place on the number line; both zeros are at 0. -/
def place (x : Finite) : Int :=
  if x.negative then -(x.rank.val : Int) else x.rank.val

/-- Zero of either sign. -/
def isZero (x : Finite) : Bool := x.rank.val = 0

end Finite

/-- The number of the given sign and rank, infinite when no finite number has the
    rank. -/
def ofRank (negative : Bool) (rank : Nat) : Binary64 :=
  if h : rank < 2047 * gridSize then .finite ⟨negative, rank, h⟩ else .infinite negative

/-- `num / den` rounded to the nearest natural number, a tie to the even one. -/
def roundDiv (num den : Nat) : Nat :=
  let q := num / den
  let r := num % den
  if den < 2 * r || (2 * r = den && q % 2 = 1) then q + 1 else q

/-- `num / den` divided by `2 ^ e`, as a quotient. -/
def scaled (num den : Nat) (e : Int) : Nat × Nat :=
  if 0 ≤ e then (num, den <<< e.toNat) else (num <<< (-e).toNat, den)

/-- The exponent of the grid on which `num / den` is rounded: there its
    significand has 53 bits, unless that grid would be finer than the finest. -/
def gridExponent (num den : Nat) : Int :=
  let e : Int := (num.log2 : Int) - den.log2 - 52
  let (n, d) := scaled num den e
  max (if n / d < gridSize then e - 1 else e) (-1074)

/-- The number nearest to `num / den`, with the given sign. -/
def ofRatio (negative : Bool) (num den : Nat) : Binary64 :=
  if num = 0 then ofRank negative 0
  else
    let e := gridExponent num den
    let (n, d) := scaled num den e
    ofRank negative ((e + 1074).toNat * gridSize + roundDiv n d)

/-- The number nearest to an integer. -/
def ofInt (n : Int) : Binary64 := ofRatio (n < 0) n.natAbs 1

/-- The natural number nearest to `n` with 53 significant bits: a natural number
    that is a floating-point number, if not too large. -/
def nearestNat (n : Nat) : Nat :=
  let step := 1 <<< (n.log2 - 52)
  roundDiv n step * step

/-- The number nearest to `x * n`. -/
def Finite.timesNat (x : Finite) (n : Nat) : Binary64 :=
  let (num, den) := x.ratio
  ofRatio x.negative (num * n) den

/-- The number nearest to `x / n`, for a positive `n`. -/
def Finite.overNat (x : Finite) (n : Nat) : Binary64 :=
  let (num, den) := x.ratio
  ofRatio x.negative num (den * n)

/-- `10 ^ n`. -/
def tenTo (n : Nat) : Nat := Nat.pow 10 n

/-- The number of decimal digits of a natural number (one for 0). -/
def digitCount (n : Nat) : Nat := (Nat.toDigits 10 n).length

/-- The number nearest to `digits * 10 ^ exponent`. Beyond `10 ^ 309` all is
    infinite and below `10 ^ (-324)` all is zero, so no larger power is ever
    computed. -/
def ofDecimal (negative : Bool) (digits : Nat) (exponent : Int) : Binary64 :=
  let size := (digitCount digits : Int) + exponent
  if digits = 0 || size < -323 then ofRank negative 0
  else if 309 < size then .infinite negative
  else if 0 ≤ exponent then ofRatio negative (digits * tenTo exponent.toNat) 1
  else ofRatio negative digits (tenTo (-exponent).toNat)

/-- The place on the number line, the infinite ones being beyond all others. -/
def place? : Binary64 → Option Int
  | .finite x => some x.place
  | .infinite true => some (-(2047 * gridSize : Nat))
  | .infinite false => some (2047 * gridSize : Nat)
  | .nan => none

/-- At most, on the number line; false as soon as one is not a number. -/
def le (x y : Binary64) : Bool :=
  match x.place?, y.place? with
  | some a, some b => a ≤ b
  | _, _ => false

end Binary64

end PromptChain
