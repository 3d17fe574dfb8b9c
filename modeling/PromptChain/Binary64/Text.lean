import PromptChain.Binary64.Shortest

/-!
# Numbers as text

Two ways to write a floating-point number, both from its shortest decimal: the
*data* form, that always shows it is no integer and takes an exponent far from one,
and the *prose* form, positional throughout. And the reading of a decimal as a
person writes it (`Binary64.ofText?`).
-/

namespace PromptChain.Binary64

/-- `d.ddd` from the digits and the exponent of the first one, padded by zeros up to
    the point; `whole` is what ends a number without a fraction. -/
def positional (whole : String) (digits : List Char) (exponent : Int) : String :=
  if exponent < 0 then
    "0." ++ String.ofList (List.replicate (-exponent - 1).toNat '0' ++ digits)
  else
    let n := exponent.toNat + 1
    if digits.length ≤ n then
      String.ofList (digits ++ List.replicate (n - digits.length) '0') ++ whole
    else String.ofList (digits.take n ++ '.' :: digits.drop n)

/-- `d.ddde±x` from the digits and the exponent of the first one. -/
def scientific (digits : List Char) (exponent : Int) : String :=
  let fraction := digits.drop 1
  String.ofList (digits.take 1 ++ (if fraction.isEmpty then [] else '.' :: fraction)) ++
    (if exponent < 0 then "e-" else "e+") ++ toString exponent.natAbs

/-- The exponents that the data form writes positionally. -/
def positionalExponent (exponent : Int) : Bool := -5 ≤ exponent && exponent ≤ 15

/-- The data form: positional, with at least one digit after the point, when the
    exponent is from -5 to 15, and scientific otherwise. -/
def Finite.dataText (x : Finite) : String :=
  (if x.negative then "-" else "") ++
    if x.isZero then "0.0"
    else
      let (digits, exponent) := x.shortest
      if positionalExponent exponent then positional ".0" digits exponent
      else scientific digits exponent

/-- The prose form: positional whatever the exponent, and without a point when there
    is no fraction. -/
def proseText : Binary64 → String
  | .finite x =>
    (if x.negative then "-" else "") ++
      if x.isZero then "0"
      else
        let (digits, exponent) := x.shortest
        positional "" digits exponent
  | .infinite negative => if negative then "-inf" else "inf"
  | .nan => "NaN"

/-! ## Reading -/

/-- The value of a run of decimal digits, most significant first. -/
def digitsValue (cs : List Char) : Nat :=
  cs.foldl (fun n c => 10 * n + (c.toNat - '0'.toNat)) 0

/-- The exponent after an `e`: an optional sign and at least one digit, to the end. -/
def exponentOf? (cs : List Char) : Option Int :=
  let (negative, digits) :=
    match cs with
    | '-' :: r => (true, r)
    | '+' :: r => (false, r)
    | r => (false, r)
  if digits.isEmpty || !digits.all Char.isDigit then none
  else some (if negative then -(digitsValue digits : Int) else digitsValue digits)

/-- A decimal without sign: digits with at most one point, at least one digit, and
    an optional exponent. -/
def ofDigits? (negative : Bool) (cs : List Char) : Option Binary64 :=
  let whole := cs.takeWhile Char.isDigit
  let rest := cs.dropWhile Char.isDigit
  let (fraction, rest) :=
    match rest with
    | '.' :: r => (r.takeWhile Char.isDigit, r.dropWhile Char.isDigit)
    | r => ([], r)
  if whole.isEmpty && fraction.isEmpty then none
  else
    let value exponent :=
      ofDecimal negative (digitsValue (whole ++ fraction)) (exponent - fraction.length)
    match rest with
    | [] => some (value 0)
    | c :: r => if c = 'e' || c = 'E' then (exponentOf? r).map value else none

/-- A number as a person writes it: a sign, then a decimal, or `inf`, `infinity` or
    `nan` in any case. -/
def ofText? (s : String) : Option Binary64 :=
  let (negative, rest) :=
    match s.toList with
    | '-' :: r => (true, r)
    | '+' :: r => (false, r)
    | r => (false, r)
  let word := String.ofList (rest.map Char.toLower)
  if word = "inf" || word = "infinity" then some (.infinite negative)
  else if word = "nan" then some .nan
  else ofDigits? negative rest

end PromptChain.Binary64
