/-!
# Punycode

A label of a domain with characters beyond ASCII is written in ASCII: its ASCII
characters come first, then numbers say which of the others stand where. The others are
put in one after the other, in order of their code points; a number says how many
possible insertions are passed over before each.
-/

namespace PromptChain.Url.Punycode

/-- The digit with a value below 36. -/
def digit (n : Nat) : Char :=
  if n < 26 then Char.ofNat ('a'.toNat + n) else Char.ofNat ('0'.toNat + (n - 26))

/-- The value of a digit. -/
def digitValue? (c : Char) : Option Nat :=
  if 'a' ≤ c && c ≤ 'z' then some (c.toNat - 'a'.toNat)
  else if 'A' ≤ c && c ≤ 'Z' then some (c.toNat - 'A'.toNat)
  else if c.isDigit then some (c.toNat - '0'.toNat + 26)
  else none

/-- The threshold for the last digit of a number, at the digit with the weight index
    `k`. -/
def threshold (bias k : Nat) : Nat := min 26 (max 1 (k - bias))

/-- Scale a difference down. -/
def scale : Nat → Nat → Nat → Nat
  | 0, k, _ => k
  | fuel + 1, k, delta =>
    if 455 < delta then scale fuel (k + 36) (delta / 35) else k + 36 * delta / (delta + 38)

/-- The bias for the next number, after `delta` was written with `count` characters in
    place. -/
def adapt (delta count : Nat) (first : Bool) : Nat :=
  let delta := if first then delta / 700 else delta / 2
  let delta := delta + delta / count
  scale (delta + 1) 0 delta

/-- The digits of a number, from the one with the weight index `k` on. -/
def numberDigits (bias : Nat) : Nat → Nat → Nat → List Char
  | 0, _, _ => []
  | fuel + 1, k, n =>
    let t := threshold bias k
    if n < t then [digit n]
    else digit (t + (n - t) % (36 - t)) :: numberDigits bias fuel (k + 36) ((n - t) / (36 - t))

/-- How far a label has been written. -/
structure Writing where
  digits : List Char
  delta : Nat
  bias : Nat
  /-- The number of characters in place. -/
  count : Nat

/-- Pass a character of the label, while the ones with the code point `n` are put in.
    `basic` is the number of ASCII characters. -/
def Writing.pass (basic n : Nat) (w : Writing) (c : Char) : Writing :=
  if c.toNat < n then { w with delta := w.delta + 1 }
  else if c.toNat = n then
    { digits := w.digits ++ numberDigits w.bias (w.delta + 1) 36 w.delta
      delta := 0
      bias := adapt w.delta (w.count + 1) (w.count = basic)
      count := w.count + 1 }
  else w

/-- The characters of a label that are not in ASCII, without repetition and in order. -/
def others (label : List Char) : List Nat :=
  ((label.map Char.toNat).filter (0x80 ≤ ·)).mergeSort.eraseDups

/-- Put in the characters with the given code points, of which the least possible one is
    `least`. -/
def Writing.run (label : List Char) (basic : Nat) : List Nat → Nat → Writing → Writing
  | [], _, w => w
  | n :: rest, least, w =>
    let w := { w with delta := w.delta + (n - least) * (w.count + 1) }
    let w := label.foldl (Writing.pass basic n) w
    run label basic rest (n + 1) { w with delta := w.delta + 1 }

/-- The ASCII form of a label. -/
def encode (label : List Char) : List Char :=
  let basic := label.filter (·.toNat < 0x80)
  let w := Writing.run label basic.length (others label) 0x80 ⟨[], 0, 72, basic.length⟩
  basic ++ (if basic.isEmpty then [] else ['-']) ++ w.digits

/-- Read a number, whose digits have the weight `weight` from here on. -/
def readNumber (bias : Nat) : List Char → (k weight n : Nat) → Option (Nat × List Char)
  | [], _, _, _ => none
  | c :: rest, k, weight, n => do
    let d ← digitValue? c
    let t := threshold bias k
    let n := n + d * weight
    if UInt32.size ≤ n then none
    else if d < t then some (n, rest)
    else readNumber bias rest (k + 36) (weight * (36 - t)) n

/-- Put in characters as the digits say; the next one is at least the one with the code
    point `n`, and at least at the position `i`. -/
def insertAll : Nat → List Char → (n i bias : Nat) → List Char → Option (List Char)
  | 0, _, _, _, _, _ => none
  | _ + 1, label, _, _, _, [] => some label
  | fuel + 1, label, n, i, bias, digits => do
    let (next, rest) ← readNumber bias digits 36 1 i
    let count := label.length + 1
    let code := n + next / count
    let place := next % count
    if !code.isValidChar then none
    insertAll fuel (label.insertIdx place (Char.ofNat code)) code (place + 1)
      (adapt (next - i) count (i = 0)) rest

/-- The label with the given ASCII form. -/
def decode? (text : List Char) : Option (List Char) :=
  let digits := (text.reverse.takeWhile (· ≠ '-')).reverse
  let basic := (text.take (text.length - digits.length)).dropLast
  if text.any (0x80 ≤ ·.toNat) then none
  else insertAll (digits.length + 1) basic 0x80 0 72 digits

end PromptChain.Url.Punycode
