import PromptChain.Json.StringText

/-!
# Internet addresses

An IPv4 address is written as up to four numbers in decimal, octal or hexadecimal
digits, the last of which fills what the others leave. An IPv6 address is written as
eight pieces in hexadecimal digits; one run of zeros may be left out, and the last two
pieces may be written as an IPv4 address.
-/

namespace PromptChain.Url

/-! ## IPv4 -/

/-- The number with the given digits in a base. -/
def digitsValue? (base : Nat) (digits : List Char) : Option Nat :=
  digits.foldlM (fun n c => do
    let d ← Json.hexValue? c
    if d < base then some (base * n + d) else none) 0

/-- A number of an IPv4 address. -/
def ipv4Number? : List Char → Option Nat
  | [] => none
  | '0' :: 'x' :: digits | '0' :: 'X' :: digits => digitsValue? 16 digits
  | '0' :: c :: digits => digitsValue? 8 (c :: digits)
  | digits => digitsValue? 10 digits

/-- The parts of a domain between its dots; a dot at the end does not count. -/
def domainParts (domain : String) : List String :=
  let parts := domain.splitOn "."
  if 1 < parts.length && parts.getLast? = some "" then parts.dropLast else parts

/-- Whether a domain ends in a number, and so must be an IPv4 address. -/
def endsInNumber (domain : String) : Bool :=
  match (domainParts domain).getLast? with
  | none => false
  | some last =>
    (!last.isEmpty && last.toList.all Char.isDigit) || (ipv4Number? last.toList).isSome

/-- The address with the given numbers. -/
def ipv4OfNumbers? (numbers : List Nat) : Option Nat :=
  match numbers.reverse with
  | [] => none
  | last :: others =>
    if 4 ≤ others.length || others.any (255 < ·) || 1 <<< (8 * (4 - others.length)) ≤ last then none
    else some (others.reverse.zipIdx.foldl (fun n (m, i) => n + m <<< (8 * (3 - i))) last)

/-- The address that a domain stands for. -/
def ipv4? (domain : String) : Option Nat := do
  ipv4OfNumbers? (← (domainParts domain).mapM fun part => ipv4Number? part.toList)

/-- The text of an address. -/
def ipv4Text (address : Nat) : String :=
  ".".intercalate ([3, 2, 1, 0].map fun i => toString (address >>> (8 * i) % 256))

/-! ## IPv6 -/

/-- A number of an IPv4 address inside an IPv6 address: decimal digits without a zero in
    front. -/
def smallNumber? (text : String) : Option Nat := do
  if text.isEmpty || (1 < text.length && text.toList.head? = some '0') then none
  let n ← digitsValue? 10 text.toList
  if n ≤ 255 then some n else none

/-- The two pieces that are written as an IPv4 address. -/
def lastPieces? (text : List Char) : Option (List Nat) := do
  match ← ((String.ofList text).splitOn ".").mapM smallNumber? with
  | [a, b, c, d] => some [256 * a + b, 256 * c + d]
  | _ => none

/-- Read on in an address after some pieces. The zeros that are left out, but one, belong
    after the first `gap?` pieces. -/
def readPieces : Nat → List Nat → (gap? : Option Nat) → List Char → Option (List Nat × Option Nat)
  | 0, _, _, _ => none
  | _ + 1, pieces, gap?, [] => some (pieces, gap?)
  | fuel + 1, pieces, gap?, c :: cs =>
    if pieces.length = 8 then none
    else if c = ':' then
      if gap?.isSome then none else readPieces fuel (pieces ++ [0]) (some (pieces.length + 1)) cs
    else
      let digits := ((c :: cs).take 4).takeWhile fun x => (Json.hexValue? x).isSome
      let piece := (digitsValue? 16 digits).getD 0
      match (c :: cs).drop digits.length with
      | [] => some (pieces ++ [piece], gap?)
      | '.' :: _ =>
        if digits.isEmpty || 6 < pieces.length then none
        else (lastPieces? (c :: cs)).map fun last => (pieces ++ last, gap?)
      | ':' :: rest => if rest.isEmpty then none else readPieces fuel (pieces ++ [piece]) gap? rest
      | _ => none

/-- The eight pieces of the address that a text stands for. -/
def ipv6? (text : List Char) : Option (List Nat) := do
  let (pieces, gap?) ←
    match text with
    | ':' :: ':' :: rest => readPieces (text.length + 1) [0] (some 1) rest
    | ':' :: _ => none
    | [_] | [] => none
    | _ => readPieces (text.length + 1) [] none text
  match gap? with
  | none => if pieces.length = 8 then some pieces else none
  | some gap => some (pieces.take gap ++ List.replicate (8 - pieces.length) 0 ++ pieces.drop gap)

/-- A number in hexadecimal digits. -/
def hexText (n : Nat) : String := String.ofList (Nat.toDigits 16 n)

/-- Where the first of the longest runs of zeros starts, and its length. -/
def longestZeros (pieces : List Nat) : Nat × Nat :=
  (List.range pieces.length).foldl (fun best i =>
    let n := ((pieces.drop i).takeWhile (· = 0)).length
    if best.2 < n then (i, n) else best) (0, 0)

/-- The text of an address, without its longest run of zeros. -/
def ipv6Text (pieces : List Nat) : String :=
  let text (pieces : List Nat) := ":".intercalate (pieces.map hexText)
  let (start, length) := longestZeros pieces
  if length < 2 then text pieces
  else text (pieces.take start) ++ "::" ++ text (pieces.drop (start + length))

end PromptChain.Url
