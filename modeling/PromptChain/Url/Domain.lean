import PromptChain.Url.Percent
import PromptChain.Url.Punycode

/-!
# Domains

A domain is a list of labels with dots between them. It is normalised to small letters
and to ASCII, where a label with characters beyond ASCII is written in Punycode after
`xn--`.
-/

namespace PromptChain.Url

/-- Characters of ASCII that no domain may have. -/
def isForbidden (c : Char) : Bool :=
  c.toNat ≤ 0x20 || c.toNat = 0x7F || "#%/:<>?@[\\]^|".toList.contains c

/-- Ranges of code points in which every letter has its small letter at the same
    distance: the first, the last, and the distance. -/
def shiftedLetters : List (Nat × Nat × Nat) :=
  [(0xC0, 0xD6, 32), (0xD8, 0xDE, 32), (0x386, 0x386, 38), (0x388, 0x38A, 37),
    (0x38C, 0x38C, 64), (0x38E, 0x38F, 63), (0x391, 0x3A1, 32), (0x3A3, 0x3AB, 32),
    (0x400, 0x40F, 80), (0x410, 0x42F, 32), (0x531, 0x556, 48)]

/-- Ranges of code points in which capital and small letters alternate, starting with a
    capital one. -/
def alternatingLetters : List (Nat × Nat) :=
  [(0x100, 0x12F), (0x132, 0x137), (0x139, 0x148), (0x14A, 0x177), (0x179, 0x17E),
    (0x460, 0x481), (0x48A, 0x4BF), (0x4C1, 0x4CE), (0x4D0, 0x52F), (0x1E00, 0x1E95),
    (0x1EA0, 0x1EFF)]

/-- Ranges of code points that are left out of domains. -/
def ignoredRanges : List (Nat × Nat) :=
  [(0xAD, 0xAD), (0x34F, 0x34F), (0x180B, 0x180D), (0x180F, 0x180F), (0x200B, 0x200B),
    (0x2060, 0x2060), (0x2064, 0x2064), (0xFE00, 0xFE0F), (0xFEFF, 0xFEFF)]

/-- Ranges of code points that no domain may have: controls, blanks, marks of direction,
    private characters. -/
def refusedRanges : List (Nat × Nat) :=
  [(0x80, 0xA0), (0x1680, 0x1680), (0x180E, 0x180E), (0x2000, 0x200A), (0x200E, 0x200F),
    (0x2024, 0x2026), (0x2028, 0x202F), (0x205F, 0x205F), (0x2061, 0x2063), (0x2065, 0x206F),
    (0x2FF0, 0x2FFF), (0x3000, 0x3000), (0xE000, 0xF8FF), (0xFDD0, 0xFDEF), (0xFFF0, 0xFFFF),
    (0xE0000, 0xE0FFF), (0xF0000, 0x10FFFF)]

/-- Whether a code point is in one of some ranges. -/
def inRanges (ranges : List (Nat × Nat)) (n : Nat) : Bool :=
  ranges.any fun (first, last) => first ≤ n && n ≤ last

/-- The small letter of a character beyond ASCII, if it is a capital one. -/
def smallLetter (n : Nat) : Nat :=
  match shiftedLetters.find? fun (first, last, _) => first ≤ n && n ≤ last with
  | some (_, _, distance) => n + distance
  | none =>
    match alternatingLetters.find? fun (first, last) => first ≤ n && n ≤ last with
    | some (first, _) => n + (1 - (n - first) % 2)
    | none => if n = 0x178 then 0xFF else n

/-- What a character of a domain is normalised to; nothing, if it may not stand there. -/
def normalise (c : Char) : Option (List Char) :=
  let n := c.toNat
  if n < 0x80 then some [c.toLower]
  else if n = 0x3002 || n = 0xFF0E || n = 0xFF61 then some ['.']
  else if 0xFF01 ≤ n && n ≤ 0xFF5E then some [(Char.ofNat (n - 0xFEE0)).toLower]
  else if inRanges ignoredRanges n then some []
  else if inRanges refusedRanges n then none
  else some [Char.ofNat (smallLetter n)]

/-- Whether a label that is written in Punycode stands for a label that is written so in
    its normal form. -/
def isPunycode (text : List Char) : Bool :=
  match Punycode.decode? text with
  | none => false
  | some label =>
    label.any (0x80 ≤ ·.toNat) &&
      label.all fun c => !isForbidden c && c ≠ '.' && normalise c = some [c]

/-- The ASCII form of a normalised label. -/
def label? (label : List Char) : Option (List Char) :=
  if label.any isForbidden then none
  else if label.all (·.toNat < 0x80) then
    if label.take 4 = "xn--".toList && !isPunycode (label.drop 4) then none else some label
  else if label.take 4 = "xn--".toList then none
  else some ("xn--".toList ++ Punycode.encode label)

/-- The normal form of a domain, of whose characters some may be percent-encoded. -/
def domain? (text : List Char) : Option String := do
  let characters ← (← decode? text).toList.mapM normalise
  let labels ← ((String.ofList characters.flatten).splitOn ".").mapM fun l => label? l.toList
  return String.ofList (['.'].intercalate labels)

end PromptChain.Url
