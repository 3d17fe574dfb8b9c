import PromptChain.Json.StringText

/-!
# Percent-encoding

A character that may not stand in a part of a URL is written as its bytes in UTF-8,
each as a percent sign and two hexadecimal digits. Which characters those are differs
from part to part.
-/

namespace PromptChain.Url

/-! ## The characters to be encoded -/

/-- Control characters and all characters beyond ASCII. -/
def isControl (c : Char) : Bool := c.toNat < 0x20 || 0x7E < c.toNat

/-- The characters that are encoded in a fragment. -/
def encodedInFragment (c : Char) : Bool :=
  isControl c || c = ' ' || c = '"' || c = '<' || c = '>' || c = '`'

/-- The characters that are encoded in a path. -/
def encodedInPath (c : Char) : Bool :=
  encodedInFragment c || c = '#' || c = '?' || c = '\x7b' || c = '\x7d'

/-- The characters that are encoded in a user name or password. -/
def encodedInUser (c : Char) : Bool := encodedInPath c || "/:;=@[\\]^|".toList.contains c

/-- The characters that are encoded in a query. The apostrophe is one only in the URLs of
    some schemes. -/
def encodedInQuery (apostrophe : Bool) (c : Char) : Bool :=
  isControl c || c = ' ' || c = '"' || c = '#' || c = '<' || c = '>' || (apostrophe && c = '\'')

/-! ## Encoding -/

/-- A hexadecimal digit, in capitals. -/
def capitalHex (n : Nat) : Char :=
  if n < 10 then Char.ofNat ('0'.toNat + n) else Char.ofNat ('A'.toNat + (n - 10))

/-- The bytes of a character in UTF-8. -/
def bytesOf (c : Char) : List UInt8 := c.toString.toUTF8.toList

/-- A byte in its encoded form. -/
def encodeByte (byte : UInt8) : List Char :=
  ['%', capitalHex (byte.toNat / 16), capitalHex (byte.toNat % 16)]

/-- A text with some of its characters encoded. -/
def encode (isEncoded : Char → Bool) (text : List Char) : String :=
  String.ofList (text.flatMap fun c => if isEncoded c then (bytesOf c).flatMap encodeByte else [c])

/-! ## Decoding -/

/-- The bytes of a text, of which some are encoded. -/
def decodedBytes : List Char → List UInt8
  | '%' :: a :: b :: rest =>
    match Json.hexValue? a, Json.hexValue? b with
    | some m, some n => (16 * m + n).toUInt8 :: decodedBytes rest
    | _, _ => bytesOf '%' ++ decodedBytes (a :: b :: rest)
  | c :: rest => bytesOf c ++ decodedBytes rest
  | [] => []

/-- The text that a text with encoded characters stands for. -/
def decode? (text : List Char) : Option String :=
  String.fromUTF8? ⟨(decodedBytes text).toArray⟩

end PromptChain.Url
