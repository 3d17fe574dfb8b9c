import PromptChain.Json.Fault

/-!
# Strings in JSON text

A string is read into *pieces*: characters that stand for themselves, and units of
16 bits given by number. Whether the units pair up to characters matters only to the
reader who takes the string (`StringText.take`); to skip it, the pieces are enough.
-/

namespace PromptChain.Json

/-- A piece of a string. -/
inductive Piece where
  /-- A character written as itself or by a short escape. -/
  | char (c : Char)
  /-- A unit of 16 bits written by its number. -/
  | unit (n : UInt16)
deriving DecidableEq, Repr

/-- A string as far as it reads. -/
structure StringText where
  /-- The pieces in order. -/
  pieces : List Piece
  /-- What ends it in place of the closing quote. -/
  fault? : Option Fault
deriving DecidableEq, Repr

/-- The character that a short escape stands for. -/
def shortEscape? (c : Char) : Option Char :=
  if c = '"' || c = '\\' || c = '/' then some c
  else if c = 'b' then some '\x08'
  else if c = 'f' then some '\x0c'
  else if c = 'n' then some '\n'
  else if c = 'r' then some '\r'
  else if c = 't' then some '\t'
  else none

/-- The value of a hexadecimal digit. -/
def hexValue? (c : Char) : Option Nat :=
  if '0' ≤ c && c ≤ '9' then some (c.toNat - '0'.toNat)
  else if 'a' ≤ c && c ≤ 'f' then some (c.toNat - 'a'.toNat + 10)
  else if 'A' ≤ c && c ≤ 'F' then some (c.toNat - 'A'.toNat + 10)
  else none

/-- The unit with the given hexadecimal digits. -/
def unitOf? (a b c d : Char) : Option UInt16 := do
  let n := (← hexValue? a) * 4096 + (← hexValue? b) * 256 + (← hexValue? c) * 16 + (← hexValue? d)
  return n.toUInt16

/-- The number of bytes of a text in UTF-8. -/
def byteCount : List Char → Nat
  | [] => 0
  | c :: cs => c.utf8Size + byteCount cs

/-- Put a piece in front of what is read after it. -/
def StringText.andThen (piece : Piece) :
    StringText × Option (List Char) → StringText × Option (List Char)
  | (s, rest?) => ({ s with pieces := piece :: s.pieces }, rest?)

/-- Read a string after its opening quote; what follows the closing one is given
    back. An escape by number that the end of the text cuts short, that is, with fewer
    than four bytes to come, is the end of the text inside the string. -/
def StringText.read : List Char → StringText × Option (List Char)
  | [] => (⟨[], some .stringCut⟩, none)
  | '"' :: rest => (⟨[], none⟩, some rest)
  | '\\' :: 'u' :: a :: b :: c :: d :: rest =>
    match unitOf? a b c d with
    | some n => andThen (.unit n) (StringText.read rest)
    | none => (⟨[], some .badHexDigits⟩, none)
  | '\\' :: 'u' :: rest =>
    (⟨[], some (if byteCount rest < 4 then .stringCut else .badHexDigits)⟩, none)
  | '\\' :: c :: rest =>
    match shortEscape? c with
    | some e => andThen (.char e) (StringText.read rest)
    | none => (⟨[], some .unknownEscape⟩, none)
  | ['\\'] => (⟨[], some .stringCut⟩, none)
  | c :: rest =>
    if c.toNat < 0x20 then (⟨[], some .controlCharacter⟩, none)
    else andThen (.char c) (StringText.read rest)

/-! ## Taking a string -/

/-- A unit that opens a pair. -/
def opensPair (n : UInt16) : Bool := 0xD800 ≤ n && n ≤ 0xDBFF

/-- A unit that closes a pair. -/
def closesPair (n : UInt16) : Bool := 0xDC00 ≤ n && n ≤ 0xDFFF

/-- The character that a pair of units stands for. -/
def pairChar (m n : UInt16) : Char :=
  Char.ofNat ((m.toNat - 0xD800) * 0x400 + (n.toNat - 0xDC00) + 0x10000)

/-- The complaint about an opening unit at the end of what reads, by what stands
    there. -/
def unpaired : Option Fault → SyntaxError
  | some .stringCut => .endInString
  | some .badHexDigits => .invalidEscape
  | _ => .halfSurrogatePair

/-- The characters of the pieces, if every opening unit has its closing one. -/
def joinPieces (fault? : Option Fault) : List Piece → Except SyntaxError (List Char)
  | [] =>
    match fault? with
    | none => .ok []
    | some fault => .error fault.whenTaken
  | .char c :: rest => (c :: ·) <$> joinPieces fault? rest
  | .unit m :: .unit n :: rest =>
    if closesPair m then .error .loneSurrogate
    else if opensPair m then
      if closesPair n then (pairChar m n :: ·) <$> joinPieces fault? rest
      else .error .loneSurrogate
    else (Char.ofNat m.toNat :: ·) <$> joinPieces fault? (.unit n :: rest)
  | .unit m :: rest =>
    if closesPair m then .error .loneSurrogate
    else if opensPair m then
      .error (match rest with
        | [] => unpaired fault?
        | _ => .halfSurrogatePair)
    else (Char.ofNat m.toNat :: ·) <$> joinPieces fault? rest

/-- The string, if all of it reads. -/
def StringText.take (s : StringText) : Except SyntaxError String :=
  String.ofList <$> joinPieces s.fault? s.pieces

end PromptChain.Json
