import PromptChain.Yaml.Scalar

/-!
# Tokens of a YAML text

Besides what is written, the tokens say where blocks of sequences and mappings start
and end, which follows from the indentation, and mark the key of every pair, also
where only the colon after it shows that it is one.
-/

namespace PromptChain.Yaml

/-- A tag as it is written: the handle of a namespace and the rest. -/
structure WrittenTag where
  handle : String
  suffix : String
deriving DecidableEq, Repr

/-- A token. -/
inductive Token where
  | version (major minor : Nat)
  | namespace (handle start : String)
  | documentStart
  | documentEnd
  | blockSequence
  | blockMapping
  | blockEnd
  | flowSequence
  | flowSequenceEnd
  | flowMapping
  | flowMappingEnd
  /-- The hyphen before an item of a block sequence. -/
  | item
  /-- The comma between items of a flow collection. -/
  | comma
  | key
  | value
  | alias (name : String)
  | anchor (name : String)
  | tag (tag : WrittenTag)
  | scalar (style : Style) (text : String)
deriving DecidableEq, Repr

/-! ## Names, tags and directives

Each function starts at the first character of what it reads. -/

/-- The name of an anchor or alias, after its sign. -/
def anchorName? (c : Cursor) : Option (String × Cursor) :=
  let (name, after) := (c.skip 1).span isNameChar
  let ends :=
    atWordEnd after.rest ||
      after.head?.any fun x => ['?', ':', ',', ']', '\x7d', '%', '@', '`'].contains x
  if name.isEmpty || !ends then none else some (String.ofList name, after)

/-- A character of a tag; the ones with a meaning in flow collections count only in a tag
    between angle brackets. -/
def isTagChar (bracketed : Bool) (c : Char) : Bool :=
  isNameChar c || ";/?:@&=+$.!~*'()".toList.contains c ||
    (bracketed && (c = ',' || c = '[' || c = ']'))

/-- The byte that two hexadecimal digits after a percent sign stand for. -/
def escapedByte? : List Char → Option Nat
  | '%' :: a :: b :: _ => hexNumber? [a, b]
  | _ => none

/-- The number of bytes of a character with the given first byte in UTF-8, and the bits of
    the character in that byte. -/
def firstByte? (byte : Nat) : Option (Nat × Nat) :=
  if byte < 0x80 then some (1, byte)
  else if byte / 0x20 = 6 then some (2, byte % 0x20)
  else if byte / 0x10 = 0xE then some (3, byte % 0x10)
  else if byte / 0x08 = 0x1E then some (4, byte % 0x08)
  else none

/-- Read `n` more escaped bytes of a character. -/
def moreBytes? : Nat → Nat → List Char → Option Nat
  | 0, bits, _ => some bits
  | n + 1, bits, cs => do
    let byte ← escapedByte? cs
    if byte / 0x40 ≠ 2 then none
    moreBytes? n (bits * 0x40 + byte % 0x40) (cs.drop 3)

/-- A character that is escaped byte by byte, and the length of the escape. -/
def escapedChar? (cs : List Char) : Option (Char × Nat) := do
  let (n, bits) ← firstByte? (← escapedByte? cs)
  let code ← moreBytes? (n - 1) bits (cs.drop 3)
  return ((charOf? code).getD '\ufffd', 3 * n)

/-- The characters of a tag from here on. -/
def readTagChars (bracketed : Bool) : Nat → Cursor → Option (List Char × Cursor)
  | 0, c => some ([], c)
  | fuel + 1, c =>
    match c.head? with
    | some '%' => do
      let (x, n) ← escapedChar? c.rest
      let (text, c) ← readTagChars bracketed fuel (c.skip n)
      return (x :: text, c)
    | some x =>
      if isTagChar bracketed x then do
        let (text, c) ← readTagChars bracketed fuel (c.skip 1)
        return (x :: text, c)
      else some ([], c)
    | none => some ([], c)

/-- All characters of a tag from here on. -/
def tagChars? (bracketed : Bool) (c : Cursor) : Option (List Char × Cursor) :=
  readTagChars bracketed (c.rest.length + 1) c

/-- At least one character of a tag. -/
def someTagChars? (bracketed : Bool) (c : Cursor) : Option (List Char × Cursor) := do
  let (text, c) ← tagChars? bracketed c
  if text.isEmpty then none else some (text, c)

/-- The handle of a namespace, as far as it reads: an exclamation mark, a name, and
    perhaps another mark. -/
def tagHandle? (c : Cursor) : Option (List Char × Cursor) :=
  if c.looksAt '!' then
    let (name, c) := (c.skip 1).span isNameChar
    if c.looksAt '!' then some ('!' :: name ++ ['!'], c.skip 1) else some ('!' :: name, c)
  else none

/-- A tag, without a look at what follows. -/
def writtenTag? (c : Cursor) : Option (WrittenTag × Cursor) := do
  match c.rest with
  | '!' :: '<' :: _ =>
    let (text, c) ← someTagChars? true (c.skip 2)
    if c.looksAt '>' then return (⟨"", String.ofList text⟩, c.skip 1) else none
  | _ =>
    let (handle, c) ← tagHandle? c
    if 1 < handle.length && handle.getLast? = some '!' then
      let (text, c) ← someTagChars? false c
      return (⟨String.ofList handle, String.ofList text⟩, c)
    else
      let (text, c) ← tagChars? false c
      match handle.drop 1 ++ text with
      | [] => return (⟨"", "!"⟩, c)
      | suffix => return (⟨"!", String.ofList suffix⟩, c)

/-- A tag; white space must follow, or a comma in a flow collection. -/
def tag? (flow : Bool) (c : Cursor) : Option (WrittenTag × Cursor) := do
  let (tag, c) ← writtenTag? c
  if atWordEnd c.rest || (flow && c.looksAt ',') then some (tag, c) else none

/-- A number of at most nine digits. -/
def versionNumber? (c : Cursor) : Option (Nat × Cursor) :=
  let (digits, c) := c.span Char.isDigit
  if digits.isEmpty || 9 < digits.length then none
  else some (digits.foldl (fun n d => 10 * n + (d.toNat - '0'.toNat)) 0, c)

/-- The version that a directive demands. -/
def version? (c : Cursor) : Option (Token × Cursor) := do
  let (major, c) ← versionNumber? (c.skipWhile isWhite)
  if !c.looksAt '.' then none
  let (minor, c) ← versionNumber? (c.skip 1)
  return (.version major minor, c)

/-- The namespace that a directive declares. -/
def namespace? (c : Cursor) : Option (Token × Cursor) := do
  let (handle, c) ← tagHandle? (c.skipWhile isWhite)
  if handle ≠ ['!'] && (handle.length = 1 || handle.getLast? ≠ some '!') then none
  if !c.head?.any isWhite then none
  let (start, c) ← someTagChars? true (c.skipWhile isWhite)
  if !atWordEnd c.rest then none
  return (.namespace (String.ofList handle) (String.ofList start), c)

/-- A directive with all of its line. -/
def directive? (c : Cursor) : Option (Token × Cursor) := do
  let (name, c) := (c.skip 1).span isNameChar
  if name.isEmpty || !atWordEnd c.rest then none
  let (token, c) ←
    if name = "YAML".toList then version? c
    else if name = "TAG".toList then namespace? c
    else none
  return (token, ← c.finishLine?)

end PromptChain.Yaml
