/-!
# Places in a YAML text

A cursor is what is left of a text, and how much of it lies before: the line and the
column decide what belongs together in YAML.
-/

namespace PromptChain.Yaml

/-- A space or a tab. -/
def isWhite (c : Char) : Bool := c = ' ' || c = '\t'

/-- A character that ends a line. -/
def isBreak (c : Char) : Bool :=
  c = '\r' || c = '\n' || c = '\x85' || c = '\u2028' || c = '\u2029'

/-- A character of a name: an ASCII letter or digit, a hyphen or an underscore. -/
def isNameChar (c : Char) : Bool := c.isAlphanum || c = '-' || c = '_'

/-- A character that may stand in a YAML text. -/
def isAllowed (c : Char) : Bool :=
  let n := c.toNat
  n = 0x09 || n = 0x0A || n = 0x0D || (0x20 ≤ n && n ≤ 0x7E) || n = 0x85 ||
    (0xA0 ≤ n && n ≤ 0xFFFD) || 0x10000 ≤ n

/-- Whether a line ends here, or the text. -/
def atLineEnd : List Char → Bool
  | [] => true
  | c :: _ => isBreak c

/-- Whether a word ends here: at white space, the end of the line or of the text. -/
def atWordEnd : List Char → Bool
  | [] => true
  | c :: _ => isWhite c || isBreak c

/-- A place in a text. -/
structure Cursor where
  /-- The text from here on. -/
  rest : List Char
  /-- The number of characters before. -/
  index : Nat
  /-- The number of lines before. -/
  line : Nat
  /-- The number of characters before in the line. -/
  column : Nat

namespace Cursor

/-- The start of a text. -/
def start (text : List Char) : Cursor := ⟨text, 0, 0, 0⟩

/-- The first character from here on. -/
def head? (c : Cursor) : Option Char := c.rest.head?

/-- Whether the text goes on with a character. -/
def looksAt (c : Cursor) (x : Char) : Bool := c.rest.head? = some x

/-- The place `n` characters later in the line. -/
def skip (c : Cursor) (n : Nat) : Cursor :=
  { c with rest := c.rest.drop n, index := c.index + n, column := c.column + n }

/-- The characters of a kind from here on, and the place after them in the line. -/
def span (c : Cursor) (p : Char → Bool) : List Char × Cursor :=
  let word := c.rest.takeWhile p
  (word, c.skip word.length)

/-- The place after all characters of a kind. -/
def skipWhile (c : Cursor) (p : Char → Bool) : Cursor := (c.span p).2

/-- The place at the end of the line. -/
def skipLine (c : Cursor) : Cursor := c.skipWhile fun x => !isBreak x

/-- The line break here as it counts in a text, and the place after it. All breaks but
    the line and paragraph separators count as a line feed. -/
def takeBreak (c : Cursor) : List Char × Cursor :=
  let next n rest : Cursor := ⟨rest, c.index + n, c.line + 1, 0⟩
  match c.rest with
  | '\r' :: '\n' :: rest => (['\n'], next 2 rest)
  | x :: rest =>
    if x = '\u2028' || x = '\u2029' then ([x], next 1 rest)
    else if isBreak x then (['\n'], next 1 rest)
    else ([], c)
  | [] => ([], c)

/-- Whether a line starts here with the mark of a document's start or end. -/
def atDocumentMark (c : Cursor) : Bool :=
  c.column = 0 &&
    match c.rest with
    | x :: y :: z :: rest => (x = '-' || x = '.') && x = y && y = z && atWordEnd rest
    | _ => false

/-- Pass over white space, a comment and the end of the line; nothing else may stand
    there. -/
def finishLine? (c : Cursor) : Option Cursor :=
  let c := c.skipWhile isWhite
  let c := if c.looksAt '#' then c.skipLine else c
  if atLineEnd c.rest then some c.takeBreak.2 else none

end Cursor

end PromptChain.Yaml
