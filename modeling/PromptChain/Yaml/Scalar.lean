import PromptChain.Json.StringText
import PromptChain.Yaml.Fold

/-!
# Scalars of a YAML text

A scalar is written plain, in single or double quotes, or as a block of lines that are
kept as they are or folded. The functions below read one from its first character on,
and give its text and the place after it; they give nothing if it is malformed.
-/

namespace PromptChain.Yaml

/-- The ways to write a scalar, as far as they matter to its meaning. -/
inductive Style where
  | plain
  | quoted
  /-- A block of lines that are kept as they are. -/
  | literal
  /-- A block of lines that are folded. -/
  | folded
deriving DecidableEq, Repr

/-! ## Plain scalars -/

/-- The characters that have a meaning in flow collections. -/
def isFlowIndicator (c : Char) : Bool :=
  c = ',' || c = '[' || c = ']' || c = '\x7b' || c = '\x7d'

/-- Whether a plain scalar ends before the text. -/
def endsPlain (flow : Bool) : List Char → Bool
  | [] => true
  | c :: rest =>
    isWhite c || isBreak c || (c = ':' && atWordEnd rest) || (flow && isFlowIndicator c)

/-- Whether a colon stands where none may stand in a flow collection. -/
def badColon (flow : Bool) : List Char → Bool
  | ':' :: c :: _ => flow && (isFlowIndicator c || c = '?')
  | _ => false

/-- A word of a plain scalar. -/
def plainWord? (flow : Bool) : List Char → Option (List Char)
  | [] => some []
  | c :: rest =>
    if badColon flow (c :: rest) then none
    else if endsPlain flow (c :: rest) then some []
    else (c :: ·) <$> plainWord? flow rest

/-- Read a plain scalar from the given gap on. -/
def readPlain (flow : Bool) (indent : Int) :
    Nat → List Char → Gap → Cursor → Option (List Char × Bool × Cursor)
  | 0, text, gap, c => some (text, gap.endsLine, c)
  | fuel + 1, text, gap, c => do
    if c.atDocumentMark || c.looksAt '#' then return (text, gap.endsLine, c)
    let word ← plainWord? flow c.rest
    let c := c.skip word.length
    let (text, gap) := if word.isEmpty then (text, gap) else (text ++ gap.text ++ word, .none)
    match c.head? with
    | none => return (text, gap.endsLine, c)
    | some x =>
      if !(isWhite x || isBreak x) then return (text, gap.endsLine, c)
      let refused (c : Cursor) := c.column < indent && c.looksAt '\t'
      let (gap, c) ← gap.read? refused (c.rest.length + 1) c
      if !flow && c.column < indent then return (text, gap.endsLine, c)
      readPlain flow indent fuel text gap c

/-- A plain scalar, in a flow collection or in a block that is indented by `indent`. Also
    says whether a line ends after it. -/
def plainScalar? (flow : Bool) (indent : Int) (c : Cursor) :
    Option (List Char × Bool × Cursor) :=
  readPlain flow (indent + 1) (c.rest.length + 1) [] .none c

/-! ## Quoted scalars -/

/-- The character that a short escape stands for. -/
def shortEscape? (c : Char) : Option Char :=
  List.lookup c
    [('0', '\x00'), ('a', '\x07'), ('b', '\x08'), ('t', '\t'), ('\t', '\t'), ('n', '\n'),
      ('v', '\x0b'), ('f', '\x0c'), ('r', '\r'), ('e', '\x1b'), (' ', ' '), ('"', '"'),
      ('\'', '\''), ('/', '/'), ('\\', '\\'), ('N', '\x85'), ('_', '\xa0'), ('L', '\u2028'),
      ('P', '\u2029')]

/-- The number of hexadecimal digits of an escape by number. -/
def escapeWidth? (c : Char) : Option Nat :=
  if c = 'x' then some 2 else if c = 'u' then some 4 else if c = 'U' then some 8 else none

/-- The value of hexadecimal digits. -/
def hexNumber? (digits : List Char) : Option Nat :=
  digits.foldlM (fun n c => (Json.hexValue? c).map (16 * n + ·)) 0

/-- The character with a number; surrogates are no characters. -/
def charOf? (n : Nat) : Option Char :=
  if n.isValidChar then some (Char.ofNat n) else none

/-- The character of an escape after the backslash, and the length of the escape. -/
def escape? : List Char → Option (Char × Nat)
  | [] => none
  | c :: rest =>
    match escapeWidth? c with
    | none => (shortEscape? c).map (·, 1)
    | some n => do
      let digits := rest.take n
      if digits.length < n then none
      let x ← charOf? (← hexNumber? digits)
      return (x, n + 1)

/-- What ends a word of a quoted scalar. -/
inductive WordEnd where
  /-- White space or the end of a line or of the text. -/
  | blank
  /-- A backslash before the end of a line. -/
  | escapedBreak
  /-- The closing quote. -/
  | closed

/-- Put a character in front of a word. -/
def consWord (x : Char) : List Char × WordEnd × Cursor → List Char × WordEnd × Cursor
  | (word, wordEnd, c) => (x :: word, wordEnd, c)

/-- Read a word of a single-quoted scalar, where a quote is written twice. -/
def singleWord : Nat → Cursor → List Char × WordEnd × Cursor
  | 0, c => ([], .blank, c)
  | fuel + 1, c =>
    match c.rest with
    | '\'' :: '\'' :: _ => consWord '\'' (singleWord fuel (c.skip 2))
    | '\'' :: _ => ([], .closed, c.skip 1)
    | x :: _ =>
      if isWhite x || isBreak x then ([], .blank, c) else consWord x (singleWord fuel (c.skip 1))
    | [] => ([], .blank, c)

/-- Read a word of a double-quoted scalar. -/
def doubleWord? : Nat → Cursor → Option (List Char × WordEnd × Cursor)
  | 0, c => some ([], .blank, c)
  | fuel + 1, c =>
    match c.rest with
    | '"' :: _ => some ([], .closed, c.skip 1)
    | '\\' :: rest =>
      if rest.head?.any isBreak then some ([], .escapedBreak, (c.skip 1).takeBreak.2)
      else do
        let (x, n) ← escape? rest
        return consWord x (← doubleWord? fuel (c.skip (n + 1)))
    | x :: _ =>
      if isWhite x || isBreak x then some ([], .blank, c)
      else consWord x <$> doubleWord? fuel (c.skip 1)
    | [] => some ([], .blank, c)

/-- The gap after a word, as far as its end tells. -/
def WordEnd.gap : WordEnd → Gap
  | .escapedBreak => .escapedBreak
  | _ => .none

/-- Read a quoted scalar after its opening quote. -/
def readQuoted (single : Bool) : Nat → List Char → Cursor → Option (List Char × Cursor)
  | 0, _, _ => none
  | fuel + 1, text, c => do
    if c.atDocumentMark || c.rest.isEmpty then none
    let n := c.rest.length + 1
    let (word, wordEnd, c) ← if single then some (singleWord n c) else doubleWord? n c
    match wordEnd with
    | .closed => return (text ++ word, c)
    | _ =>
      let (gap, c) ← wordEnd.gap.read? (fun _ => false) n c
      readQuoted single fuel (text ++ word ++ gap.text) c

/-- A quoted scalar. -/
def quotedScalar? (single : Bool) (c : Cursor) : Option (List Char × Cursor) :=
  readQuoted single (c.rest.length + 1) [] (c.skip 1)

/-! ## Block scalars -/

/-- What becomes of the line breaks at the end of a block. -/
inductive Chomping where
  /-- All are dropped. -/
  | strip
  /-- The first is kept. -/
  | clip
  /-- All are kept. -/
  | keep
deriving DecidableEq, Repr

/-- The chomping that an indicator asks for. -/
def chomping? (c : Char) : Option Chomping :=
  if c = '+' then some .keep else if c = '-' then some .strip else none

/-- The indentation that a digit asks for, if it may ask for one. -/
def increment? (c : Char) : Option Nat :=
  if c.isDigit && c ≠ '0' then some (c.toNat - '0'.toNat) else none

/-- Read the indicators after `|` or `>`, in either order. -/
def blockHeader? (c : Cursor) : Option (Chomping × Option Nat × Cursor) :=
  let digit (k : Chomping) (c : Cursor) : Option (Chomping × Option Nat × Cursor) :=
    match c.head? with
    | some x => if x.isDigit then (increment? x).map (k, some ·, c.skip 1) else some (k, none, c)
    | none => some (k, none, c)
  match c.head?.bind chomping? with
  | some k => digit k (c.skip 1)
  | none => do
    let (_, n?, c) ← digit .clip c
    match n?, c.head?.bind chomping? with
    | some _, some k => return (k, n?, c.skip 1)
    | _, _ => return (.clip, n?, c)

/-- Pass over indentation and empty lines before a line of a block, whose indentation may
    still be unknown (0). Gives the breaks and the largest column reached. -/
def readEmptyLines (indent : Nat) :
    Nat → List (List Char) → Nat → Cursor → Option (List (List Char) × Nat × Cursor)
  | 0, breaks, widest, c => some (breaks, widest, c)
  | fuel + 1, breaks, widest, c =>
    let spaces := (c.rest.takeWhile (· = ' ')).length
    let c := c.skip (if indent = 0 then spaces else min spaces (indent - c.column))
    let widest := max widest c.column
    if (indent = 0 || c.column < indent) && c.looksAt '\t' then none
    else
      match c.takeBreak with
      | ([], c) => some (breaks, widest, c)
      | (text, c) => readEmptyLines indent fuel (breaks ++ [text]) widest c

/-- Read the lines of a block that is indented by `indent`. `text` is what comes before,
    `last` the break that ended the line before, `breaks` the ones of the empty lines
    after it, and `white` says whether that line started with white space. -/
def readLines (literal : Bool) (indent : Nat) :
    Nat → List Char → List Char → List (List Char) → Bool → Cursor →
      Option (List Char × List Char × List (List Char) × Cursor)
  | 0, text, last, breaks, _, c => some (text, last, breaks, c)
  | fuel + 1, text, last, breaks, white, c => do
    if c.column ≠ indent || c.rest.isEmpty then return (text, last, breaks, c)
    let startsWhite := c.head?.any isWhite
    let lead :=
      if !literal && last = ['\n'] && !white && !startsWhite then
        if breaks.flatten.isEmpty then [' '] else []
      else last
    let (line, c) := c.span fun x => !isBreak x
    let (last, c) := c.takeBreak
    let text := text ++ lead ++ breaks.flatten ++ line
    let (breaks, _, c) ← readEmptyLines indent (c.rest.length + 1) [] 0 c
    readLines literal indent fuel text last breaks startsWhite c

/-- A block scalar in a block that is indented by `indent` (-1 outside all blocks). -/
def blockScalar? (literal : Bool) (indent : Int) (c : Cursor) : Option (List Char × Cursor) := do
  let (chomping, increment?, c) ← blockHeader? (c.skip 1)
  let c ← c.finishLine?
  let fuel := c.rest.length + 1
  let known :=
    match increment? with
    | some n => (max indent 0).toNat + n
    | none => 0
  let (breaks, widest, c) ← readEmptyLines known fuel [] 0 c
  let width := if known = 0 then max (max widest (indent + 1).toNat) 1 else known
  let (text, last, breaks, c) ← readLines literal width fuel [] [] breaks false c
  match chomping with
  | .strip => return (text, c)
  | .clip => return (text ++ last, c)
  | .keep => return (text ++ last ++ breaks.flatten, c)

end PromptChain.Yaml
