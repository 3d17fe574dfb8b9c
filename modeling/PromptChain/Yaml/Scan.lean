import PromptChain.Yaml.Token

/-!
# Finding the tokens of a YAML text

The scanner goes through the text once. It keeps the indentations of the open blocks,
and for each open flow collection (and the block around them) the place where a *simple
key* may have begun: a key that shows itself only by the colon after it. Such a key
lies on one line and has at most 1024 characters; when its colon is found, the key
token is put in front of it, and if need be the start of a block mapping.

A simple key is *required* where a block mapping can only go on with a key.
-/

namespace PromptChain.Yaml

/-- A place where a simple key may have begun. -/
structure PossibleKey where
  required : Bool
  /-- The number of tokens before it. -/
  position : Nat
  index : Nat
  line : Nat
  column : Nat

/-- How far a text has been scanned. -/
structure Scanner where
  cursor : Cursor
  tokens : Array Token
  /-- The indentation of the innermost block, -1 outside of all. -/
  indent : Int
  /-- The indentations of the blocks around it. -/
  outer : List Int
  /-- Whether a simple key may begin here. -/
  keyAllowed : Bool
  /-- The possible key of the innermost collection. -/
  candidate? : Option PossibleKey
  /-- The possible keys of the collections around it, if it is a flow collection. -/
  candidates : List (Option PossibleKey)

namespace Scanner

/-- Before the text. -/
def start (text : List Char) : Scanner := ⟨.start text, #[], -1, [], true, none, []⟩

/-- Whether the scanner is inside a flow collection. -/
def inFlow (s : Scanner) : Bool := !s.candidates.isEmpty

/-- Add a token. -/
def emit (s : Scanner) (token : Token) : Scanner := { s with tokens := s.tokens.push token }

/-- Go on to another place. -/
def goTo (s : Scanner) (c : Cursor) : Scanner := { s with cursor := c }

/-! ## Simple keys -/

/-- Whether a possible key has become too long. -/
def outgrown (c : Cursor) (key : PossibleKey) : Bool :=
  key.line < c.line || key.index + 1024 < c.index

/-- Give up a possible key, unless it is required. -/
def dropKey? : Option PossibleKey → Option (Option PossibleKey)
  | some key => if key.required then none else some none
  | none => some none

/-- Give up a possible key that has become too long, unless it is required. -/
def dropOutgrown? (c : Cursor) (key? : Option PossibleKey) : Option (Option PossibleKey) :=
  if key?.any (outgrown c) then dropKey? key? else some key?

/-- Give up the possible keys that have become too long. -/
def dropAllOutgrown? (s : Scanner) : Option Scanner := do
  let candidate? ← dropOutgrown? s.cursor s.candidate?
  let candidates ← s.candidates.mapM (dropOutgrown? s.cursor)
  return { s with candidate?, candidates }

/-- No simple key has begun here. -/
def noKey? (s : Scanner) (keyAllowed : Bool) : Option Scanner := do
  let candidate? ← dropKey? s.candidate?
  return { s with candidate?, keyAllowed }

/-- A simple key may begin here, if one is allowed. None is allowed directly after it. -/
def maybeKey? (s : Scanner) : Option Scanner :=
  if s.keyAllowed then do
    let _ ← dropKey? s.candidate?
    let required := !s.inFlow && s.indent = s.cursor.column
    let key : PossibleKey :=
      ⟨required, s.tokens.size, s.cursor.index, s.cursor.line, s.cursor.column⟩
    return { s with candidate? := some key, keyAllowed := false }
  else some { s with keyAllowed := false }

/-! ## Blocks -/

/-- Open a block at a column, unless it is open; its token goes to a position among the
    others. -/
def openBlock (s : Scanner) (column : Nat) (position : Nat) (token : Token) : Scanner :=
  if !s.inFlow && s.indent < column then
    { s with
      indent := column
      outer := s.indent :: s.outer
      tokens := s.tokens.insertIdxIfInBounds position token }
  else s

/-- Close the blocks that are indented more than a column. -/
def closeBlocks (column : Int) : List Int → Scanner → Scanner
  | [], s => s
  | indent :: outer, s =>
    if column < s.indent then
      closeBlocks column outer ({ s with indent, outer }.emit .blockEnd)
    else s

/-- Close the blocks that are indented more than a column; in a flow collection none
    are. -/
def unindent (s : Scanner) (column : Int) : Scanner :=
  if s.inFlow then s else closeBlocks column s.outer s

/-! ## The tokens one by one -/

/-- Pass over blanks, comments and line breaks before a token. A tab may not indent a
    block. -/
def toNextToken : Nat → Scanner → Scanner
  | 0, s => s
  | fuel + 1, s =>
    let c := if s.cursor.index = 0 && s.cursor.looksAt '\ufeff' then s.cursor.skip 1 else s.cursor
    let c := c.skipWhile fun x => x = ' ' || (x = '\t' && (s.inFlow || !s.keyAllowed))
    let c := if c.looksAt '#' then c.skipLine else c
    if c.head?.any isBreak then
      toNextToken fuel { s with cursor := c.takeBreak.2, keyAllowed := s.keyAllowed || !s.inFlow }
    else s.goTo c

/-- A token that consists of the next `n` characters. -/
def mark (s : Scanner) (n : Nat) (token : Token) : Scanner :=
  (s.goTo (s.cursor.skip n)).emit token

/-- The mark of the start or the end of a document. -/
def documentMark? (s : Scanner) (token : Token) : Option Scanner := do
  return (← (s.unindent (-1)).noKey? false).mark 3 token

/-- A directive. -/
def directive? (s : Scanner) : Option Scanner := do
  let s ← (s.unindent (-1)).noKey? false
  let (token, c) ← Yaml.directive? s.cursor
  return (s.goTo c).emit token

/-- The start of a flow collection. -/
def openFlow? (s : Scanner) (token : Token) : Option Scanner := do
  let s ← s.maybeKey?
  let candidates := s.candidate? :: s.candidates
  return { s with candidate? := none, candidates, keyAllowed := true }.mark 1 token

/-- The end of a flow collection. -/
def closeFlow? (s : Scanner) (token : Token) : Option Scanner := do
  let s ← s.noKey? false
  match s.candidates with
  | [] => return s.mark 1 token
  | candidate? :: candidates => return { s with candidate?, candidates }.mark 1 token

/-- The comma in a flow collection. -/
def comma? (s : Scanner) : Option Scanner := do return (← s.noKey? true).mark 1 .comma

/-- The hyphen before an item. -/
def item? (s : Scanner) : Option Scanner := do
  if !s.inFlow && !s.keyAllowed then none
  let s := s.openBlock s.cursor.column s.tokens.size .blockSequence
  return (← s.noKey? true).mark 1 .item

/-- The question mark before a key. -/
def key? (s : Scanner) : Option Scanner := do
  if !s.inFlow && !s.keyAllowed then none
  let s := s.openBlock s.cursor.column s.tokens.size .blockMapping
  return (← s.noKey? !s.inFlow).mark 1 .key

/-- The colon before a value. -/
def value? (s : Scanner) : Option Scanner :=
  match s.candidate? with
  | some key =>
    let tokens := s.tokens.insertIdxIfInBounds key.position .key
    let s := { s with tokens, candidate? := none, keyAllowed := false }
    some ((s.openBlock key.column key.position .blockMapping).mark 1 .value)
  | none =>
    if !s.inFlow && !s.keyAllowed then none
    else
      let s := s.openBlock s.cursor.column s.tokens.size .blockMapping
      some ({ s with keyAllowed := !s.inFlow }.mark 1 .value)

/-- An alias. -/
def alias? (s : Scanner) : Option Scanner := do
  let s ← s.maybeKey?
  let (name, c) ← anchorName? s.cursor
  return (s.goTo c).emit (.alias name)

/-- An anchor. -/
def anchor? (s : Scanner) : Option Scanner := do
  let s ← s.maybeKey?
  let (name, c) ← anchorName? s.cursor
  return (s.goTo c).emit (.anchor name)

/-- A tag. -/
def tag? (s : Scanner) : Option Scanner := do
  let s ← s.maybeKey?
  let (tag, c) ← Yaml.tag? s.inFlow s.cursor
  return (s.goTo c).emit (.tag tag)

/-- A block scalar. -/
def block? (s : Scanner) (style : Style) : Option Scanner := do
  let s ← s.noKey? true
  let (text, c) ← blockScalar? (style = .literal) s.indent s.cursor
  return (s.goTo c).emit (.scalar style (String.ofList text))

/-- A quoted scalar. -/
def quoted? (s : Scanner) (single : Bool) : Option Scanner := do
  let s ← s.maybeKey?
  let (text, c) ← quotedScalar? single s.cursor
  return (s.goTo c).emit (.scalar .quoted (String.ofList text))

/-- A plain scalar. If a line ends after it, a simple key may begin. -/
def plain? (s : Scanner) : Option Scanner := do
  let s ← s.maybeKey?
  let (text, lineEnded, c) ← plainScalar? s.inFlow s.indent s.cursor
  return { s.goTo c with keyAllowed := lineEnded }.emit (.scalar .plain (String.ofList text))

/-- Whether a character starts no plain scalar, wherever it stands. -/
def isReserved (c : Char) : Bool := "#&*!|>'\"%@`,[]\x7b\x7d".toList.contains c

/-- The token that starts with a character, which others follow. -/
def token? (s : Scanner) (c : Char) (rest : List Char) : Option Scanner :=
  if s.cursor.column = 0 && c = '%' then s.directive?
  else if s.cursor.atDocumentMark then
    s.documentMark? (if c = '-' then .documentStart else .documentEnd)
  else if c = '[' then s.openFlow? .flowSequence
  else if c = '\x7b' then s.openFlow? .flowMapping
  else if c = ']' then s.closeFlow? .flowSequenceEnd
  else if c = '\x7d' then s.closeFlow? .flowMappingEnd
  else if c = ',' then s.comma?
  else if c = '-' && atWordEnd rest then s.item?
  else if c = '?' && (s.inFlow || atWordEnd rest) then s.key?
  else if c = ':' && (s.inFlow || atWordEnd rest) then s.value?
  else if c = '*' then s.alias?
  else if c = '&' then s.anchor?
  else if c = '!' then s.tag?
  else if c = '|' && !s.inFlow then s.block? .literal
  else if c = '>' && !s.inFlow then s.block? .folded
  else if c = '\'' then s.quoted? true
  else if c = '"' then s.quoted? false
  else if isReserved c || isWhite c then none
  else s.plain?

/-- Close everything at the end of the text. -/
def finish? (s : Scanner) : Option (Array Token) := do
  return (← (s.unindent (-1)).noKey? false).tokens

/-- Find the tokens from here on. -/
def run? : Nat → Scanner → Option (Array Token)
  | 0, _ => none
  | fuel + 1, s => do
    let s ← (toNextToken (s.cursor.rest.length + 1) s).dropAllOutgrown?
    let s := s.unindent s.cursor.column
    match s.cursor.rest with
    | [] => s.finish?
    | c :: rest => run? fuel (← s.token? c rest)

end Scanner

/-- The tokens of a text, if it is well-formed so far. A mark of the byte order may stand
    in front. -/
def tokens? (text : List Char) : Option (List Token) :=
  if text.all isAllowed then
    let text := if text.head? = some '\ufeff' then text.tail else text
    Array.toList <$> (Scanner.start text).run? (text.length + 2)
  else none

end PromptChain.Yaml
