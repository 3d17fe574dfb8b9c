import PromptChain.Json.Basic
import PromptChain.Yaml.Scan

/-!
# YAML documents

A document is a tree of nodes, in which an alias stands for the node with the anchor of
that name. `Document.ofText?` reads a text of one document; a text without any token is
a document without a node.

Anchors are numbered by how many names were in use before them. A name that is used
again takes a new number; where two anchors get the same number, an alias stands for
the node of the later one.
-/

namespace PromptChain.Yaml

/-- A node of a document. -/
inductive Node where
  | scalar (tag? : Option String) (style : Style) (text : String)
  | sequence (tag? : Option String) (items : List Node)
  | mapping (tag? : Option String) (entries : List (Node × Node))
  /-- The node with the anchor of a number. -/
  | alias (number : Nat)

/-- The node that stands where nothing is written. -/
def Node.nothing : Node := .scalar none .plain ""

/-- A document. -/
structure Document where
  /-- The whole, if there is anything. -/
  root? : Option Node
  /-- The nodes with an anchor, by its number; the first one with a number counts. -/
  anchored : List (Nat × Node)

/-! ## Reading tokens -/

/-- How far a document has been read. -/
structure Reading where
  tokens : List Token
  /-- The starts of tags, by their handles. -/
  namespaces : List (String × String)
  /-- The numbers of the anchors, by their names. -/
  names : List (String × Nat)
  /-- The number of anchors so far. -/
  count : Nat
  /-- For each number the place among all anchors of the latest one that got it. -/
  latest : List (Nat × Nat)
  /-- The nodes with an anchor, by its place among all anchors. -/
  nodes : List (Nat × Node)

/-- The namespaces that need no declaration. -/
def standardNamespaces : List (String × String) :=
  [("!", "!"), ("!!", "tag:yaml.org,2002:")]

/-- Before the tokens. -/
def Reading.start (tokens : List Token) : Reading := ⟨tokens, standardNamespaces, [], 0, [], []⟩

/-- What reads on in the tokens, unless they are malformed. -/
abbrev Reader := StateT Reading Option

namespace Reader

/-- Give up: the tokens are malformed. -/
def malformed {α : Type} : Reader α := fun _ => none

/-- The next token. -/
def peek : Reader (Option Token) := do return (← get).tokens.head?

/-- Pass over the next token. -/
def skip : Reader Unit := modify fun r => { r with tokens := r.tokens.tail }

/-- The tag that a written one stands for. -/
def resolve (tag : WrittenTag) : Reader String := do
  if tag.handle.isEmpty then return tag.suffix
  match Json.lookup tag.handle (← get).namespaces with
  | some start => return start ++ tag.suffix
  | none => malformed

/-- Give a number to an anchor; the result is its place among all anchors. -/
def number (name : String) : Reader Nat := do
  let r ← get
  let n := r.names.length
  set { r with
    names := Json.insert name n r.names, count := r.count + 1, latest := (n, r.count) :: r.latest }
  return r.count

/-- Keep the node of an anchor. -/
def keep (place : Nat) (node : Node) : Reader Unit :=
  modify fun r => { r with nodes := (place, node) :: r.nodes }

/-- The anchor here, if there is one. -/
def anchor : Reader (Option String) := do
  match ← peek with
  | some (.anchor name) =>
    skip
    return some name
  | _ => return none

/-- The tag here, if there is one. -/
def tag : Reader (Option WrittenTag) := do
  match ← peek with
  | some (.tag tag) =>
    skip
    return some tag
  | _ => return none

/-- The anchor and the tag of a node, in either order. -/
def properties : Reader (Option String × Option WrittenTag) := do
  match ← anchor with
  | some name => return (some name, ← tag)
  | none =>
    match ← tag with
    | some tag => return (← anchor, some tag)
    | none => return (none, none)

/-- Whether nothing is written in the place of an item, before the next token. -/
def endsItem : Option Token → Bool
  | some .item | some .blockEnd => true
  | _ => false

/-- Whether nothing is written in the place of a key or a value of a block mapping. -/
def endsPart : Option Token → Bool
  | some .key | some .value | some .blockEnd => true
  | _ => false

/-- Whether nothing is written in the place of a value in a flow sequence. -/
def endsFlowItem : Option Token → Bool
  | some .comma | some .flowSequenceEnd => true
  | _ => false

/-- Whether nothing is written in the place of a value in a flow mapping. -/
def endsFlowValue : Option Token → Bool
  | some .comma | some .flowMappingEnd => true
  | _ => false

mutual

/-- Read a node. `block` says whether it may be a block collection, `flush` whether the
    items of a sequence may stand right here. -/
def node : Nat → (block flush : Bool) → Reader Node
  | 0, _, _ => malformed
  | fuel + 1, block, flush => do
    match ← peek with
    | some (.alias name) =>
      skip
      match Json.lookup name (← get).names with
      | some number => return .alias number
      | none => malformed
    | _ =>
      let (anchor?, written?) ← properties
      let tag? ← written?.mapM resolve
      let place? ← anchor?.mapM number
      let read ← content fuel block flush tag? (anchor?.isSome || tag?.isSome)
      match place? with
      | some place => keep place read
      | none => pure ()
      return read

/-- Read what follows the anchor and the tag of a node. -/
def content : Nat → (block flush : Bool) → Option String → Bool → Reader Node
  | 0, _, _, _, _ => malformed
  | fuel + 1, block, flush, tag?, hasProperties => do
    match ← peek, block, flush with
    | some .item, _, true => .sequence tag? <$> flushItems fuel
    | some (.scalar style text), _, _ =>
      skip
      return .scalar (tag?.filter (· ≠ "!")) style text
    | some .flowSequence, _, _ =>
      skip
      .sequence tag? <$> flowItems fuel true
    | some .flowMapping, _, _ =>
      skip
      .mapping tag? <$> flowEntries fuel true
    | some .blockSequence, true, _ =>
      skip
      .sequence tag? <$> blockItems fuel
    | some .blockMapping, true, _ =>
      skip
      .mapping tag? <$> blockEntries fuel
    | _, _, _ => if hasProperties then return .scalar tag? .plain "" else malformed

/-- The items of a block sequence, up to its end. -/
def blockItems : Nat → Reader (List Node)
  | 0 => malformed
  | fuel + 1 => do
    match ← peek with
    | some .item =>
      skip
      let item ← if endsItem (← peek) then pure .nothing else node fuel true false
      return item :: (← blockItems fuel)
    | some .blockEnd =>
      skip
      return []
    | _ => malformed

/-- The items of a sequence that is indented no more than the mapping it is in. -/
def flushItems : Nat → Reader (List Node)
  | 0 => malformed
  | fuel + 1 => do
    match ← peek with
    | some .item =>
      skip
      let next ← peek
      let item ←
        if endsItem next || endsPart next then pure .nothing else node fuel true false
      return item :: (← flushItems fuel)
    | _ => return []

/-- The entries of a block mapping, up to its end. -/
def blockEntries : Nat → Reader (List (Node × Node))
  | 0 => malformed
  | fuel + 1 => do
    match ← peek with
    | some .key =>
      skip
      let key ← if endsPart (← peek) then pure .nothing else node fuel true true
      let value ← blockValue fuel
      return (key, value) :: (← blockEntries fuel)
    | some .blockEnd =>
      skip
      return []
    | _ => malformed

/-- The value of an entry of a block mapping. -/
def blockValue : Nat → Reader Node
  | 0 => malformed
  | fuel + 1 => do
    match ← peek with
    | some .value =>
      skip
      if endsPart (← peek) then return .nothing else node fuel true true
    | _ => return .nothing

/-- The items of a flow sequence, up to its end. An entry of a mapping may stand as an
    item. -/
def flowItems : Nat → (first : Bool) → Reader (List Node)
  | 0, _ => malformed
  | fuel + 1, first => do
    if !first && (← peek) = some .comma then skip
    else if !first && (← peek) ≠ some .flowSequenceEnd then malformed
    match ← peek with
    | some .flowSequenceEnd =>
      skip
      return []
    | some .key =>
      skip
      let key ← flowKey fuel
      let value ← flowValue fuel endsFlowItem
      return .mapping none [(key, value)] :: (← flowItems fuel false)
    | _ =>
      let item ← node fuel false false
      return item :: (← flowItems fuel false)

/-- The key of an entry in a flow sequence. Where nothing is written, the next token is
    passed over. -/
def flowKey : Nat → Reader Node
  | 0 => malformed
  | fuel + 1 => do
    let next ← peek
    if next = some .value || endsFlowItem next then
      skip
      return .nothing
    else node fuel false false

/-- The value of an entry in a flow collection. -/
def flowValue : Nat → (ends : Option Token → Bool) → Reader Node
  | 0, _ => malformed
  | fuel + 1, ends => do
    match ← peek with
    | some .value =>
      skip
      if ends (← peek) then return .nothing else node fuel false false
    | _ => return .nothing

/-- The entries of a flow mapping, up to its end. -/
def flowEntries : Nat → (first : Bool) → Reader (List (Node × Node))
  | 0, _ => malformed
  | fuel + 1, first => do
    if !first && (← peek) = some .comma then skip
    else if !first && (← peek) ≠ some .flowMappingEnd then malformed
    match ← peek with
    | some .flowMappingEnd =>
      skip
      return []
    | some .key =>
      skip
      let next ← peek
      let key ←
        if next = some .value || endsFlowValue next then pure .nothing else node fuel false false
      let value ← flowValue fuel endsFlowValue
      return (key, value) :: (← flowEntries fuel false)
    | _ =>
      let key ← node fuel false false
      return (key, .nothing) :: (← flowEntries fuel false)

end

/-! ## Documents -/

/-- Read the directives before a document: at most one version, which must be 1.1 or 1.2,
    and namespaces with different handles. -/
def directives : Nat → (versioned : Bool) → List (String × String) → Reader (List (String × String))
  | 0, _, _ => malformed
  | fuel + 1, versioned, declared => do
    match ← peek with
    | some (.version major minor) =>
      skip
      if versioned || major ≠ 1 || (minor ≠ 1 && minor ≠ 2) then malformed
      directives fuel true declared
    | some (.namespace handle start) =>
      skip
      if (Json.lookup handle declared).isSome then malformed
      directives fuel versioned (declared ++ [(handle, start)])
    | _ => return declared

/-- Whether a document that is marked by its start ends at once. -/
def endsDocument : Option Token → Bool
  | none | some .documentStart | some .documentEnd | some (.version ..) | some (.namespace ..) =>
    true
  | _ => false

/-- Read the node of the document, and see that nothing comes after the document. -/
def document (fuel : Nat) : Reader (Option Node) := do
  let root? ←
    match ← peek with
    | none => pure none
    | some .documentStart | some (.version ..) | some (.namespace ..) => do
      let declared ← directives fuel false []
      modify fun r => { r with namespaces := declared ++ standardNamespaces }
      if (← peek) ≠ some .documentStart then malformed
      skip
      if endsDocument (← peek) then pure (some .nothing) else some <$> node fuel true false
    | some _ => some <$> node fuel true false
  if (← get).tokens.all (· = .documentEnd) then return root? else malformed

end Reader

/-- The document of some tokens. -/
def Document.ofTokens? (tokens : List Token) : Option Document := do
  let (root?, r) ← Reader.document (4 * tokens.length + 4) (.start tokens)
  let anchored := r.latest.filterMap fun (number, place) =>
    (List.lookup place r.nodes).map (number, ·)
  return ⟨root?, anchored⟩

/-- The document that is the whole of a text. -/
def Document.ofText? (text : String) : Option Document := do
  Document.ofTokens? (← tokens? text.toList)

end PromptChain.Yaml
