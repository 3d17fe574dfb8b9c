import PromptChain.Json.NumberText
import PromptChain.Json.StringText

/-!
# JSON text as far as it reads

A `Draft` is what the text holds up to the first place where it stops being JSON
text, and that place. It does not decide what is wrong with the text: that depends on
what a reader wants from it, and in which order. So reading a text (`Draft.read`) never
fails, and faults come to light when a value is taken out of the draft
(`Draft.take`) or passed over (`Draft.skip`), the first one on the way counting.

A value is taken from at most 127 nested containers; skipping knows no such limit.

A whole text holds one value, with blanks around it (`parse`).
-/

namespace PromptChain.Json

/-- What a text holds as far as it reads. -/
inductive Draft where
  /-- No value starts here. -/
  | absent (fault : Fault)
  /-- The word `null`, or what starts like it. -/
  | null (fault? : Option Fault)
  /-- A truth value, or what starts like it. -/
  | bool (b : Bool) (fault? : Option Fault)
  | number (n : Except Fault NumberText)
  | string (s : StringText)
  /-- A list inside `level - 1` other containers: its items, and what ends it in place
      of the closing bracket. -/
  | list (level : Nat) (items : List Draft) (fault? : Option Fault)
  /-- An object inside `level - 1` other containers: its keys and values, and what ends
      it in place of the closing brace. -/
  | object (level : Nat) (members : List (Draft × Draft)) (fault? : Option Fault)

/-- The blanks of JSON text. -/
def isSpace (c : Char) : Bool := c = ' ' || c = '\n' || c = '\t' || c = '\r'

/-- The text from its first character that is no blank. -/
def skipSpace (cs : List Char) : List Char := cs.dropWhile isSpace

/-! ## Reading

Each function gives what it reads and the rest of the text after it, or no rest where
the text breaks off. The first argument bounds the depth of the recursion; twice the
length of the text is enough. -/

/-- Compare the text with the rest of a word. -/
def readWord (value : Option Fault → Draft) : List Char → List Char → Draft × Option (List Char)
  | [], rest => (value none, some rest)
  | _ :: _, [] => (value (some .wordCut), none)
  | w :: word, c :: rest =>
    if c = w then readWord value word rest else (value (some .wordMisspelt), none)

/-- Read a number. -/
def readNumber (cs : List Char) : Draft × Option (List Char) :=
  match NumberText.read cs with
  | .ok (n, rest) => (.number (.ok n), some rest)
  | .error fault => (.number (.error fault), none)

mutual

/-- Read a value inside `level` containers. -/
def readValue : Nat → Nat → List Char → Draft × Option (List Char)
  | 0, _, _ => (.absent .noValue, none)
  | fuel + 1, level, cs =>
    match skipSpace cs with
    | [] => (.absent .noValue, none)
    | c :: rest =>
      if c = 'n' then readWord .null "ull".toList rest
      else if c = 't' then readWord (.bool true) "rue".toList rest
      else if c = 'f' then readWord (.bool false) "alse".toList rest
      else if c = '"' then
        let (s, rest?) := StringText.read rest
        (.string s, rest?)
      else if c = '-' || c.isDigit then readNumber (c :: rest)
      else if c = '[' then
        let (items, fault?, rest?) :=
          match skipSpace rest with
          | [] => ([], some .listCut, none)
          | ']' :: rest => ([], none, some rest)
          | rest => readItem fuel (level + 1) rest
        (.list (level + 1) items fault?, rest?)
      else if c = '\x7b' then
        let (members, fault?, rest?) :=
          match skipSpace rest with
          | [] => ([], some .objectCut, none)
          | '\x7d' :: rest => ([], none, some rest)
          | rest => readMember fuel (level + 1) rest
        (.object (level + 1) members fault?, rest?)
      else (.absent .notAValue, none)

/-- Read an item of a list, and the items after it. -/
def readItem : Nat → Nat → List Char → List Draft × Option Fault × Option (List Char)
  | 0, _, _ => ([], some .listCut, none)
  | fuel + 1, level, cs =>
    match readValue fuel level cs with
    | (item, none) => ([item], some .listCut, none)
    | (item, some rest) =>
      match skipSpace rest with
      | [] => ([item], some .listCut, none)
      | ']' :: rest => ([item], none, some rest)
      | ',' :: rest =>
        match skipSpace rest with
        | [] => ([item], some .listCutAfterComma, none)
        | ']' :: _ => ([item], some .listTrailingComma, none)
        | rest =>
          let (items, fault?, rest?) := readItem fuel level rest
          (item :: items, fault?, rest?)
      | _ => ([item], some .listWithoutComma, none)

/-- Read a member of an object, and the members after it. What is no string in the
    place of a key is read all the same, and ends the object. -/
def readMember :
    Nat → Nat → List Char → List (Draft × Draft) × Option Fault × Option (List Char)
  | 0, _, _ => ([], some .objectCut, none)
  | fuel + 1, level, cs =>
    match readValue fuel level cs with
    | (.string key, some rest) =>
      match skipSpace rest with
      | [] => ([(.string key, .absent .colonCut)], some .objectCut, none)
      | ':' :: rest =>
        match readValue fuel level rest with
        | (value, none) => ([(.string key, value)], some .objectCut, none)
        | (value, some rest) =>
          let member := (.string key, value)
          match skipSpace rest with
          | [] => ([member], some .objectCut, none)
          | '\x7d' :: rest => ([member], none, some rest)
          | ',' :: rest =>
            match skipSpace rest with
            | [] => ([member], some .objectCutAfterComma, none)
            | '\x7d' :: _ => ([member], some .objectTrailingComma, none)
            | rest =>
              let (members, fault?, rest?) := readMember fuel level rest
              (member :: members, fault?, rest?)
          | _ => ([member], some .objectWithoutComma, none)
      | _ => ([(.string key, .absent .colonMissing)], some .objectCut, none)
    | (key, _) => ([(key, .absent .colonMissing)], some .objectCut, none)

end

/-- Read the value at the start of a text. -/
def Draft.read (cs : List Char) : Draft × Option (List Char) :=
  readValue (2 * cs.length + 2) 0 cs

/-! ## Taking -/

/-- The number of nested containers from which a value is taken. -/
def deepestLevel : Nat := 127

/-- Refuse a container that is nested too deep. -/
def checkLevel (level : Nat) : Except SyntaxError Unit :=
  if level ≤ deepestLevel then .ok () else .error .tooDeep

/-- Complain about the fault, if there is one. -/
def checkTaken (fault? : Option Fault) : Except SyntaxError Unit :=
  match fault? with
  | none => .ok ()
  | some fault => .error fault.whenTaken

/-- Complain about the fault in the way of a reader who skips. -/
def checkSkipped (fault? : Option Fault) : Except SyntaxError Unit :=
  match fault? with
  | none => .ok ()
  | some fault => .error fault.whenSkipped

/-- The text of a key. -/
def Draft.key : Draft → Except SyntaxError String
  | .string s => s.take
  | _ => .error .keyNotString

mutual

/-- The value, if all of it reads. -/
def Draft.take : Draft → Except SyntaxError Json
  | .absent fault | .number (.error fault) => .error fault.whenTaken
  | .null fault? => (fun _ => .null) <$> checkTaken fault?
  | .bool b fault? => (fun _ => .bool b) <$> checkTaken fault?
  | .number (.ok n) => .number <$> n.take
  | .string s => .string <$> s.take
  | .list level items fault? => do
    checkLevel level
    let values ← takeItems items
    checkTaken fault?
    return .array values
  | .object level members fault? => do
    checkLevel level
    let entries ← takeMembers members
    checkTaken fault?
    return .object (inserted entries)

/-- The values of the items. -/
def takeItems : List Draft → Except SyntaxError (List Json)
  | [] => .ok []
  | item :: rest => do
    let value ← item.take
    return value :: (← takeItems rest)

/-- The keys and values of the members. -/
def takeMembers : List (Draft × Draft) → Except SyntaxError (List (String × Json))
  | [] => .ok []
  | (k, v) :: rest => do
    let key ← k.key
    let value ← v.take
    return (key, value) :: (← takeMembers rest)

end

/-! ## Skipping -/

/-- Pass over a key. -/
def Draft.skipKey : Draft → Except SyntaxError Unit
  | .string s => checkSkipped s.fault?
  | _ => .error .keyNotString

mutual

/-- Pass over a value. -/
def Draft.skip : Draft → Except SyntaxError Unit
  | .absent fault | .number (.error fault) => .error fault.whenSkipped
  | .null fault? | .bool _ fault? => checkSkipped fault?
  | .number (.ok _) => .ok ()
  | .string s => checkSkipped s.fault?
  | .list _ items fault? => do
    skipItems items
    checkSkipped fault?
  | .object _ members fault? => do
    skipMembers members
    checkSkipped fault?

/-- Pass over the items. -/
def skipItems : List Draft → Except SyntaxError Unit
  | [] => .ok ()
  | item :: rest => do
    item.skip
    skipItems rest

/-- Pass over the members. -/
def skipMembers : List (Draft × Draft) → Except SyntaxError Unit
  | [] => .ok ()
  | (k, v) :: rest => do
    k.skipKey
    v.skip
    skipMembers rest

end

/-! ## Whole texts -/

/-- Complain about anything but blanks after the value. A value that breaks off has
    been complained about before. -/
def checkEnd : Option (List Char) → Except SyntaxError Unit
  | some rest => if (skipSpace rest).isEmpty then .ok () else .error .trailingCharacters
  | none => .ok ()

/-- The value that is the whole of a text. -/
def parseChars (cs : List Char) : Except SyntaxError Json := do
  let (draft, rest?) := Draft.read cs
  let value ← draft.take
  checkEnd rest?
  return value

/-- The value that is the whole of a text. -/
def parse (text : String) : Except SyntaxError Json := parseChars text.toList

end PromptChain.Json
