import PromptChain.Json.Basic
import PromptChain.Binary64.Text

/-!
# JSON as text

The compact text of a value has no blanks (`Json.render`). The pretty one puts each
item and member on a line of its own, two columns further in than its container
(`Json.pretty`). Both keep the order of members.
-/

namespace PromptChain.Json

/-- The hexadecimal digit of a number below 16. -/
def hexDigit (n : Nat) : Char := "0123456789abcdef".toList.getD n '0'

/-- How a character is written inside quotes: the quote, the backslash and the
    control characters below a blank are escaped. -/
def escaped (c : Char) : List Char :=
  if c = '"' then ['\\', '"']
  else if c = '\\' then ['\\', '\\']
  else if c = '\x08' then ['\\', 'b']
  else if c = '\x0c' then ['\\', 'f']
  else if c = '\n' then ['\\', 'n']
  else if c = '\r' then ['\\', 'r']
  else if c = '\t' then ['\\', 't']
  else if c.toNat < 0x20 then
    ['\\', 'u', '0', '0', hexDigit (c.toNat / 16), hexDigit (c.toNat % 16)]
  else [c]

/-- A text in quotes. -/
def quoted (s : String) : String :=
  String.ofList ('"' :: s.toList.flatMap escaped ++ ['"'])

/-- The text of a number. -/
def Number.render : Number → String
  | .int n => toString n.val
  | .float x => x.dataText

mutual

/-- The compact text of a value. -/
def render : Json → String
  | .null => "null"
  | .bool b => if b then "true" else "false"
  | .number n => n.render
  | .string s => quoted s
  | .array items => "[" ++ ",".intercalate (renderItems items) ++ "]"
  | .object members => "\x7b" ++ ",".intercalate (renderMembers members) ++ "\x7d"

/-- The compact text of each item. -/
def renderItems : List Json → List String
  | [] => []
  | v :: rest => render v :: renderItems rest

/-- The compact text of each member. -/
def renderMembers : List (String × Json) → List String
  | [] => []
  | (k, v) :: rest => (quoted k ++ ":" ++ render v) :: renderMembers rest

end

/-- Entries on lines of their own between brackets, at the given indentation. -/
def block (indent : String) (opening closing : String) (entries : List String) : String :=
  if entries.isEmpty then opening ++ closing
  else
    opening ++ "\n" ++ ",\n".intercalate (entries.map (indent ++ "  " ++ ·)) ++ "\n" ++
      indent ++ closing

mutual

/-- The text of a value over several lines, at the given indentation. -/
def prettyAt (indent : String) : Json → String
  | .array items => block indent "[" "]" (prettyItems (indent ++ "  ") items)
  | .object members => block indent "\x7b" "\x7d" (prettyMembers (indent ++ "  ") members)
  | .null => "null"
  | .bool b => if b then "true" else "false"
  | .number n => n.render
  | .string s => quoted s

/-- The text of each item over several lines. -/
def prettyItems (indent : String) : List Json → List String
  | [] => []
  | v :: rest => prettyAt indent v :: prettyItems indent rest

/-- The text of each member over several lines. -/
def prettyMembers (indent : String) : List (String × Json) → List String
  | [] => []
  | (k, v) :: rest => (quoted k ++ ": " ++ prettyAt indent v) :: prettyMembers indent rest

end

/-- The text of a value over several lines, each level two columns further in. -/
def pretty (value : Json) : String := prettyAt "" value

end PromptChain.Json
