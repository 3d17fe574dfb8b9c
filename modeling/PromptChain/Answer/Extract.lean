import PromptChain.Json.Draft
import PromptChain.Text.Basic

/-!
# A JSON value in a model's prose

Models like to wrap the value they were asked for in prose. The value is looked for in
four places in turn: the whole text; a fence of three backticks, which may be marked
as JSON; the widest part between braces; the widest part between brackets.
-/

namespace PromptChain.Answer

/-- The value of a text, if the text is that of a value. -/
def value? (cs : List Char) : Option Json := (Json.parseChars cs).toOption

/-- The mark that opens and closes a fence. -/
def fence : List Char := ['`', '`', '`']

/-- What stands in the first fence. -/
def fenced? (cs : List Char) : Option (List Char) := do
  let (_, rest) ← Text.cut? fence cs
  let rest := (Text.after? "json".toList rest).getD rest
  let (inside, _) ← Text.cut? fence rest
  return Text.trim inside

/-- The places where a value is looked for, in order. -/
def candidates (cs : List Char) : List (List Char) :=
  [some cs, fenced? cs, Text.widest? '\x7b' '\x7d' cs, Text.widest? '[' ']' cs].filterMap id

/-- The JSON value in a text. -/
def extract? (content : String) : Option Json :=
  (candidates (Text.trim content.toList)).findSome? value?

/-- A text, kept as it is, and the JSON value that was found in it. -/
structure Extraction where
  raw : String
  value? : Option Json
deriving Repr

/-- Look for a JSON value in a text. -/
def Extraction.ofContent (content : String) : Extraction := ⟨content, extract? content⟩

end PromptChain.Answer
