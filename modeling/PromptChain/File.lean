/-!
# Files

What is known of a file before it is read, its name, and what may be wrong with it.
-/

namespace PromptChain

/-- Why a file cannot be read as text. -/
inductive FileFault where
  | notFound
  | isDirectory
  | notDirectory
  | notText
  | other (message : String)
deriving DecidableEq, Repr

/-- The wording of a file fault. -/
def FileFault.message : FileFault → String
  | notFound => "No such file or directory (os error 2)"
  | isDirectory => "Is a directory (os error 21)"
  | notDirectory => "Not a directory (os error 20)"
  | notText => "stream did not contain valid UTF-8"
  | other message => message

namespace File

/-- The text that the content of a file is in UTF-8. -/
def text (content : ByteArray) : Except FileFault String :=
  match String.fromUTF8? content with
  | some text => .ok text
  | none => .error .notText

/-- The name of a file at a path: the last part of the path. -/
def name? (path : String) : Option String :=
  let parts := (path.splitOn "/").filter fun part => part ≠ "" && part ≠ "."
  parts.getLast?.filter (· ≠ "..")

/-- The extension of the file at a path: what comes after the last dot in its name. A dot
    at the start of the name does not count. -/
def extension? (path : String) : Option String := do
  match ((← name? path).splitOn ".").reverse with
  | [] | [_] | [_, ""] => none
  | last :: _ => some last

end File

end PromptChain
