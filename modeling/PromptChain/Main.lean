import PromptChain.CommandLine.Execution

/-!
# The program

Gathers what an invocation can look at, and says what comes of it. The program itself
opens no connections.
-/

namespace PromptChain.Main

open CommandLine

/-- Read the text of a file. -/
def readFile (path : String) : IO (Except FileFault String) := do
  try
    return File.text (← IO.FS.readBinFile path)
  catch
    | .noFileOrDirectory .. => return .error .notFound
    | .inappropriateType .. => return .error .isDirectory
    | e => return .error (.other (toString e))

/-- Read several files. -/
def readFiles (paths : List String) : IO (List (String × Except FileFault String)) :=
  paths.mapM fun path => return (path, ← readFile path)

/-- Read several environment variables. -/
def readVariables (names : List String) : IO (List (String × String)) := do
  let values ← names.mapM fun name => return (← IO.getEnv name).map (name, ·)
  return values.filterMap id

/-- What an invocation with the given files and variables can make use of; the seed tells
    its new blocks from those of others. -/
def surroundings (files : List (String × Except FileFault String))
    (known : List (String × String)) (seed : Nat) : Surroundings where
  file path := (List.lookup path files).getD (.error .notFound)
  environment name := List.lookup name known
  network := .unreachable "tcp connect error: Network is unreachable (os error 101)"
  newId n := "block-" ++ toString seed ++ "-" ++ toString n

/-- Perform an invocation. -/
def perform (invocation : Invocation) : IO Report := do
  let files ← readFiles invocation.paths
  let known ← readVariables Configuration.variableNames
  let seed ← IO.rand 0 1000000000
  let keyName? := invocation.keyName? (surroundings files known seed)
  let keys ← readVariables keyName?.toList
  return invocation.perform (surroundings files (known ++ keys) seed)

end PromptChain.Main

open PromptChain CommandLine in
/-- Do what the arguments ask for. -/
def main (arguments : List String) : IO UInt32 := do
  let report ←
    match Invocation.ofArguments arguments with
    | .ok invocation => PromptChain.Main.perform invocation
    | .error misuse => pure misuse.report
  IO.print report.output
  IO.eprint report.errors
  return report.status.toUInt32
