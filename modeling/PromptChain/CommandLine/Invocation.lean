import PromptChain.Text.Basic

/-!
# What the program is asked to do

The first argument names a command, the others belong to it. A flow can be run, one of
its prompts can be shown as it is resolved before the run, and a schema description can
be compiled.
-/

namespace PromptChain.CommandLine

/-- What the program is asked to do. -/
inductive Invocation where
  /-- Execute all blocks of the flow in a file, in a rehearsal or for good. -/
  | run (path : String) (configuration? : Option String) (rehearse : Bool)
  /-- Show the prompt of a block. -/
  | resolve (path : String) (index : Nat)
  /-- Show what becomes of the schema description in a file. -/
  | compile (path : String)
  | version
  | help
deriving DecidableEq, Repr

/-- Why arguments cannot be understood. -/
inductive Misuse where
  | noCommand
  | unknownCommand (name : String)
  | noFlow
  | noIndex
  | badIndex (text : String) (fault : Text.CountFault)
  | noSchema
deriving DecidableEq, Repr

/-- The argument after the first occurrence of a flag. -/
def valueAfter? (flag : String) (arguments : List String) : Option String :=
  (arguments.dropWhile (· ≠ flag)).tail.head?

/-- What is to be run. The flow comes first. -/
def runOf (arguments : List String) : Except Misuse Invocation :=
  match arguments with
  | [] => .error .noFlow
  | path :: _ =>
    if path.toList.take 2 = ['-', '-'] then .error .noFlow
    else
      .ok (.run path (valueAfter? "--config" arguments) (arguments.contains "--dry-run"))

/-- Which prompt is to be shown. -/
def resolveOf (arguments : List String) : Except Misuse Invocation :=
  match arguments with
  | path :: index :: _ =>
    match Text.count? UInt64.size index with
    | .ok n => .ok (.resolve path n)
    | .error fault => .error (.badIndex index fault)
  | _ => .error .noIndex

/-- What is to be compiled. -/
def compileOf (arguments : List String) : Except Misuse Invocation :=
  match arguments with
  | path :: _ => .ok (.compile path)
  | [] => .error .noSchema

/-- What the arguments ask for. -/
def Invocation.ofArguments (arguments : List String) : Except Misuse Invocation :=
  match arguments with
  | [] => .error .noCommand
  | command :: rest =>
    if command = "run" then runOf rest
    else if command = "resolve" then resolveOf rest
    else if command = "compile" then compileOf rest
    else if ["version", "--version", "-V"].contains command then .ok .version
    else if ["help", "--help", "-h"].contains command then .ok .help
    else .error (.unknownCommand command)

/-- The files that are read. -/
def Invocation.paths : Invocation → List String
  | run path configuration? _ => configuration?.toList ++ [path]
  | resolve path _ | compile path => [path]
  | version | help => []

end PromptChain.CommandLine
