import PromptChain.CommandLine.Report
import PromptChain.Configuration.Validation
import PromptChain.Decode.OfText
import PromptChain.Flow.Definition
import PromptChain.Provider.Chat
import PromptChain.Provider.Scripted

/-!
# Doing what is asked

All that an invocation does is a function of its surroundings: the files and environment
variables that it can look at, the network, and the ids for new blocks.
-/

namespace PromptChain.CommandLine

/-- What an invocation can make use of. -/
structure Surroundings where
  /-- The text of the file at a path. -/
  file : String → Except FileFault String
  environment : Configuration.Environment
  network : Http.Network
  /-- The ids for new blocks, one after the other. -/
  newId : Nat → String

namespace Surroundings

/-- The configuration, with the file that it is taken from, if any. -/
def configuration (surroundings : Surroundings) (path? : Option String) :
    Except Failure Configuration := do
  let file? ← path?.mapM fun path => do
    return (path, ← (surroundings.file path).mapError .file)
  Configuration.load file? surroundings.environment

/-- The flow in a file. -/
def flow (surroundings : Surroundings) (path : String) : Except Failure FlowDefinition := do
  FlowDefinition.ofFile path (← (surroundings.file path).mapError .file)

end Surroundings

/-- Go on with a result, or report in which connection there is none, and why. -/
def orTrouble {α : Type} (connection : List String) (result : Except Failure α) (go : α → Report) :
    Report :=
  match result with
  | .ok a => go a
  | .error failure => .trouble (connection ++ reasonsOf failure)

/-- Load a configuration and the flow in a file, and go on with the blocks of the
    flow. -/
def withFlow (surroundings : Surroundings) (configuration? : Option String) (path : String)
    (go : Configuration → List Block → Report) : Report :=
  orTrouble [] (surroundings.configuration configuration?) fun configuration =>
    orTrouble ["loading flow " ++ path] (surroundings.flow path) fun definition =>
      go configuration (definition.toBlocks configuration.defaults surroundings.newId)

/-- Execute all blocks in order. -/
def runBlocks {π : Type} [Provider π] (provider : π) (blocks : List Block) : Report :=
  let (outcomes, store, _) := (Store.ofBlocks blocks).executeFlow provider
  flowReport (Provider.name provider) store outcomes

/-- Show the prompt of a block as it is before any block has been executed. -/
def preview (blocks : List Block) (index : Nat) : Report :=
  match blocks[index]? with
  | none =>
    .trouble
      ["flow has " ++ toString blocks.length ++ " blocks; index " ++ toString index ++
        " is out of range"]
  | some block =>
    resolutionReport (Template.resolve (block.settings.prompt?.getD "") blocks index)

/-- Compile the schema description that a text is. -/
def compileText (path text : String) : Report :=
  match Json.decodeText Schema.Description.decode text with
  | .error cause => .trouble ["parsing " ++ path, cause.message]
  | .ok description =>
    match Schema.compile? description with
    | none => .trouble (reasonsOf .missingChoices)
    | some schema => schemaReport schema

/-- Do what is asked. -/
def Invocation.perform (surroundings : Surroundings) : Invocation → Report
  | run path configuration? rehearse =>
    withFlow surroundings configuration? path fun configuration blocks =>
      if rehearse then runBlocks Scripted.echo blocks
      else
        orTrouble []
          (ChatService.ofService configuration.service surroundings.environment
            surroundings.network)
          fun service => runBlocks service blocks
  | resolve path index =>
    withFlow surroundings none path fun _ blocks => preview blocks index
  | compile path =>
    match surroundings.file path with
    | .error fault => .trouble ["reading " ++ path, fault.message]
    | .ok text => compileText path text
  | version => .success [CommandLine.version] []
  | help => ⟨0, usage, ""⟩

/-- Do what the arguments ask for, or say why they cannot be understood. -/
def perform (surroundings : Surroundings) (arguments : List String) : Report :=
  match Invocation.ofArguments arguments with
  | .ok invocation => invocation.perform surroundings
  | .error misuse => misuse.report

/-- The environment variable with the key for the service, if the configuration of an
    invocation is good. -/
def Invocation.keyName? (surroundings : Surroundings) : Invocation → Option String
  | run _ configuration? _ =>
    (surroundings.configuration configuration?).toOption.map (·.service.keyName)
  | _ => none

end PromptChain.CommandLine
