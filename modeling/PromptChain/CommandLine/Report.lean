import PromptChain.CommandLine.Invocation
import PromptChain.Failure
import PromptChain.Flow.Engine
import PromptChain.Text.Quoted

/-!
# Reports

What the program says in the end: on the standard output, on the standard error, and by
its exit status, which is 0 if all went well, 1 if nothing could be done, and 2 if some
blocks of a flow failed.
-/

namespace PromptChain.CommandLine

/-- What the program says. -/
structure Report where
  status : UInt8
  output : String
  errors : String
deriving DecidableEq, Repr

/-- Lines of text, each with its end. -/
def lines (texts : List String) : String := String.join (texts.map (· ++ "\n"))

/-- The report that all went well. -/
def Report.success (output errors : List String) : Report := ⟨0, lines output, lines errors⟩

/-- The report that nothing could be done, from the consequence down to the cause. -/
def Report.trouble (reasons : List String) : Report :=
  ⟨1, "", lines ["Error: " ++ ": ".intercalate reasons]⟩

/-- A failure and what caused it. -/
def reasonsOf (failure : Failure) : List String := failure.message :: failure.cause?.toList

/-! ## The program itself -/

/-- How the program is used. -/
def usage : String :=
  lines
    ["ai-flow-cli: linear LLM block flows",
      "",
      "USAGE:",
      "    ai-flow-cli <COMMAND> [OPTIONS]",
      "",
      "COMMANDS:",
      "    run <flow> [--config <path>] [--dry-run]",
      "                                Execute every block in order and print results",
      "    resolve <flow> <index>      Print the resolved prompt of block <index> (no provider call)",
      "    compile <schema.json>       Print the compiled request schema for a schema description",
      "    version                     Show version information",
      "    help                        Show this help message",
      "",
      "FLOW FILES:",
      "    YAML (.yaml/.yml) or JSON (.json) with a `blocks` list.",
      "",
      "ENVIRONMENT:",
      "    AI_FLOW_BASE_URL            Provider base URL (default https://api.openai.com/v1)",
      "    AI_FLOW_MODEL               Model name",
      "    OPENAI_API_KEY              API key (checked after the OS keyring, service \"ai-flow\")",
      "    AI_FLOW_TEMPERATURE         Default temperature for blocks that omit it",
      "    AI_FLOW_MAX_TOKENS          Default max tokens for blocks that omit it",
      "    RUST_LOG                    Log filter (default \"info\")"]

/-- The version of the program. -/
def version : String := "ai-flow-cli 0.1.0"

/-- What the program says about arguments that it does not understand. -/
def Misuse.report : Misuse → Report
  | noCommand => ⟨1, usage, ""⟩
  | unknownCommand name => ⟨1, usage, lines ["Unknown command: " ++ name, ""]⟩
  | noFlow => .trouble ["missing flow file; usage: ai-flow-cli run <flow>"]
  | noIndex => .trouble ["usage: ai-flow-cli resolve <flow> <index>"]
  | badIndex text fault => .trouble ["invalid block index: " ++ text, fault.message]
  | noSchema => .trouble ["usage: ai-flow-cli compile <schema.json>"]

/-! ## Flows -/

/-- What is said about a result. -/
def resultLine : Option Block.Result → String
  | none => "(no result)"
  | some (.failed message) =>
    "FAILED: Failed \x7b message: " ++ Text.quoted message ++ " \x7d"
  | some result => Template.resultText result

/-- What is said about an outcome, when the store has come to the given state. -/
def outcomeLines (store : Store) (outcome : Outcome) : List String :=
  let name := ((store.find? outcome.id).map Block.name).getD "?"
  ["=== [" ++ toString outcome.index ++ "] " ++ name ++ " ==="] ++
    (outcome.prompt?.map ("prompt: " ++ ·)).toList ++ [resultLine outcome.result?, ""]

/-- What is said about the execution of a flow by a provider with the given name. -/
def flowReport (provider : String) (store : Store) (outcomes : List Outcome) : Report :=
  let total := outcomes.length
  let failures := outcomes.countP Outcome.isFailure
  let summary := toString (total - failures) ++ "/" ++ toString total ++ " blocks succeeded"
  { status := if failures = 0 then 0 else 2
    output := lines
      (["Provider: " ++ provider, ""] ++ outcomes.flatMap (outcomeLines store) ++ [summary])
    errors := "" }

/-- What is said about a mention that stands for nothing. -/
def unresolvedLine (mention : Template.Mention) (reason : Template.Unresolved) : String :=
  let why :=
    match reason with
    | .noPredecessor => "NoPredecessor"
    | .nameMismatch expected actual =>
      "NameMismatch \x7b expected: " ++ Text.quoted expected ++ ", actual: " ++
        Text.quoted actual ++ " \x7d"
  "unresolved @[" ++ mention.display ++ "](" ++ mention.identifier ++ "): " ++ why

/-- What is said about a resolved prompt. -/
def resolutionReport (resolution : Template.Resolution) : Report :=
  .success [resolution.text]
    (resolution.unresolved.map fun (mention, reason) => unresolvedLine mention reason)

/-- What is said about a compiled schema. -/
def schemaReport (schema : Schema.Compiled) : Report :=
  .success [schema.requestSchema.pretty]
    (schema.fallbackFields.map fun field =>
      "field '" ++ field ++ "' has an unknown type; compiled as string")

end PromptChain.CommandLine
