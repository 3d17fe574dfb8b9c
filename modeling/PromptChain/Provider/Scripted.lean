import PromptChain.Json.Printer
import PromptChain.Provider.Basic

/-!
# A scripted provider

A provider for trials: it gives the answers of a script in turn, and keeps a record of
the calls. When the script has ended it echoes prompts, and has no structured answers.
-/

namespace PromptChain

/-- What a scripted reply says. -/
inductive Scripted.Content where
  | text (text : String)
  | object (value : Json)
  | failure (message : String)
deriving Repr

/-- A scripted reply. -/
structure Scripted.Reply where
  content : Scripted.Content
  /-- The delay of this reply, in place of the provider's. -/
  delay? : Option Nat
deriving Repr

/-- A call as it came in. -/
structure Scripted.Call where
  prompt : String
  budget : Budget
  /-- The shape of a structured answer, if one was asked for. -/
  shape? : Option Schema.Shape
deriving DecidableEq, Repr

/-- A scripted provider. -/
structure Scripted where
  /-- The replies that are still to be given. -/
  script : List Scripted.Reply
  /-- The calls so far. -/
  calls : List Scripted.Call
  /-- The delay of a reply that has none of its own. -/
  latency? : Option Nat
deriving Repr

namespace Scripted

/-- A provider without a script. -/
def echo : Scripted := ⟨[], [], none⟩

/-- Put replies at the end of the script. -/
def extend (replies : List Reply) (provider : Scripted) : Scripted :=
  { provider with script := provider.script ++ replies }

/-- Record a call and take the next reply from the script. -/
def take (call : Call) (provider : Scripted) : Option Reply × Scripted :=
  (provider.script.head?,
    { provider with script := provider.script.tail, calls := provider.calls ++ [call] })

/-- How long a reply takes. -/
def delay? (provider : Scripted) (reply? : Option Reply) : Option Nat :=
  (reply?.bind Reply.delay?) <|> provider.latency?

/-- The text that a reply gives. -/
def textOf (prompt : String) : Option Content → Except Failure String
  | none => .ok prompt
  | some (.text t) => .ok t
  | some (.object value) => .ok value.render
  | some (.failure message) => .error (.generation message)

/-- The value that a reply gives. -/
def valueOf (schema : Schema.Compiled) : Option Content → Except Failure Json
  | some (.object value) => .ok (schema.unwrap value)
  | some (.text t) => .ok (.string t)
  | some (.failure message) => .error (.generation message)
  | none => .error (.generation "no scripted structured reply")

instance : Provider Scripted where
  name _ := "in-memory"
  askText prompt budget provider :=
    let (reply?, after) := provider.take ⟨prompt, budget, none⟩
    (⟨textOf prompt (reply?.map Reply.content), provider.delay? reply?⟩, after)
  askValue prompt budget schema provider :=
    let (reply?, after) := provider.take ⟨prompt, budget, some schema.shape⟩
    (⟨valueOf schema (reply?.map Reply.content), provider.delay? reply?⟩, after)

end Scripted

end PromptChain
