import PromptChain.Failure
import PromptChain.Schema.Compiled

/-!
# Providers

A provider answers prompts. It may keep a state of its own, which every call changes,
and it decides all about a call when the call starts: the answer, and how long it takes
to come. The simplest provider always fails (`Failing`).
-/

namespace PromptChain

/-- What is known of a call when it starts. -/
structure Ticket (α : Type) where
  /-- The answer that will come. -/
  answer : Except Failure α
  /-- How many milliseconds it takes; an answer without delay is there at once. -/
  delay? : Option Nat
deriving Repr

/-- The ticket of an answer that is there at once. -/
def Ticket.now {α : Type} (answer : Except Failure α) : Ticket α := ⟨answer, none⟩

/-- Go on from the answer of a ticket. -/
def Ticket.map {α β : Type} (f : Except Failure α → Except Failure β) (ticket : Ticket α) :
    Ticket β :=
  ⟨f ticket.answer, ticket.delay?⟩

/-- What a provider is told with a prompt. -/
structure Budget where
  temperature : Binary64
  maxTokens : UInt32
deriving DecidableEq, Repr

/-- A type of providers, or of states of a provider. -/
class Provider (π : Type) where
  /-- The name of a provider. -/
  name : π → String
  /-- Ask for free text. -/
  askText : String → Budget → π → Ticket String × π
  /-- Ask for a value of the given structure, out of its envelope. -/
  askValue : String → Budget → Schema.Compiled → π → Ticket Json × π

/-- A provider whose every call fails in the same way. -/
structure Failing where
  failure : Failure

instance : Provider Failing where
  name _ := "failing"
  askText _ _ provider := (.now (.error provider.failure), provider)
  askValue _ _ _ provider := (.now (.error provider.failure), provider)

end PromptChain
