import PromptChain.Gateway
import PromptChain.Proofs.Conformance

/-!
# Requests and their answers

A request that lacks nothing asks a provider once, and any other does not ask at all
(`Request.ask?`). A provider that keeps a log of what it is asked (`Logged`) answers as it
would without one, so the log tells what the provider is asked (`Request.send_logged`).

What becomes of the reply of the provider is `Request.Ends`, with one case for each way in
which a request can end; every request ends in one of these ways (`Request.ends_send`).
In particular a value that is handed on conforms to the description in the request.
-/

namespace PromptChain

/-- What a provider is asked: a prompt, within which budget, and the structure of the answer
    if that is to be a value. -/
structure Ask where
  prompt : String
  budget : Budget
  schema? : Option Schema.Compiled

/-- What a provider replies to a request. -/
inductive Request.Reply where
  /-- It is not asked. -/
  | unasked
  | text (answer : Except Failure String)
  | value (answer : Except Failure Json)

namespace Request

/-- The request is for a value of a structure that it describes. -/
structure Expects (request : Request) (description : Schema.Description) : Prop where
  prompt : request.prompt ≠ ""
  answerShape : request.answerShape = .object
  schema : request.schema? = some description
  compiles : (Schema.compile? description).isSome

/-- What a request asks of a provider: nothing, if it lacks the prompt or the structure of the
    answer. -/
def ask? (request : Request) : Option Ask :=
  if request.prompt = "" then none
  else
    match request.answerShape with
    | .text => some ⟨request.prompt, request.budget, none⟩
    | .object => (request.schema?.bind Schema.compile?).map fun schema =>
        ⟨request.prompt, request.budget, some schema⟩

variable {π : Type} [Provider π]

/-- What a provider replies to a request. -/
def reply (request : Request) (provider : π) : Reply :=
  match request.ask? with
  | none => .unasked
  | some ⟨prompt, budget, none⟩ => .text (Provider.askText prompt budget provider).1.answer
  | some ⟨prompt, budget, some schema⟩ =>
    .value (Provider.askValue prompt budget schema provider).1.answer

/-- The ways in which a request can end: what the provider replies, and what the answer is. -/
inductive Ends (request : Request) : Reply → Except Failure Answer → Prop
  | missingPrompt :
      request.prompt = "" → Ends request .unasked (.error .missingPrompt)
  | missingSchema :
      request.prompt ≠ "" → request.answerShape = .object → request.schema? = none →
      Ends request .unasked (.error .missingSchema)
  | missingChoices {description : Schema.Description} :
      request.prompt ≠ "" → request.answerShape = .object → request.schema? = some description →
      Schema.compile? description = none → Ends request .unasked (.error .missingChoices)
  | text {t : String} :
      request.prompt ≠ "" → request.answerShape = .text →
      Ends request (.text (.ok t)) (.ok (.text t))
  | noText {cause : Failure} :
      request.prompt ≠ "" → request.answerShape = .text →
      Ends request (.text (.error cause)) (.error cause.ofProvider)
  | value {description : Schema.Description} {v : Json} :
      request.Expects description → description.Conforms v →
      Ends request (.value (.ok v)) (.ok (.structured v))
  | violations {description : Schema.Description} {v : Json} {found : List Schema.Violation} :
      request.Expects description → ¬description.Conforms v → found ≠ [] →
      Ends request (.value (.ok v)) (.error (.schemaViolations found))
  | noValue {description : Schema.Description} {cause : Failure} :
      request.Expects description →
      Ends request (.value (.error cause)) (.error cause.ofProvider)

/-- A value that is handed on conforms to the description in the request. -/
theorem Ends.conforms {request : Request} {reply : Reply} {v : Json}
    (h : request.Ends reply (.ok (.structured v))) :
    ∃ description, request.Expects description ∧ description.Conforms v := by
  cases h with
  | value he hv => exact ⟨_, he, hv⟩

/-- A text that is handed on was asked for. -/
theorem Ends.answerShape_eq_text {request : Request} {reply : Reply} {t : String}
    (h : request.Ends reply (.ok (.text t))) : request.answerShape = .text := by
  cases h with
  | text _ hs => exact hs

/-- A request lacks something, or asks for a text, or for a value of the structure that it
    describes. -/
theorem call_cases (request : Request) :
    (∃ failure, request.call = .error failure ∧ request.ask? = none ∧
      request.Ends .unasked (.error failure)) ∨
    (request.call = .ok .text ∧ request.ask? = some ⟨request.prompt, request.budget, none⟩ ∧
      request.prompt ≠ "" ∧ request.answerShape = .text) ∨
    ∃ description schema, request.call = .ok (.value schema) ∧
      request.ask? = some ⟨request.prompt, request.budget, some schema⟩ ∧
      request.Expects description ∧ Schema.compile? description = some schema := by
  by_cases hp : request.prompt = ""
  · exact .inl ⟨.missingPrompt, by simp [call, hp], by simp [ask?, hp], .missingPrompt hp⟩
  cases ha : request.answerShape with
  | text => exact .inr (.inl ⟨by simp [call, hp, ha], by simp [ask?, hp, ha], hp, rfl⟩)
  | object =>
    cases hs : request.schema? with
    | none =>
      exact .inl ⟨.missingSchema, by simp [call, hp, ha, hs], by simp [ask?, hp, ha, hs],
        .missingSchema hp ha hs⟩
    | some description =>
      cases hc : Schema.compile? description with
      | none =>
        exact .inl ⟨.missingChoices, by simp [call, hp, ha, hs, hc], by simp [ask?, hp, ha, hs, hc],
          .missingChoices hp ha hs hc⟩
      | some schema =>
        exact .inr (.inr ⟨description, schema, by simp [call, hp, ha, hs, hc],
          by simp [ask?, hp, ha, hs, hc], ⟨hp, ha, hs, by simp [hc]⟩, hc⟩)

/-- A value from a provider is checked against the description in the request. -/
theorem ends_ofValue {request : Request} {description : Schema.Description}
    {schema : Schema.Compiled} (he : request.Expects description)
    (hc : Schema.compile? description = some schema) (answer : Except Failure Json) :
    request.Ends (.value answer) (Answer.ofValue schema answer) := by
  cases answer with
  | error cause => exact .noValue he
  | ok v =>
    rw [Answer.ofValue, Schema.Verdict.toExcept]
    by_cases hv : (schema.check v).isValid = true
    · rw [if_pos hv]
      exact .value he ((Schema.Compiled.isValid_check_iff hc v).1 hv)
    · rw [if_neg hv]
      refine .violations he (mt (Schema.Compiled.isValid_check_iff hc v).2 hv) fun hnil => hv ?_
      rw [Schema.Verdict.isValid, hnil]
      rfl

/-- Every request ends in one of the ways. -/
theorem ends_send (request : Request) (provider : π) :
    request.Ends (request.reply provider) (request.send provider).1.answer := by
  obtain ⟨failure, hcall, hask, hends⟩ | ⟨hcall, hask, hp, hs⟩ |
    ⟨description, schema, hcall, hask, he, hc⟩ := request.call_cases
  · rw [send, reply, hcall, hask]
    exact hends
  · rw [send, reply, hcall, hask]
    dsimp only [Ticket.map]
    cases (Provider.askText request.prompt request.budget provider).1.answer with
    | ok t => exact .text hp hs
    | error cause => exact .noText hp hs
  · rw [send, reply, hcall, hask]
    exact ends_ofValue he hc _

end Request

/-! ## What a provider is asked -/

/-- A provider that keeps a log of what it is asked. -/
structure Logged (π : Type) where
  provider : π
  log : List Ask

namespace Logged

variable {π : Type} [Provider π]

/-- A provider that has not been asked anything. -/
def start (provider : π) : Logged π := ⟨provider, []⟩

instance : Provider (Logged π) where
  name logged := Provider.name logged.provider
  askText prompt budget logged :=
    let (ticket, provider) := Provider.askText prompt budget logged.provider
    (ticket, ⟨provider, logged.log ++ [⟨prompt, budget, none⟩]⟩)
  askValue prompt budget schema logged :=
    let (ticket, provider) := Provider.askValue prompt budget schema logged.provider
    (ticket, ⟨provider, logged.log ++ [⟨prompt, budget, some schema⟩]⟩)

end Logged

/-- The log of a provider does not matter to the answer, and gets what the request asks. -/
theorem Request.send_logged {π : Type} [Provider π] (request : Request) (logged : Logged π) :
    request.send logged =
      ((request.send logged.provider).1,
        ⟨(request.send logged.provider).2, logged.log ++ request.ask?.toList⟩) := by
  obtain ⟨failure, hcall, hask, -⟩ | ⟨hcall, hask, -⟩ | ⟨-, schema, hcall, hask, -⟩ :=
    request.call_cases
  · simp [send, hcall, hask]
  · simp [send, hcall, hask, Provider.askText]
  · simp [send, hcall, hask, Provider.askValue]

end PromptChain
