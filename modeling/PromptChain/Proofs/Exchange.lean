import PromptChain.Proofs.Gateway

/-!
# One request, one exchange

A request either lacks something, and is refused before anybody is asked (`Request.Lacks`), or
it asks the provider just once, within its own budget, for a text or for a value of the
structure that it describes. What the provider says is passed on as it is, save for a value that
breaks its schema and for failures, which are reported in the words of the gateway
(`Failure.ReportedAs`).
-/

namespace PromptChain

/-! ## Failures of providers -/

/-- How a failure of a provider is reported. -/
inductive Failure.ReportedAs : Failure → Failure → Prop
  /-- A failed generation is reported as it is. -/
  | generation (message : String) : ReportedAs (.generation message) (.generation message)
  /-- So is an answer that breaks its schema. -/
  | schemaViolations (violations : List Schema.Violation) :
      ReportedAs (.schemaViolations violations) (.schemaViolations violations)
  /-- Of a failure of the network, the cause is reported. -/
  | transport (cause : Http.TransportFault) :
      ReportedAs (.transport cause) (.generation cause.message)
  /-- Any other failure is reported in its own words. -/
  | other {failure : Failure} :
      (∀ message, failure ≠ .generation message) →
      (∀ violations, failure ≠ .schemaViolations violations) →
      (∀ cause, failure ≠ .transport cause) →
      ReportedAs failure (.generation failure.message)

namespace Failure

theorem reportedAs_ofProvider (failure : Failure) : failure.ReportedAs failure.ofProvider := by
  cases failure with
  | generation message => exact .generation message
  | schemaViolations violations => exact .schemaViolations violations
  | transport cause => exact .transport cause
  | missingPrompt | missingSchema | missingChoices | configuration | file | serialization =>
    exact .other nofun nofun nofun

/-- The failures that can be reported once a provider was asked. -/
def IsReport (failure : Failure) : Prop :=
  (∃ message, failure = .generation message) ∨ ∃ violations, failure = .schemaViolations violations

theorem isReport_ofProvider (failure : Failure) : failure.ofProvider.IsReport := by
  cases failure with
  | schemaViolations violations => exact .inr ⟨violations, rfl⟩
  | generation | transport | missingPrompt | missingSchema | missingChoices | configuration | file
  | serialization => exact .inl ⟨_, rfl⟩

end Failure

/-! ## Answers -/

namespace Answer

variable {schema : Schema.Compiled} {v : Json} {failure : Failure}

theorem isReport_of_ofText {said : Except Failure String} (h : ofText said = .error failure) :
    failure.IsReport := by
  cases said with
  | ok t => cases h
  | error cause =>
    cases h
    exact cause.isReport_ofProvider

/-- A value that passes the check is the answer, as it is. -/
theorem ofValue_of_isValid (h : (schema.check v).isValid = true) :
    ofValue schema (.ok v) = .ok (.structured v) := by
  rw [ofValue, Schema.Verdict.toExcept, if_pos h]

/-- Of any other value, all violations are reported. -/
theorem ofValue_of_not_isValid (h : ¬(schema.check v).isValid = true) :
    ofValue schema (.ok v) = .error (.schemaViolations (schema.check v).violations) := by
  rw [ofValue, Schema.Verdict.toExcept, if_neg h]

theorem isReport_of_ofValue {said : Except Failure Json} (h : ofValue schema said = .error failure) :
    failure.IsReport := by
  cases said with
  | ok v =>
    by_cases hv : (schema.check v).isValid = true
    · rw [ofValue_of_isValid hv] at h
      cases h
    · rw [ofValue_of_not_isValid hv] at h
      cases h
      exact .inr ⟨_, rfl⟩
  | error cause =>
    cases h
    exact cause.isReport_ofProvider

end Answer

namespace Request

/-! ## Refusals -/

/-- What a request lacks: the prompt first of all, then the structure of a value, then something
    to choose from. -/
inductive Lacks (request : Request) : Failure → Prop
  | prompt : request.prompt = "" → Lacks request .missingPrompt
  | schema :
      request.prompt ≠ "" → request.answerShape = .object → request.schema? = none →
      Lacks request .missingSchema
  | choices {description : Schema.Description} :
      request.prompt ≠ "" → request.answerShape = .object → request.schema? = some description →
      description.shape = .choice → description.choices = [] → Lacks request .missingChoices

variable {request : Request} {π : Type} [Provider π]

theorem send_of_lacks {failure : Failure} (h : request.Lacks failure) (provider : π) :
    request.send provider = (.now (.error failure), provider) := by
  have hcall : request.call = .error failure := by
    cases h with
    | prompt hp => simp [call, hp]
    | schema hp hs hn => simp [call, hp, hs, hn]
    | choices hp hs hd hshape hnone =>
      simp [call, hp, hs, hd, Schema.compile?_eq_none_iff.2 ⟨hshape, hnone⟩]
  rw [send, hcall]

/-- A request that lacks nothing has a prompt, and a structure that compiles if it is for a
    value. -/
theorem complete_of_not_lacks (h : ∀ failure, ¬request.Lacks failure) :
    request.prompt ≠ "" ∧ (request.answerShape = .object →
      ∃ description schema, request.schema? = some description ∧
        Schema.compile? description = some schema) := by
  have hp : request.prompt ≠ "" := fun hp => h _ (.prompt hp)
  refine ⟨hp, fun hs => ?_⟩
  cases hd : request.schema? with
  | none => exact absurd (.schema hp hs hd) (h _)
  | some description =>
    cases hc : Schema.compile? description with
    | none =>
      obtain ⟨hshape, hnone⟩ := Schema.compile?_eq_none_iff.1 hc
      exact absurd (.choices hp hs hd hshape hnone) (h _)
    | some schema => exact ⟨description, schema, rfl, hc⟩

/-! ## Exchanges -/

/-- The provider is asked for a text. -/
theorem send_of_text (hp : request.prompt ≠ "") (hs : request.answerShape = .text)
    (logged : Logged π) :
    let asked := Provider.askText request.prompt request.budget logged.provider
    (request.send logged).1.answer = Answer.ofText asked.1.answer ∧
      (request.send logged).2 =
        ⟨asked.2, logged.log ++ [⟨request.prompt, request.budget, none⟩]⟩ := by
  have hcall : request.call = .ok .text := by simp [call, hp, hs]
  rw [send, hcall]
  exact ⟨rfl, rfl⟩

/-- The provider is asked for a value of the structure that the request describes. -/
theorem send_of_value {description : Schema.Description} {schema : Schema.Compiled}
    (hp : request.prompt ≠ "") (hs : request.answerShape = .object)
    (hd : request.schema? = some description) (hc : Schema.compile? description = some schema)
    (logged : Logged π) :
    let asked := Provider.askValue request.prompt request.budget schema logged.provider
    (request.send logged).1.answer = Answer.ofValue schema asked.1.answer ∧
      (request.send logged).2 =
        ⟨asked.2, logged.log ++ [⟨request.prompt, request.budget, some schema⟩]⟩ := by
  have hcall : request.call = .ok (.value schema) := by simp [call, hp, hs, hd, hc]
  rw [send, hcall]
  exact ⟨rfl, rfl⟩

/-- Once the provider was asked, whatever goes wrong is reported as a failed generation or as an
    answer that breaks its schema. -/
theorem isReport_of_send {logged : Logged π} {failure : Failure}
    (hlog : (request.send logged).2.log ≠ logged.log)
    (hsent : (request.send logged).1.answer = .error failure) : failure.IsReport := by
  have hcomplete := @complete_of_not_lacks request fun failure h => by
    rw [send_of_lacks h] at hlog
    exact hlog rfl
  cases hs : request.answerShape with
  | text =>
    rw [(send_of_text hcomplete.1 hs logged).1] at hsent
    exact Answer.isReport_of_ofText hsent
  | object =>
    obtain ⟨description, schema, hd, hc⟩ := hcomplete.2 hs
    rw [(send_of_value hcomplete.1 hs hd hc logged).1] at hsent
    exact Answer.isReport_of_ofValue hsent

/-- A request that lacks nothing makes one exchange with the provider, and any other makes none. -/
theorem send_exchanges_once (request : Request) (logged : Logged π) :
    let budget : Budget := ⟨request.temperature, max 1 request.maxTokens⟩
    let sent := request.send logged
    -- What lacks something is refused, and the provider is left alone.
    (∀ failure, request.Lacks failure → sent = (.now (.error failure), logged)) ∧
    -- What asks for a text and lacks nothing asks the provider for it, just once. The answer is
    -- the text of the provider, or its failure is reported.
    ((∀ failure, ¬request.Lacks failure) → request.answerShape = .text →
      let asked := Provider.askText request.prompt budget logged.provider
      sent.2 = ⟨asked.2, logged.log ++ [⟨request.prompt, budget, none⟩]⟩ ∧
      (∀ t, asked.1.answer = .ok t → sent.1.answer = .ok (.text t)) ∧
      (∀ cause, asked.1.answer = .error cause → ∃ reported, cause.ReportedAs reported ∧
        sent.1.answer = .error reported)) ∧
    -- What asks for a value and lacks nothing asks the provider for it, just once. The answer is
    -- the value of the provider if that passes the check, or else all its violations, or the
    -- failure of the provider is reported.
    ((∀ failure, ¬request.Lacks failure) → request.answerShape = .object →
      ∃ description schema, request.schema? = some description ∧
        Schema.compile? description = some schema ∧
        let asked := Provider.askValue request.prompt budget schema logged.provider
        sent.2 = ⟨asked.2, logged.log ++ [⟨request.prompt, budget, some schema⟩]⟩ ∧
        (∀ v, asked.1.answer = .ok v → (schema.check v).isValid = true →
          sent.1.answer = .ok (.structured v)) ∧
        (∀ v, asked.1.answer = .ok v → ¬(schema.check v).isValid = true →
          sent.1.answer = .error (.schemaViolations (schema.check v).violations)) ∧
        (∀ cause, asked.1.answer = .error cause → ∃ reported, cause.ReportedAs reported ∧
          sent.1.answer = .error reported)) ∧
    -- After an exchange, all that can be reported is a failed generation, or an answer that
    -- breaks its schema.
    (∀ failure, sent.2.log ≠ logged.log → sent.1.answer = .error failure →
      (∃ message, failure = .generation message) ∨
        ∃ violations, failure = .schemaViolations violations) := by
  refine ⟨fun failure h => send_of_lacks h logged, fun h hs => ?_, fun h hs => ?_,
    fun failure => isReport_of_send⟩
  · obtain ⟨hanswer, hlog⟩ := send_of_text (complete_of_not_lacks h).1 hs logged
    refine ⟨hlog, fun t ht => ?_, fun cause hc => ⟨_, cause.reportedAs_ofProvider, ?_⟩⟩
    · exact hanswer.trans (congrArg Answer.ofText ht)
    · exact hanswer.trans (congrArg Answer.ofText hc)
  · obtain ⟨hp, hcomplete⟩ := complete_of_not_lacks h
    obtain ⟨description, schema, hd, hc⟩ := hcomplete hs
    obtain ⟨hanswer, hlog⟩ := send_of_value hp hs hd hc logged
    refine ⟨description, schema, hd, hc, hlog, fun v hv hvalid => ?_, fun v hv hvalid => ?_,
      fun cause hcause => ⟨_, cause.reportedAs_ofProvider, ?_⟩⟩
    · rw [hanswer, ← Answer.ofValue_of_isValid hvalid]
      exact congrArg _ hv
    · rw [hanswer, ← Answer.ofValue_of_not_isValid hvalid]
      exact congrArg _ hv
    · exact hanswer.trans (congrArg (Answer.ofValue schema) hcause)

/-- A request with an empty budget asks once, nobody is reached, and the reason is reported. -/
theorem send_exchanges_once_unreached :
    let request : Request := { Request.text "go" with maxTokens := 0 }
    let provider : Failing := ⟨.transport (.other "refused")⟩
    let sent := request.send (Logged.start provider)
    (∀ failure, ¬request.Lacks failure) ∧ sent.2.log = [⟨"go", ⟨defaultTemperature, 1⟩, none⟩] ∧
      sent.1.answer = .error (.generation "Transport error: refused") := by
  intro request provider sent
  have hcomplete : ∀ failure, ¬request.Lacks failure := by
    rintro failure (hp | ⟨-, hs, -⟩ | ⟨-, hs, -⟩)
    · exact absurd hp (by decide)
    · cases hs
    · cases hs
  obtain ⟨hlog, -, hfails⟩ := (send_exchanges_once request (Logged.start provider)).2.1 hcomplete rfl
  obtain ⟨reported, hreported, hanswer⟩ := hfails _ rfl
  refine ⟨hcomplete, congrArg Logged.log hlog, hanswer.trans ?_⟩
  cases hreported with
  | transport cause => rfl
  | other _ _ hne => exact absurd rfl (hne _)

end Request

end PromptChain
