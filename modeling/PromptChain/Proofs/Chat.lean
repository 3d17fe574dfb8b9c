import PromptChain.Proofs.Envelope
import PromptChain.Proofs.Exchange
import PromptChain.Proofs.Extraction
import PromptChain.Provider.Chat

/-!
# A chat service is understood

A request for a structured value is posted to a chat service once, with the format of the answer.
If the service responds with a message that has the envelope of a conforming value in it, among
prose or in a fence, the value is the answer (`Request.send_understands`).
-/

namespace PromptChain

namespace Http

theorem Post.body_of_to? {url : String} {key? : Option String} {body : Json} {post : Post}
    (h : to? url key? body = .ok post) : post.body = body := by
  rw [to?] at h
  split at h
  · cases h
  · split at h
    · cases h
    · split at h
      · cases h
      · split at h
        · cases h
        · obtain rfl := Except.ok.inj h
          rfl

/-- A response of success has a message in its first choice, with a text and without a refusal. -/
structure Response.Says (response : Response) (content : String) : Prop where
  success : 200 ≤ response.status ∧ response.status < 300
  message : ∃ value message, Json.parse response.body = .ok value ∧
    value.pointer? ["choices", "0", "message"] = some message ∧
    (∀ refusal, message.get? "refusal" ≠ some (.string refusal)) ∧
    message.get? "content" = some (.string content)

/-- A response of success is delivered as its JSON value. -/
theorem Connection.post_of_response {connection : Connection} {path : String} {body value : Json}
    {post : Post} {response : Response} {later : List Response} {received : List Post}
    (hpost : Post.to? (connection.baseUrl ++ path) connection.key? body = .ok post)
    (hsuccess : 200 ≤ response.status ∧ response.status < 300)
    (hvalue : Json.parse response.body = .ok value) :
    connection.post path body (.server (response :: later) received) =
      (.ok value, .server later (received ++ [post])) := by
  have hresponse : response.isSuccess = true := by simpa [Response.isSuccess] using hsuccess
  rw [Connection.post, hpost]
  simp only [Network.send, List.headD_cons, valueOf, hresponse, if_true, hvalue]
  rfl

end Http

namespace ChatService

/-- The text of a message is taken if the model does not refuse. -/
theorem contentOf_eq_ok {response message : Json} {content : String}
    (hmessage : response.pointer? ["choices", "0", "message"] = some message)
    (hrefusal : ∀ refusal, message.get? "refusal" ≠ some (.string refusal))
    (hcontent : message.get? "content" = some (.string content)) :
    contentOf response = .ok content := by
  have hnone : (message.get? "refusal").bind Json.string? = none := by
    cases h : message.get? "refusal" with
    | none => rfl
    | some refusal =>
      cases refusal with
      | string text => exact absurd h (hrefusal text)
      | _ => rfl
  simp [contentOf, hmessage, hnone, hcontent, Json.string?]

/-- The format of the answer is part of what is posted. -/
theorem get?_requestBody (model prompt : String) (budget : Budget) (format : Json) :
    (requestBody model prompt budget (some format)).get? "response_format" = some format := rfl

/-- A value is taken from the text of a response. -/
theorem askValue_of_says {service : ChatService} {prompt : String} {budget : Budget}
    {schema : Schema.Compiled} {post : Http.Post} {response : Http.Response}
    {later : List Http.Response} {received : List Http.Post} {content : String} {v : Json}
    (hnetwork : service.network = .server (response :: later) received)
    (hpost : Http.Post.to? (service.connection.baseUrl ++ path) service.connection.key?
      (requestBody service.model prompt budget (some schema.responseFormat)) = .ok post)
    (hsaid : response.Says content) (hvalue : valueOf schema content = .ok v) :
    Provider.askValue prompt budget schema service =
      (.now (.ok v), { service with network := .server later (received ++ [post]) }) := by
  obtain ⟨hsuccess, value, message, hbody, hmessage, hrefusal, hcontent⟩ := hsaid
  have hposted := @Http.Connection.post_of_response service.connection path _ value post response
    later received hpost hsuccess hbody
  have hcomplete : service.complete prompt budget (some schema.responseFormat) =
      (.ok content, { service with network := .server later (received ++ [post]) }) := by
    rw [complete, hnetwork, hposted]
    exact congrArg (·, _) (contentOf_eq_ok hmessage hrefusal hcontent)
  simp only [Provider.askValue, hcomplete, Except.bind, hvalue]

end ChatService

namespace Request

/-- A chat service that responds with the envelope of a conforming value, whatever it says around
    it, is understood: the value is the answer, after one post that has the format of the answer
    in it. -/
theorem send_understands {request : Request} {description : Schema.Description}
    {compiled : Schema.Compiled} {v : Json} {service : ChatService} {post : Http.Post}
    {response : Http.Response} {later : List Http.Response} {received : List Http.Post}
    {t content : String} (hprompt : request.prompt ≠ "") (hshape : request.answerShape = .object)
    (hdescription : request.schema? = some description)
    (hcompiled : Schema.compile? description = some compiled) (hv : description.Conforms v)
    -- The text of an object, which is the value in its envelope, if there is one for its shape.
    (hfirst : t.toList.head? = some '\x7b') (hlast : t.toList.getLast? = some '\x7d')
    (ht : Json.parse t = .ok
      (match description.shape with
        | .single => v
        | .list => .object [("elements", v)]
        | .choice => .object [("result", v)]))
    -- The service responds with this text in its message.
    (hwraps : Answer.Wraps t.toList content.toList)
    (hnetwork : service.network = .server (response :: later) received)
    (hpost : Http.Post.to? (service.connection.baseUrl ++ "/chat/completions")
      service.connection.key? (ChatService.requestBody service.model request.prompt request.budget
        (some compiled.responseFormat)) = .ok post)
    (hsaid : response.Says content) :
    request.send service =
        (.now (.ok (.structured v)),
          { service with network := .server later (received ++ [post]) }) ∧
      post.body.get? "response_format" = some compiled.responseFormat := by
  have hwrap : Json.parse t = .ok (compiled.wrap v) := by
    rw [ht, Schema.Compiled.wrap, Schema.Compiled.shape_of_compile? hcompiled]
    cases description.shape <;> rfl
  have hvalue : ChatService.valueOf compiled content = .ok v := by
    rw [ChatService.valueOf, Answer.extract?_of_wraps hfirst hlast hwrap hwraps]
    exact congrArg Except.ok (compiled.unwrap_wrap v)
  have hcall : request.call = .ok (.value compiled) := by
    simp [call, hprompt, hshape, hdescription, hcompiled]
  have hvalid := (compiled.isValid_check_iff hcompiled v).2 hv
  refine ⟨?_, ?_⟩
  · rw [send, hcall]
    simp only [ChatService.askValue_of_says hnetwork hpost hsaid hvalue]
    rw [Ticket.map, Ticket.now, Answer.ofValue_of_isValid hvalid]
    rfl
  · rw [Http.Post.body_of_to? hpost]
    exact ChatService.get?_requestBody _ _ _ _

/-- A choice in its envelope, in a fence that is not marked, behind a greeting. -/
theorem send_understands_choice :
    ∃ (request : Request) (service : ChatService) (response : Http.Response) (post : Http.Post),
      request.schema? = some (.choice ["yes", "no"]) ∧
      service.network = .server [response] [] ∧
      response.Says "Sure:\n```\n\x7b\"result\": \"yes\"\x7d\n```" ∧
      request.send service = (.now (.ok (.structured (.string "yes"))),
        { service with network := .server [] [post] }) := by
  let request : Request :=
    { Request.text "go" with answerShape := .object, schema? := some (.choice ["yes", "no"]) }
  let response : Http.Response := ⟨200, "\x7b\"choices\":[\x7b\"message\":\x7b\"content\":" ++
    "\"Sure:\\n```\\n\x7b\\\"result\\\": \\\"yes\\\"\x7d\\n```\"\x7d\x7d]\x7d"⟩
  let service : ChatService := ⟨⟨"http://[::1]", none⟩, "model", .server [response] []⟩
  have hbody : Json.parse response.body = .ok (.object [("choices", .array [.object [("message",
      .object [("content", .string "Sure:\n```\n\x7b\"result\": \"yes\"\x7d\n```")])]])]) := by
    decide +kernel
  have hsaid : response.Says "Sure:\n```\n\x7b\"result\": \"yes\"\x7d\n```" :=
    ⟨by decide, _, _, hbody, rfl, (by simp [Json.get?, Json.lookup]), rfl⟩
  have hwraps : Answer.Wraps "\x7b\"result\": \"yes\"\x7d".toList
      "Sure:\n```\n\x7b\"result\": \"yes\"\x7d\n```".toList :=
    @Answer.Wraps.fenced _ "Sure:\n".toList [] [] (by decide) (by decide) (.inl rfl)
  have henvelope : Json.parse "\x7b\"result\": \"yes\"\x7d" =
      .ok (.object [("result", .string "yes")]) := by
    decide +kernel
  obtain ⟨compiled, hcompiled⟩ :
      ∃ compiled, Schema.compile? (.choice ["yes", "no"]) = some compiled := ⟨_, rfl⟩
  obtain ⟨post, hpost⟩ : ∃ post, Http.Post.to? "http://[::1]/chat/completions" none
    (ChatService.requestBody "model" "go" request.budget (some compiled.responseFormat)) =
      .ok post := ⟨_, rfl⟩
  have hconforms : (Schema.Description.choice ["yes", "no"]).Conforms (.string "yes") :=
    .choice rfl (by decide)
  exact ⟨request, service, response, post, rfl, rfl, hsaid,
    (@send_understands request _ compiled _ service post response [] [] _ _ (by decide) rfl rfl
      hcompiled hconforms rfl rfl henvelope hwraps rfl hpost hsaid).1⟩

end Request

end PromptChain
