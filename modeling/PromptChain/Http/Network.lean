import PromptChain.Json.Fault
import PromptChain.Json.Printer
import PromptChain.Url.Parser

/-!
# The network

JSON values are posted to a URL, and a response comes back, if there is anybody to
respond. What is at the other end is part of the state of the network: nobody, or a
server that gives its responses in turn and keeps what it has received. A request may
get no answer for a reason of the network (`Fault`), or none that is of use
(`TransportFault`).
-/

namespace PromptChain.Http

/-! ## Faults -/

/-- A failure below the level of HTTP statuses. -/
inductive Fault where
  /-- The address of the request is no URL. -/
  | invalidUrl (cause : Url.Error)
  /-- The address is a URL, but not one of HTTP. -/
  | unsupportedScheme (url : String)
  /-- A header may not have the value it was given. -/
  | invalidHeader
  /-- No connection could be made. -/
  | unreachable (url cause : String)
  /-- The body of the response is no JSON text. -/
  | invalidBody (cause : Json.SyntaxError)
deriving DecidableEq, Repr

/-- The wording of a failure. -/
def Fault.message : Fault → String
  | invalidUrl cause => "builder error: " ++ cause.message
  | unsupportedScheme url => "builder error for url (" ++ url ++ "): URL scheme is not allowed"
  | invalidHeader => "builder error: failed to parse header value"
  | unreachable url cause =>
    "error sending request for url (" ++ url ++ "): error trying to connect: " ++ cause
  | invalidBody cause => "error decoding response body: " ++ cause.message

/-- A failure of a request. -/
inductive TransportFault where
  | http (cause : Fault)
  /-- The response has a status that is no success. -/
  | status (code : Nat) (message : String)
  | other (message : String)
deriving DecidableEq, Repr

/-- The wording of a failed request. -/
def TransportFault.message : TransportFault → String
  | http cause => "HTTP error: " ++ cause.message
  | status code message => "HTTP " ++ toString code ++ ": " ++ message
  | other message => "Transport error: " ++ message

/-! ## Posts and responses -/

/-- A JSON value on its way to a URL. -/
structure Post where
  url : Url
  /-- The key that the sender shows. -/
  key? : Option String
  body : Json
deriving Repr

/-- A response. -/
structure Response where
  status : Nat
  body : String
deriving DecidableEq, Repr

/-- Whether a response tells of success. -/
def Response.isSuccess (response : Response) : Bool :=
  200 ≤ response.status && response.status < 300

/-- The network. -/
inductive Network where
  /-- No connection can be made, for the given reason. -/
  | unreachable (cause : String)
  /-- A server with the responses it is still to give and all it has received. -/
  | server (responses : List Response) (received : List Post)
deriving Repr

/-! ## Sending -/

/-- Whether a character may stand in a header. -/
def allowedInHeader (c : Char) : Bool := (0x20 ≤ c.toNat && c.toNat ≠ 0x7F) || c = '\t'

/-- A post to the URL that a text stands for. The URL must have a host, the key must fit
    into a header, and the scheme must be one of HTTP. -/
def Post.to? (url : String) (key? : Option String) (body : Json) : Except Fault Post :=
  match Url.ofText url with
  | .error cause => .error (.invalidUrl cause)
  | .ok url =>
    if !url.hasHost then .error (.unsupportedScheme url.text)
    else if key?.any fun key => !key.toList.all allowedInHeader then .error .invalidHeader
    else if url.scheme ≠ "http" && url.scheme ≠ "https" then
      .error (.unsupportedScheme url.anonymous.text)
    else .ok ⟨url.anonymous, key?, body⟩

/-- The response of a server that has no more responses. -/
def Response.nothingLeft : Response := ⟨599, "no response left"⟩

/-- Send a post. -/
def Network.send (post : Post) : Network → Except Fault Response × Network
  | unreachable cause => (.error (.unreachable post.url.text cause), unreachable cause)
  | server responses received =>
    (.ok (responses.headD .nothingLeft), server responses.tail (received ++ [post]))

end PromptChain.Http
