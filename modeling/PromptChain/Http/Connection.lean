import PromptChain.Configuration.Basic
import PromptChain.Failure
import PromptChain.Http.Network
import PromptChain.Json.Draft

/-!
# Connections to a service

A connection knows where a service is and which key to show there. `Connection.post`
asks the service for a JSON value; a response that tells of no success is a failure with
the message that the service gives.
-/

namespace PromptChain.Http

/-- A connection to a service. -/
structure Connection where
  /-- The start of all URLs, without a slash at the end. -/
  baseUrl : String
  key? : Option String
deriving DecidableEq, Repr

/-! ## Proxies -/

/-- The URL of a proxy, whose scheme may be left out. -/
def proxyUrl (proxy : String) : Except Fault Url :=
  let guess (fault : Fault) : Except Fault Url :=
    match Url.ofText ("http://" ++ proxy) with
    | .ok url => if url.hasHost then .ok url else .error fault
    | .error _ => .error fault
  match Url.ofText proxy with
  | .ok url => if url.hasHost then .ok url else guess (.unsupportedScheme url.text)
  | .error .noScheme => guess (.invalidUrl .noScheme)
  | .error cause => .error (.invalidUrl cause)

/-- Why a text is no proxy. -/
def proxyFault? (proxy : String) : Option String :=
  match proxyUrl proxy with
  | .ok url =>
    if url.scheme = "http" || url.scheme = "https" then none
    else some "builder error: unknown proxy scheme"
  | .error fault => some ("builder error: " ++ fault.message)

namespace Connection

/-- The text without slashes at its end. -/
def withoutSlashes (text : String) : String :=
  String.ofList (text.toList.reverse.dropWhile (· = '/')).reverse

/-- The key for a service: the one that is given, or the one in the environment, unless
    that is blank. -/
def keyOf (service : Configuration.Service) (environment : Configuration.Environment) :
    Option String :=
  service.key? <|> (environment service.keyName).filter fun key => Text.trimmed key ≠ ""

/-- A connection to a service, unless its proxy is none. -/
def ofService (service : Configuration.Service) (environment : Configuration.Environment) :
    Except Failure Connection :=
  match service.proxy?.bind proxyFault? with
  | some fault => .error (.transport (.other ("invalid proxy url: " ++ fault)))
  | none => .ok ⟨withoutSlashes service.baseUrl, keyOf service environment⟩

/-- The message in the body of a response without success: its JSON value may have one,
    else it is the message itself. -/
def errorMessage (body : String) : String :=
  let told? := do
    let value ← (Json.parse body).toOption
    let message ← value.pointer? ["error", "message"] <|> value.get? "message"
    message.string?
  told?.getD (Text.trimmed body)

/-- The JSON value of a response. -/
def valueOf (response : Response) : Except TransportFault Json :=
  if response.isSuccess then
    match Json.parse response.body with
    | .ok value => .ok value
    | .error cause => .error (.http (.invalidBody cause))
  else .error (.status response.status (errorMessage response.body))

/-- Post a JSON value to a path of the service. -/
def post (path : String) (body : Json) (connection : Connection) (network : Network) :
    Except Failure Json × Network :=
  match Post.to? (connection.baseUrl ++ path) connection.key? body with
  | .error fault => (.error (.transport (.http fault)), network)
  | .ok post =>
    match network.send post with
    | (.error fault, network) => (.error (.transport (.http fault)), network)
    | (.ok response, network) => ((valueOf response).mapError .transport, network)

end Connection

end PromptChain.Http
