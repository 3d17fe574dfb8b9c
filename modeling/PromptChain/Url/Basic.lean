import PromptChain.Url.Address

/-!
# URLs

A URL is kept in its parts, all of them in the encoding in which they are written. A text
that is no URL is none for a reason (`Url.Error`).
-/

namespace PromptChain

/-- The host of a URL. -/
inductive Url.Host where
  /-- A domain, or the name of a host for a scheme that does not care for domains. -/
  | name (name : String)
  | ipv4 (address : Nat)
  | ipv6 (pieces : List Nat)
deriving DecidableEq, Repr

/-- The text of a host. -/
def Url.Host.text : Url.Host → String
  | .name text => text
  | .ipv4 address => ipv4Text address
  | .ipv6 pieces => "[" ++ ipv6Text pieces ++ "]"

/-- The path of a URL. -/
inductive Url.Path where
  /-- A text that is not divided. -/
  | whole (text : String)
  | parts (parts : List String)
deriving DecidableEq, Repr

/-- The text of a path. -/
def Url.Path.text : Url.Path → String
  | .whole text => text
  | .parts ps => String.join (ps.map ("/" ++ ·))

/-- Who is to be let in at a host, and the host. -/
structure Url.Authority where
  user : String
  password? : Option String
  host : Url.Host
  /-- The port, if it is not the one that everybody expects. -/
  port? : Option Nat
deriving DecidableEq, Repr

/-- The text of an authority. -/
def Url.Authority.text (authority : Url.Authority) : String :=
  let password := (authority.password?.map (":" ++ ·)).getD ""
  let who := authority.user ++ password
  (if who.isEmpty then "" else who ++ "@") ++ authority.host.text ++
    (authority.port?.map fun port => ":" ++ toString port).getD ""

/-- A URL. -/
structure Url where
  scheme : String
  authority? : Option Url.Authority
  path : Url.Path
  query? : Option String
  fragment? : Option String
deriving DecidableEq, Repr

namespace Url

/-- The text of a URL. Without an authority, a path that starts with two slashes is set
    off by a dot. -/
def text (url : Url) : String :=
  let authority :=
    match url.authority?, url.path with
    | some authority, _ => "//" ++ authority.text
    | none, .parts ("" :: _ :: _) => "/."
    | none, _ => ""
  url.scheme ++ ":" ++ authority ++ url.path.text ++ (url.query?.map ("?" ++ ·)).getD "" ++
    (url.fragment?.map ("#" ++ ·)).getD ""

/-- Whether the URL has a host with a name. -/
def hasHost (url : Url) : Bool := url.authority?.any (·.host ≠ .name "")

/-- The URL without a user name and a password. -/
def anonymous (url : Url) : Url :=
  { url with
    authority? := url.authority?.map fun authority =>
      { authority with user := "", password? := none } }

/-! ## Texts that are no URLs -/

/-- A reason why a text is no URL. -/
inductive Error where
  /-- It does not start with a scheme. -/
  | noScheme
  | emptyHost
  | invalidPort
  | invalidIpv4
  | invalidIpv6
  /-- The host is to be a domain, and has characters that no domain may have. -/
  | invalidDomain
  /-- The host need not be a domain, but has characters that no host may have. -/
  | invalidHost
deriving DecidableEq, Repr

/-- The wording of a reason. -/
def Error.message : Error → String
  | noScheme => "relative URL without a base"
  | emptyHost => "empty host"
  | invalidPort => "invalid port number"
  | invalidIpv4 => "invalid IPv4 address"
  | invalidIpv6 => "invalid IPv6 address"
  | invalidDomain => "invalid international domain name"
  | invalidHost => "invalid domain character"

end Url

end PromptChain
