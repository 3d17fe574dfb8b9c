import PromptChain.Url.Basic
import PromptChain.Url.Domain

/-!
# Reading URLs

A URL is read leniently: blanks around it and line breaks in it do not count, and what
may not stand in a part is encoded. The schemes of the web (and of files) are *special*:
their URLs always have an authority and a path, backslashes count as slashes, and their
hosts are domains or addresses.
-/

namespace PromptChain.Url

/-- The ports of the special schemes; files have none. -/
def specialPorts : List (String × Option Nat) :=
  [("http", some 80), ("ws", some 80), ("https", some 443), ("wss", some 443),
    ("ftp", some 21), ("file", none)]

/-- Whether a scheme is special. -/
def isSpecial (scheme : String) : Bool := (List.lookup scheme specialPorts).isSome

/-- The port that everybody expects for a scheme. -/
def expectedPort? (scheme : String) : Option Nat := (List.lookup scheme specialPorts).join

/-- The characters of a text that count. -/
def significant (text : String) : List Char :=
  let isBlank (c : Char) := c.toNat ≤ 0x20
  let trimmed := ((text.toList.dropWhile isBlank).reverse.dropWhile isBlank).reverse
  trimmed.filter fun c => c ≠ '\t' && c ≠ '\n' && c ≠ '\r'

/-- The scheme at the start, in small letters, and what comes after its colon. -/
def scheme? (text : List Char) : Option (String × List Char) :=
  let isSchemeChar (c : Char) := c.isAlphanum || c = '+' || c = '-' || c = '.'
  match text.dropWhile isSchemeChar with
  | ':' :: rest =>
    if text.head?.any Char.isAlpha then
      some (String.ofList ((text.takeWhile isSchemeChar).map Char.toLower), rest)
    else none
  | _ => none

/-- Whether a character is a slash, in the URLs of special schemes or of others. -/
def isSlash (special : Bool) (c : Char) : Bool := c = '/' || (special && c = '\\')

/-- Whether a character ends a path. -/
def endsPath (c : Char) : Bool := c = '?' || c = '#'

/-- The text up to the first character of a kind, and the rest. -/
def upTo (stop : Char → Bool) (text : List Char) : List Char × List Char :=
  (text.takeWhile (!stop ·), text.dropWhile (!stop ·))

/-! ## Hosts -/

/-- The host that a text in brackets stands for. -/
def bracketed? (text : List Char) : Option Host :=
  match text.reverse with
  | ']' :: inner => .ipv6 <$> ipv6? inner.reverse
  | _ => none

/-- The host in the URL of a special scheme. -/
def specialHost (text : List Char) : Except Error Host :=
  match text with
  | '[' :: rest =>
    match bracketed? rest with
    | some host => .ok host
    | none => .error .invalidIpv6
  | _ =>
    match domain? text with
    | none => .error .invalidDomain
    | some "" => .error .emptyHost
    | some domain =>
      if endsInNumber domain then
        match ipv4? domain with
        | some address => .ok (.ipv4 address)
        | none => .error .invalidIpv4
      else .ok (.name domain)

/-- The host in the URL of any other scheme. -/
def otherHost (text : List Char) : Except Error Host :=
  match text with
  | '[' :: rest =>
    match bracketed? rest with
    | some host => .ok host
    | none => .error .invalidIpv6
  | _ =>
    if text.any fun c => c = '\x00' || " #/:<>?@[\\]^|".toList.contains c then .error .invalidHost
    else .ok (.name (encode isControl text))

/-- The host, and the port with its colon. A colon in brackets belongs to the host. -/
def splitPort : (inBrackets : Bool) → List Char → List Char × List Char
  | _, [] => ([], [])
  | inBrackets, c :: rest =>
    if c = ':' && !inBrackets then ([], c :: rest)
    else
      let (host, port) := splitPort (c = '[' || (inBrackets && c ≠ ']')) rest
      (c :: host, port)

/-- The port that is written after a host, if it is not the expected one. -/
def port? (expected? : Option Nat) : List Char → Except Error (Option Nat)
  | ':' :: digits =>
    if digits.all Char.isDigit then
      match digits, digitsValue? 10 digits with
      | _ :: _, some port =>
        if port < UInt16.size then .ok (if some port = expected? then none else some port)
        else .error .invalidPort
      | _, _ => .ok none
    else .error .invalidPort
  | _ => .ok none

/-! ## Authorities -/

/-- The text before the last `@`, if there is one, and the text after it. -/
def splitUser (text : List Char) : Option (List Char) × List Char :=
  let host := (text.reverse.takeWhile (· ≠ '@')).reverse
  if host.length = text.length then (none, host)
  else (some (text.take (text.length - host.length - 1)), host)

/-- The user name and the password in front of a host. -/
def userOf (text : List Char) : String × Option String :=
  match upTo (· = ':') text with
  | (user, _ :: password) =>
    (encode encodedInUser user,
      if password.isEmpty then none else some (encode encodedInUser password))
  | (user, []) => (encode encodedInUser user, none)

/-- The authority that a text stands for; `ends` says whether the URL ends with it. -/
def authority (scheme : String) (ends : Bool) (text : List Char) : Except Error Authority := do
  let (who?, place) := splitUser text
  if who? = some [] && place.isEmpty && !ends then throw .emptyHost
  let (user, password?) := userOf (who?.getD [])
  let (hostText, portText) := splitPort false place
  if hostText.isEmpty && (isSpecial scheme || !portText.isEmpty) then throw .emptyHost
  let host ← if isSpecial scheme then specialHost hostText else otherHost hostText
  let port? ← port? (expectedPort? scheme) portText
  if host = .name "" && !(user.isEmpty && password?.isNone) then throw .emptyHost
  return ⟨user, password?, host, port?⟩

/-- The host of a file; the own host need not be named. -/
def fileAuthority (text : List Char) : Except Error Authority := do
  if text.isEmpty then return ⟨"", none, .name "", none⟩
  let host ← specialHost text
  return ⟨"", none, if host = .name "localhost" then .name "" else host, none⟩

/-! ## Paths -/

/-- Whether a part of a path stands for the part it is in. -/
def isHere (part : String) : Bool := part = "." || part.map Char.toLower = "%2e"

/-- Whether a part of a path stands for the part around it. -/
def isUp (part : String) : Bool :=
  [".." , ".%2e", "%2e.", "%2e%2e"].contains (part.map Char.toLower)

/-- Go through the parts of a path, coming from some parts. -/
def follow (parts : List String) : List String → List String
  | [] => parts
  | [last] =>
    if isUp last then parts.dropLast ++ [""]
    else if isHere last then parts ++ [""]
    else parts ++ [last]
  | part :: rest =>
    if isUp part then follow parts.dropLast rest
    else if isHere part then follow parts rest
    else follow (parts ++ [part]) rest

/-- The texts between slashes. -/
def partsOf (special : Bool) : List Char → List (List Char)
  | [] => [[]]
  | c :: rest =>
    if isSlash special c then [] :: partsOf special rest
    else
      match partsOf special rest with
      | part :: parts => (c :: part) :: parts
      | [] => [[c]]

/-- The path that is written after a slash. -/
def pathOf (special : Bool) (text : List Char) : Path :=
  .parts (follow [] ((partsOf special text).map (encode encodedInPath)))

/-- The path after an authority, which starts with a slash if it is not empty. In the URL
    of a special scheme there always is one. -/
def pathAfter (special : Bool) (text : List Char) : Path :=
  match text with
  | [] => if special then pathOf special [] else .parts []
  | c :: rest => if isSlash special c then pathOf special rest else pathOf special text

/-! ## URLs -/

/-- The query and the fragment at the end of a URL. -/
def tail (special : Bool) (text : List Char) : Option String × Option String :=
  let (query, fragment) := upTo (· = '#') text
  (query.tail?.map (encode (encodedInQuery special)), fragment.tail?.map (encode encodedInFragment))

/-- Put a URL together whose authority is known. -/
def assemble (scheme : String) (authority? : Option Authority) (readPath : List Char → Path)
    (text : List Char) : Url :=
  let (path, rest) := upTo endsPath text
  let (query?, fragment?) := tail (isSpecial scheme) rest
  ⟨scheme, authority?, readPath path, query?, fragment?⟩

/-- Read a URL with an authority, after the slashes in front of it. -/
def readAuthority (scheme : String) (text : List Char) : Except Error Url := do
  let special := isSpecial scheme
  let (authorityText, rest) := upTo (fun c => isSlash special c || endsPath c) text
  let authority ← authority scheme rest.isEmpty authorityText
  return assemble scheme (some authority) (pathAfter special) rest

/-- Read the URL of a file, after the scheme. -/
def readFile (text : List Char) : Except Error Url := do
  match text with
  | a :: b :: rest =>
    if isSlash true a && isSlash true b then
      let (host, rest) := upTo (fun c => isSlash true c || endsPath c) rest
      return assemble "file" (some (← fileAuthority host)) (pathAfter true) rest
    else return assemble "file" (some (← fileAuthority [])) (pathAfter true) text
  | _ => return assemble "file" (some (← fileAuthority [])) (pathAfter true) text

/-- The URL that is the whole of a text. -/
def ofText (text : String) : Except Error Url :=
  match scheme? (significant text) with
  | none => .error .noScheme
  | some (scheme, rest) =>
    if scheme = "file" then readFile rest
    else if isSpecial scheme then readAuthority scheme (rest.dropWhile (isSlash true))
    else
      match rest with
      | '/' :: '/' :: rest => readAuthority scheme rest
      | '/' :: rest => .ok (assemble scheme none (pathOf false) rest)
      | _ => .ok (assemble scheme none (fun path => .whole (encode isControl path)) rest)

end PromptChain.Url
