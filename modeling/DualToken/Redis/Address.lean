import DualToken.Redis.Error
import DualToken.Text.Decimal

/-!
# Addresses of Redis servers

The address of a server is a URL. Over the network it names a host, possibly a port, and possibly
the number of a database as its path; encrypted connections are not supported. A socket of the same
machine is named by its path.

A server can be reached only if a network leads to it, which is a fact about the machine and not
about the address.
-/

set_option autoImplicit false

namespace DualToken.Redis

/-- Whether any network leads away from the machine. -/
inductive Network where
  /-- Servers can be reached. -/
  | reachable
  /-- No network is there. -/
  | unreachable
  deriving DecidableEq, Repr

/-! ## URLs -/

/-- The parts of a URL that matter for a connection. -/
structure Url where
  /-- The scheme, in lower case. -/
  scheme : List Char
  /-- The host, unless it is missing or empty. -/
  host : Option (List Char)
  path : List Char
  /-- The query, without its mark. -/
  query : Option (List Char)
  deriving DecidableEq, Repr

namespace Url

/-- Whether a character may stand in a scheme. -/
def isSchemeCharacter (character : Char) : Bool :=
  character.isAlphanum || character = '+' || character = '-' || character = '.'

/-- Whether a character may not stand in a host. -/
def isForbiddenInHost (character : Char) : Bool :=
  character.toNat = 0 || " #/<>?@[\\]^|\t\n\r:".toList.contains character

/-- Whether a host is in brackets or holds no forbidden character. -/
def isHost (host : List Char) : Bool :=
  match host with
  | '[' :: inner =>
    inner.getLast? = some ']' && inner.length > 2 &&
      inner.dropLast.all fun character =>
        character = ':' || character = '.' || (hexDigits.contains character)
  | _ => !host.any isForbiddenInHost
where
  hexDigits : List Char := "0123456789abcdefABCDEF".toList

/-- The host and the text of the port behind its colon. -/
def splitPort (authority : List Char) : List Char × Option (List Char) :=
  match authority with
  | '[' :: _ =>
    let host := authority.takeWhile (· ≠ ']') ++ [']']
    match authority.drop host.length with
    | ':' :: port => (host, some port)
    | [] => (host, none)
    | other => (host ++ other, none)
  | _ =>
    match authority.dropWhile (· ≠ ':') with
    | ':' :: port => (authority.takeWhile (· ≠ ':'), some port)
    | _ => (authority, none)

/-- Whether the text behind a colon is a port. -/
def isPort (port : List Char) : Bool :=
  port.isEmpty || (Text.readNatural? port).any (· ≤ 65535)

/-- The host of an authority, if the authority is well formed. -/
def host? (authority : List Char) : Option (Option (List Char)) :=
  let behindUser := (authority.reverse.takeWhile (· ≠ '@')).reverse
  let (host, port) := splitPort behindUser
  if !isHost host || !port.all isPort then none
  else if host.isEmpty then if port.isSome then none else some none
  else some (some host)

/-- The text without the characters that a URL ignores. -/
def stripIgnored (characters : List Char) : List Char :=
  let isEdge (character : Char) : Bool := character.toNat ≤ 0x20
  let inner := ((characters.dropWhile isEdge).reverse.dropWhile isEdge).reverse
  inner.filter fun character => character ≠ '\t' && character ≠ '\n' && character ≠ '\r'

/-- The parts of a URL. -/
def read? (text : String) : Option Url := do
  let characters := stripIgnored text.toList
  let scheme := characters.takeWhile (· ≠ ':')
  guard (scheme.head?.any Char.isAlpha && scheme.all isSchemeCharacter)
  let rest ← match characters.dropWhile (· ≠ ':') with
    | [] => none
    | _ :: rest => some rest
  let whole := rest.takeWhile (· ≠ '#')
  let front := whole.takeWhile (· ≠ '?')
  let query := match whole.dropWhile (· ≠ '?') with
    | [] => none
    | _ :: query => some query
  match front with
  | '/' :: '/' :: behind =>
    let host ← host? (behind.takeWhile (· ≠ '/'))
    return ⟨scheme.map Char.toLower, host, behind.dropWhile (· ≠ '/'), query⟩
  | _ => return ⟨scheme.map Char.toLower, none, front, query⟩

end Url

/-! ## Connections -/

/-- The schemes of sockets on the same machine. -/
def socketSchemes : List (List Char) := ["unix".toList, "redis+unix".toList]

/-- The path without the slashes at both ends. -/
def trimSlashes (path : List Char) : List Char :=
  ((path.dropWhile (· = '/')).reverse.dropWhile (· = '/')).reverse

/-- Whether a text is empty or the number of a database. -/
def isDatabase (text : List Char) : Bool :=
  text.isEmpty || (Text.readInt64? text).isSome

/-- Checks the address of a server on the network. -/
def checkNetworkUrl (url : Url) : Except Error Unit :=
  if url.host.isNone then .error (.badAddress "Missing hostname")
  else if url.scheme = "rediss".toList then
    .error (.badAddress "can't connect with TLS, the feature is not enabled")
  else if isDatabase (trimSlashes url.path) then .ok ()
  else .error (.badAddress "Invalid database number")

/-- Checks the address of a server behind a socket. -/
def checkSocketUrl (url : Url) : Except Error Unit :=
  let isLocal := url.host.all (· = "localhost".toList)
  if url.path.head? = some '/' && isLocal then .ok ()
  else .error (.badAddress "Missing path")

/-- Connects to the server at an address. -/
def connect (network : Network) (address : String) : Except Error Unit :=
  match Url.read? address with
  | none => .error (.badAddress "Redis URL did not parse")
  | some url =>
    if socketSchemes.contains url.scheme then
      (checkSocketUrl url).bind fun () => .error .noSocket
    else if url.scheme = "redis".toList || url.scheme = "rediss".toList then
      (checkNetworkUrl url).bind fun () =>
        match network with
        | .reachable => .ok ()
        | .unreachable => .error .unreachable
    else .error (.badAddress "Redis URL did not parse")

end DualToken.Redis
