import DualToken.Http.Cookie
import DualToken.Http.Header
import DualToken.Text.Blank

/-!
# How tokens travel

A request carries a token in a header of its own or in a cookie. The header comes first: its value
is trimmed, freed of the word that names the scheme, and trimmed again, and it counts only if
something is left. Without it, the first cookie of the token's name with a value is taken, over all
cookie headers in order. Values that are no text and parts that are no cookie are passed over. What
is found is never empty.
-/

set_option autoImplicit false

namespace DualToken.Carrier

/-- The header that carries each kind of token. -/
def headerName : TokenKind → String
  | .access => "authorization"
  | .secret => "authorization-x"

/-- The scheme that may stand before a token. -/
def scheme : List Char := "Bearer ".toList

/-- The characters without a word at the front, if they begin with it. -/
def stripFront (front characters : List Char) : List Char :=
  if front.isPrefixOf characters then characters.drop front.length else characters

/-- The token that the header of a kind carries. -/
def headerToken? (headers : Headers) (kind : TokenKind) : Option String :=
  match headers.valuesOf (headerName kind) with
  | [] => none
  | value :: _ =>
    (Headers.text? value).bind fun characters =>
      let token := Text.trimBoth (stripFront scheme (Text.trimBoth characters))
      if token.isEmpty then none else some (String.ofList token)

/-- The parts of a cookie header, without the semicolons between them. -/
def parts (characters : List Char) : List (List Char) :=
  characters.splitOn ';'

/-- The name and the value of a cookie, if the part has a name and an equals sign. -/
def pair? (part : List Char) : Option (List Char × List Char) :=
  match part.dropWhile (· ≠ '=') with
  | [] => none
  | _ :: value =>
    let name := Text.trimBoth (part.takeWhile (· ≠ '='))
    if name.isEmpty then none else some (name, Text.trimBoth value)

/-- The cookies of a request, in order. -/
def cookies (headers : Headers) : List (List Char × List Char) :=
  ((headers.valuesOf "cookie").filterMap Headers.text?).flatMap fun characters =>
    (parts characters).filterMap pair?

/-- The value of the first cookie of a name that has one. -/
def cookieToken? (headers : Headers) (kind : TokenKind) : Option String :=
  ((cookies headers).find? fun cookie =>
    cookie.1 = (SetCookie.tokenName kind).toList && !cookie.2.isEmpty).map fun cookie =>
      String.ofList cookie.2

/-- The token of a kind that a request carries. -/
def token? (headers : Headers) (kind : TokenKind) : Option String :=
  (headerToken? headers kind).or (cookieToken? headers kind)

end DualToken.Carrier
