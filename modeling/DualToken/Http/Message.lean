import DualToken.AuthError
import DualToken.Http.Cookie
import DualToken.Http.Header
import DualToken.Json.Value

/-!
# Requests and responses

A request names a method and a target and carries headers and a body of bytes. A response has a
status, headers, the cookies that it sets, and a body that is JSON, text or nothing; its headers say
which.
-/

set_option autoImplicit false

namespace DualToken

structure Request where
  /-- The method, in the case in which it was sent. -/
  method : String
  /-- The target: a path and possibly a query. -/
  target : String
  headers : Headers := []
  body : List UInt8 := []
  deriving DecidableEq, Repr

/-- The path of the target. -/
def Request.path (request : Request) : String :=
  String.ofList (request.target.toList.takeWhile fun character =>
    character ≠ '?' && character ≠ '#')

/-- The body of a response. -/
inductive ResponseBody where
  /-- No body. -/
  | empty
  | json (value : Json.Value)
  | text (content : String)

structure Response where
  status : Nat
  /-- The headers but those that set cookies. -/
  headers : List (String × String) := []
  /-- The cookies that the response sets. -/
  cookies : CookieJar := []
  body : ResponseBody := .empty

namespace Response

/-- A response whose body is JSON. -/
def ofJson (status : Nat) (value : Json.Value) : Response :=
  { status, headers := [("content-type", "application/json")], body := .json value }

/-- A response whose body is text. -/
def ofText (status : Nat) (content : String) : Response :=
  { status, headers := [("content-type", "text/plain; charset=utf-8")], body := .text content }

/-- The response that reports an error, as far as it is public. -/
def ofError (error : AuthError) : Response :=
  ofJson error.status (.object [("error", .text error.publicMessage)])

/-- The response with one more header. -/
def withHeader (response : Response) (name value : String) : Response :=
  { response with headers := response.headers ++ [(name, value)] }

/-- The response without its body. -/
def withoutBody (response : Response) : Response :=
  { response with body := .empty }

/-- All headers, with those that set cookies. -/
def allHeaders (response : Response) : List (String × String) :=
  response.headers ++ response.cookies.map fun cookie => ("set-cookie", cookie.text)

end Response

end DualToken
