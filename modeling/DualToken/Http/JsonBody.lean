import DualToken.Http.MediaType
import DualToken.Http.Message
import DualToken.Json.Reader

/-!
# Bodies that are read as JSON

A body is read when its media type is JSON and it is not too large. What follows the value in the
body is not looked at. Each fault has a response of its own.
-/

set_option autoImplicit false

namespace DualToken.JsonBody

/-- Why a body was not read. -/
inductive Fault where
  /-- The request does not say that the body is JSON. -/
  | notJson
  | tooLarge
  /-- The body is no JSON, or ends too early. -/
  | malformed
  /-- The body is JSON of another shape than expected. -/
  | wrongShape
  deriving DecidableEq, Repr

/-- The response to a body that was not read. -/
def Fault.response : Fault → Response
  | .notJson => .ofText 415 "Expected request with `Content-Type: application/json`"
  | .tooLarge => .ofText 413 "Failed to buffer the request body"
  | .malformed => .ofText 400 "Failed to parse the request body as JSON"
  | .wrongShape => .ofText 422 "Failed to deserialize the JSON body into the target type"

/-- The greatest size of a body, in bytes. -/
def maxSize : Nat := 2097152

/-- Whether the headers say that the body is JSON. -/
def isAnnounced (headers : Headers) : Bool :=
  match headers.valuesOf "content-type" with
  | [] => false
  | value :: _ => (Headers.text? value).any MediaType.isJson

/-- Reads the body of a request. -/
def read {α : Type} (reader : Json.Reader α) (request : Request) : Except Fault α :=
  if !isAnnounced request.headers then .error .notJson
  else if request.body.length > maxSize then .error .tooLarge
  else match Json.readFront reader request.body with
    | .ok value => .ok value
    | .error .wrongShape => .error .wrongShape
    | .error _ => .error .malformed

end DualToken.JsonBody
