import DualToken.Http.Carrier
import DualToken.Http.Message
import DualToken.Service.Operations

/-!
# The gate

Some routes are guarded. A guarded request has to carry an access token that is acceptable; a route
may demand a role besides, or let requests without any token through. A token that is presented has
to be acceptable in any case.

An accepted access token that is about to expire is renewed on the way, if the request also carries
a secret token of the same session. The new token is set as a cookie and repeated in a header. When
the renewal is refused, the request goes on with the token that was accepted.
-/

set_option autoImplicit false

namespace DualToken

/-- The caller behind an accepted access token. -/
structure Identity where
  userId : Int64
  role : Role
  /-- The user's display name. -/
  name : String
  email : String
  phoneNumber : String
  /-- The user's postal address. -/
  address : String
  deriving DecidableEq, Repr

namespace Identity

/-- The identity that claims are about. -/
def ofClaims (claims : Claims) : Identity :=
  ⟨claims.sub, claims.role, claims.name, claims.email, claims.phoneNumber, claims.address⟩

/-- The identity as it is shown. -/
def json (identity : Identity) : Json.Value :=
  .object [("user_id", .integer identity.userId.toInt), ("role", .text identity.role.name),
    ("name", .text identity.name), ("email", .text identity.email),
    ("phone_number", .text identity.phoneNumber), ("address", .text identity.address)]

end Identity

/-- What a guarded route demands. -/
inductive Policy where
  /-- A token, if there is one, has to be acceptable. -/
  | anyone
  /-- An acceptable token. -/
  | user
  /-- An acceptable token of a user with a role. -/
  | role (role : Role)
  deriving DecidableEq, Repr

namespace Gate

open Operation

/-- The header that repeats a renewed access token. -/
def renewalHeader : String := "x-renewed-access-token"

/-- The response of an operation; a refusal becomes the response that reports it. -/
def settle (operation : Operation Response) : Operation Response := do
  match ← attempt operation with
  | .ok response => return response
  | .error error => return Response.ofError error

/-- Whether an access token is within the renewal window. -/
def isExpiring (service : Service) (claims : Claims) (now : Int) : Bool :=
  (claims.exp - Int64.ofInt now).toInt ≤ service.renewalWindow

/-- The new access token, if one is due and can be had. -/
def renewal (service : Service) (headers : Headers) (claims : Claims) :
    Operation (Option String) := do
  let now ← clock
  if isExpiring service claims now then
    match Carrier.token? headers .secret with
    | none => return none
    | some secretToken =>
      match ← attempt (service.renew claims secretToken) with
      | .ok token => return some token
      | .error _ => return none
  else return none

/-- The response with a renewed token in a cookie and, if a header can have it as its value, in a
header. -/
def withRenewal (token : String) (jar : CookieJar) (response : Response) : Response :=
  { response with
    headers := if Headers.isValue token then response.headers ++ [(renewalHeader, token)]
      else response.headers
    cookies := jar ++ response.cookies }

/-- The claims of the access token of a request, where every failure is the same refusal. -/
def accept (service : Service) (token : String) : Operation Claims := do
  match ← attempt (service.validate token .access) with
  | .ok claims => return claims
  | .error error => refuse error.atGate

/-- Lets a request through to a handler, if the policy allows it. -/
def enter (service : Service) (policy : Policy) (headers : Headers)
    (handler : Option Identity → Operation Response) : Operation Response := do
  match Carrier.token? headers .access with
  | none =>
    match policy with
    | .anyone => settle (handler none)
    | _ => refuse .unauthenticated
  | some token =>
    let claims ← accept service token
    let identity := Identity.ofClaims claims
    match policy with
    | .role role => unless identity.role = role do refuse .forbidden
    | _ => pure ()
    match ← renewal service headers claims with
    | none => settle (handler (some identity))
    | some renewed =>
      let now ← clock
      let jar ← orCrash (service.cookies.setAccess? renewed now [])
      let response ← settle (handler (some identity))
      return withRenewal renewed jar response

end Gate

end DualToken
