/-!
# Why a request is refused

The causes of refusal, the message of each, and what a caller outside gets to see of them. At the
gate every failure of a token, and every failure of storage, is the same refusal. In a response the
failures of a token share one public message, and so do the failures inside the server; only the
causes that a caller can mend are named.
-/

set_option autoImplicit false

namespace DualToken

/-- Why an operation was refused. -/
inductive AuthError where
  /-- The signing keys cannot be used. -/
  | signing (detail : String)
  /-- The token was not signed as it should be. -/
  | invalidSignature
  /-- The token's time is over. -/
  | expired
  /-- The token has been revoked. -/
  | blacklisted
  /-- The token's claims are no longer those of its user. -/
  | identityMismatch
  /-- A store failed or did not answer. -/
  | storage (detail : String)
  /-- No acceptable token was presented. -/
  | unauthenticated
  /-- The user's role does not allow it. -/
  | forbidden
  /-- The email is unknown or the password is wrong. -/
  | invalidCredentials
  /-- The email is taken. -/
  | userExists
  /-- A field of the request is missing or unusable. -/
  | badRequest (detail : String)
  deriving DecidableEq, Repr

namespace AuthError

/-- The message, with all detail. -/
def message : AuthError → String
  | signing detail => s!"signing key material missing or misconfigured: {detail}"
  | invalidSignature => "invalid token signature"
  | expired => "token expired"
  | blacklisted => "token has been revoked"
  | identityMismatch => "token identity no longer matches the user record"
  | storage detail => s!"storage error: {detail}"
  | unauthenticated => "unauthenticated"
  | forbidden => "forbidden"
  | invalidCredentials => "invalid credentials"
  | userExists => "user already exists"
  | badRequest detail => s!"bad request: {detail}"

/-- The error that the gate shows: a token failure and a storage failure both count as no
acceptable token. -/
def atGate : AuthError → AuthError
  | invalidSignature | expired | blacklisted | identityMismatch | storage _ => unauthenticated
  | other => other

/-- The status of a response that reports the error. -/
def status : AuthError → Nat
  | invalidSignature | expired | blacklisted | identityMismatch | unauthenticated
  | invalidCredentials => 401
  | forbidden => 403
  | userExists => 409
  | badRequest _ => 400
  | signing _ | storage _ => 500

/-- The message of a response that reports the error. -/
def publicMessage : AuthError → String
  | invalidSignature | expired | blacklisted | identityMismatch | unauthenticated =>
    unauthenticated.message
  | signing _ | storage _ => "internal server error"
  | other => other.message

end AuthError

/-- A store that did not answer in time. -/
def AuthError.timedOut : AuthError := .storage "storage call timed out"

end DualToken
