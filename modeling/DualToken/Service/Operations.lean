import DualToken.Account.Directory
import DualToken.Service.Action
import DualToken.Http.Cookie
import DualToken.Revocation.Store
import DualToken.Token.Codec

/-!
# The operations of the service

A token is acceptable when it is not recorded as revoked, its signature, kind and expiry hold, and
its claims are still true of its user. The checks are made in this order, and the record of revoked
tokens is asked before anything else.

Refreshing mints an access token from a secret token. The secret token is looked up a second time
after the new token has become current: a logout that came in between has then recorded it, and the
new token is withdrawn. Logging out, the other way round, records the secret token first and drops
the session after that. Whichever of the two is later sees the other.
-/

set_option autoImplicit false

namespace DualToken

/-- A service as it is set up. -/
structure Service where
  /-- Signs and reads tokens. -/
  codec : Codec
  /-- The lifetime of access tokens, in seconds. -/
  accessLifetime : Int
  /-- The lifetime of secret tokens, in seconds. -/
  secretLifetime : Int
  /-- How long before its expiry an access token is renewed, in seconds. -/
  renewalWindow : Int
  /-- How token cookies are made. -/
  cookies : CookiePolicy
  /-- Where recorded tokens are kept. -/
  backend : RevocationBackend
  hashCost : Nat
  deriving DecidableEq, Repr

namespace Service

open Operation

/-- The service for given settings, if their keys can be used. -/
def ofSettings (settings : AuthSettings) (secureCookies : Bool) (backend : RevocationBackend)
    (hashCost : Nat) : Except AuthError Service :=
  (Codec.ofKeys settings.accessKey settings.secretKey).map fun codec =>
    { codec, accessLifetime := signedSeconds settings.accessLifetime,
      secretLifetime := signedSeconds settings.secretLifetime,
      renewalWindow := signedSeconds settings.renewalWindow,
      cookies := CookiePolicy.ofSettings secureCookies settings, backend, hashCost }

/-! ## Checking tokens -/

/-- Whether a token is recorded as revoked. -/
def isRevoked (token : String) : Operation Bool :=
  callStore (.lookup token)

def listRevoked : Operation (List RecordedToken) :=
  callStore .list

def record (token : String) : Operation RecordedToken :=
  callStore (.record token)

/-- The claims of a token that is not revoked. -/
def verify (service : Service) (token : String) (kind : TokenKind) : Operation Claims := do
  if ← isRevoked token then refuse .blacklisted
  else
    let now ← clock
    ofExcept (service.codec.decodeAt token kind now)

/-- The claims of a token that is acceptable. -/
def validate (service : Service) (token : String) (kind : TokenKind) : Operation Claims := do
  let claims ← service.verify token kind
  let user : Option User ← callStore (.userById claims.sub)
  match user with
  | none => refuse .identityMismatch
  | some user => if claims.matchesUser user then return claims else refuse .identityMismatch

/-! ## Minting tokens -/

/-- The claims of a new token of a user, with a new name. -/
def claimsForUser (user : User) (session : String) (kind : TokenKind) (lifetime : Int) :
    Operation Claims := do
  let now ← clock
  let expiry ← orCrash (Time.add? now lifetime)
  let name ← drawName
  return Claims.forUser user session name kind now expiry

/-- A new session of a user: both tokens are signed and made current. -/
def issuePair (service : Service) (user : User) : Operation TokenPair := do
  let session ← drawName
  let access ← claimsForUser user session .access service.accessLifetime
  let secret ← claimsForUser user session .secret service.secretLifetime
  let pair : TokenPair := ⟨service.codec.issue access, service.codec.issue secret⟩
  act (.setSession session .access pair.access secret.exp)
  act (.setSession session .secret pair.secret secret.exp)
  return pair

/-- Logs a user in. An unknown email and a wrong password are refused alike. -/
def login (service : Service) (credentials : Credentials) : Operation TokenPair := do
  let user : Option User ← callStore (.userByEmail credentials.email)
  match user with
  | none => refuse .invalidCredentials
  | some user =>
    if Directory.comparePasswords user.passwordHash credentials.password then service.issuePair user
    else refuse .invalidCredentials

/-- Mints an access token from the claims of a secret token, and makes it current. It is withdrawn
when the secret token turns out to be revoked by now, or when that cannot be found out. -/
def mintAccess (service : Service) (secretToken : String) (claims : Claims) :
    Operation String := do
  let now ← clock
  let expiry ← orCrash (Time.add? now service.accessLifetime)
  let name ← drawName
  let token := service.codec.issue (claims.reissue name .access now expiry)
  act (.setSession claims.sid .access token claims.exp)
  match ← attempt (isRevoked secretToken) with
  | .ok false => return token
  | .ok true =>
    let _ ← act (.clearSession claims.sid)
    let _ ← record token
    refuse .blacklisted
  | .error error =>
    let _ ← act (.blacklistSession claims.sid .access)
    refuse error

/-- A new access token for a secret token. -/
def refresh (service : Service) (secretToken : String) : Operation String := do
  let claims ← service.validate secretToken .secret
  service.mintAccess secretToken claims

/-- A new access token in the place of one that is about to expire, for a secret token of the same
session. -/
def renew (service : Service) (access : Claims) (secretToken : String) : Operation String := do
  let claims ← service.validate secretToken .secret
  if claims.sid = access.sid ∧ claims.sub = access.sub then
    service.mintAccess secretToken claims
  else refuse .identityMismatch

/-! ## Ending sessions -/

/-- Whether a token is an unexpired access token of the session that the claims are of. -/
def isOfSession (service : Service) (token : String) (claims : Claims) (now : Int) : Bool :=
  match service.codec.decodeAt token .access now with
  | .ok access => access.sid = claims.sid && access.sub = claims.sub
  | .error _ => false

/-- Texts in order, each once. -/
def sortedOnce (texts : List String) : List String :=
  (texts.mergeSort fun first second => first ≤ second).eraseReps

/-- Records tokens one after another. -/
def recordAll : List String → Operation Unit
  | [] => return ()
  | token :: others => do
    let _ ← record token
    recordAll others

/-- Ends the session of a secret token: the token itself is recorded first, then the tokens that are
current in the session and the access token that was presented, if it belongs to the session. -/
def logout (service : Service) (secretToken : String) (presented : Option String) :
    Operation Unit := do
  let claims ← service.verify secretToken .secret
  let _ ← record secretToken
  let now ← clock
  let own := presented.filter fun token => service.isOfSession token claims now
  let (access, secret) ← act (.clearSession claims.sid)
  let pending := (access.toList ++ secret.toList ++ own.toList).filter (· ≠ secretToken)
  recordAll (sortedOnce pending)

end Service

end DualToken
