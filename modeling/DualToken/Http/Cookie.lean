import DualToken.Settings
import DualToken.Time.HttpDate
import DualToken.Token.Codec

/-!
# Token cookies

The two tokens of a pair are also handed out as cookies, which expire when the tokens do. The
cookies are for the server only: scripts cannot read them and other sites do not send them. Logging
out sets both cookies to nothing, with a date of the day before.

A jar collects the cookies of one response; a later cookie of the same name takes the place of an
earlier one.
-/

set_option autoImplicit false

namespace DualToken

/-- A cookie that a response sets. -/
structure SetCookie where
  name : String
  /-- The value, empty to take the cookie away. -/
  value : String
  /-- Whether the cookie is sent over encrypted connections only. -/
  isSecure : Bool
  /-- The time from which on the cookie is gone. -/
  expires : Int
  deriving DecidableEq, Repr

namespace SetCookie

/-- The name of the cookie of each kind of token. -/
def tokenName : TokenKind → String
  | .access => "access_token"
  | .secret => "secret_token"

/-- The text of the header that sets the cookie. -/
def text (cookie : SetCookie) : String :=
  cookie.name ++ "=" ++ cookie.value ++ "; HttpOnly; SameSite=Strict" ++
    (if cookie.isSecure then "; Secure" else "") ++ "; Path=/; Expires=" ++
    HttpDate.write cookie.expires

end SetCookie

/-- The cookies of a response, one of each name, in the order in which they were set. -/
abbrev CookieJar := List SetCookie

/-- Adds a cookie in the place of any other of its name. -/
def CookieJar.add (jar : CookieJar) (cookie : SetCookie) : CookieJar :=
  jar.filter (·.name ≠ cookie.name) ++ [cookie]

/-- How token cookies are made. -/
structure CookiePolicy where
  /-- Whether the cookies are sent over encrypted connections only. -/
  isSecure : Bool
  /-- The lifetime of the cookie of access tokens, in seconds. -/
  accessLifetime : Int
  /-- The lifetime of the cookie of secret tokens, in seconds. -/
  secretLifetime : Int
  deriving DecidableEq, Repr

namespace CookiePolicy

/-- The policy for the service's settings. -/
def ofSettings (isSecure : Bool) (settings : AuthSettings) : CookiePolicy :=
  ⟨isSecure, signedSeconds settings.accessLifetime, signedSeconds settings.secretLifetime⟩

/-- The lifetime of the cookie of each kind of token. -/
def lifetime (policy : CookiePolicy) : TokenKind → Int
  | .access => policy.accessLifetime
  | .secret => policy.secretLifetime

/-- A cookie with a lifetime, if its date can be written. -/
def cookie? (policy : CookiePolicy) (kind : TokenKind) (value : String) (now lifetime : Int) :
    Option SetCookie :=
  if HttpDate.IsWritable now ∧ HttpDate.IsWritable (now + lifetime) then
    some ⟨SetCookie.tokenName kind, value, policy.isSecure, now + lifetime⟩
  else none

/-- The cookie of a token. -/
def tokenCookie? (policy : CookiePolicy) (kind : TokenKind) (token : String) (now : Int) :
    Option SetCookie :=
  policy.cookie? kind token now (policy.lifetime kind)

/-- The cookie that takes a token's cookie away: empty, and gone since a day. -/
def removalCookie? (policy : CookiePolicy) (kind : TokenKind) (now : Int) : Option SetCookie :=
  policy.cookie? kind "" now (-86400)

/-- The jar with the cookie of an access token. -/
def setAccess? (policy : CookiePolicy) (token : String) (now : Int) (jar : CookieJar) :
    Option CookieJar :=
  (policy.tokenCookie? .access token now).map jar.add

/-- The jar with the cookies of both tokens of a pair. -/
def setPair? (policy : CookiePolicy) (pair : TokenPair) (now : Int) (jar : CookieJar) :
    Option CookieJar := do
  let jar ← policy.setAccess? pair.access now jar
  let cookie ← policy.tokenCookie? .secret pair.secret now
  return jar.add cookie

/-- The jar with both cookies taken away. -/
def clear? (policy : CookiePolicy) (now : Int) (jar : CookieJar) : Option CookieJar := do
  let access ← policy.removalCookie? .access now
  let secret ← policy.removalCookie? .secret now
  return (jar.add access).add secret

end CookiePolicy

end DualToken
