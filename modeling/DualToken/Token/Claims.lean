import DualToken.Account.User
import DualToken.Time.Range

/-!
# Claims

The claims of a token say whose it is, to which login session it belongs, which of the two kinds it
is, and when its time is over. A token is expired from the very second of its expiry on. Claims made
anew from older ones keep the identity and the session, and never outlive the older ones
(`exp_reissue_le`).
-/

set_option autoImplicit false

namespace DualToken

/-- Which of the two cooperating tokens a token is. -/
inductive TokenKind where
  /-- The short token that is presented with each request. -/
  | access
  /-- The long token that mints new access tokens. -/
  | secret
  deriving DecidableEq, Repr

namespace TokenKind

/-- The name of a kind. -/
def name : TokenKind → String
  | access => "access"
  | secret => "secret"

/-- The kind of a name. -/
def ofName? (text : String) : Option TokenKind :=
  if text = "access" then some access else if text = "secret" then some secret else none

@[simp] theorem ofName?_name (kind : TokenKind) : ofName? kind.name = some kind := by
  cases kind <;> decide

end TokenKind

/-- What a token says. -/
structure Claims where
  /-- The user's number. -/
  sub : Int64
  role : Role
  /-- The user's display name. -/
  name : String
  email : String
  phoneNumber : String
  /-- The user's postal address. -/
  address : String
  /-- The second from which on the token is expired. -/
  exp : Int64
  /-- The second at which the token was made. -/
  iat : Int64
  /-- A name of the token alone. -/
  jti : String
  /-- The login session that both tokens of a pair belong to. -/
  sid : String
  kind : TokenKind
  deriving DecidableEq, Repr

namespace Claims

/-- How claims are read. -/
def layout : Json.Layout :=
  [("sub", .required Json.readInt64), ("role", .required (Json.readName Role.ofName?)),
    ("name", .required Json.readText), ("email", .required Json.readText),
    ("phone_number", .required Json.readText), ("address", .required Json.readText),
    ("exp", .required Json.readInt64), ("iat", .required Json.readInt64),
    ("jti", .required Json.readText), ("sid", .required Json.readText),
    ("kind", .required (Json.readName TokenKind.ofName?))]

def read : Json.Reader Claims := fun bytes =>
  (layout.read bytes).map fun (sub, role, name, email, phoneNumber, address, exp, iat, jti, sid,
      kind, ()) =>
    ⟨sub, role, name, email, phoneNumber, address, exp, iat, jti, sid, kind⟩

/-- The claims as they are written. -/
def json (claims : Claims) : Json.Value :=
  .object [("sub", .integer claims.sub.toInt), ("role", .text claims.role.name),
    ("name", .text claims.name), ("email", .text claims.email),
    ("phone_number", .text claims.phoneNumber), ("address", .text claims.address),
    ("exp", .integer claims.exp.toInt), ("iat", .integer claims.iat.toInt),
    ("jti", .text claims.jti), ("sid", .text claims.sid), ("kind", .text claims.kind.name)]

/-- The claims of a user's new token. -/
def forUser (user : User) (sid jti : String) (kind : TokenKind) (now expiry : Int) : Claims :=
  { sub := user.id, role := user.role, name := user.displayName, email := user.email,
    phoneNumber := user.phoneNumber, address := user.address, exp := Int64.ofInt expiry,
    iat := Int64.ofInt now, jti, sid, kind }

/-- The same identity and session with a new kind, name and expiry, which is never after the expiry
of the older claims. -/
def reissue (claims : Claims) (jti : String) (kind : TokenKind) (now expiry : Int) : Claims :=
  { claims with exp := min (Int64.ofInt expiry) claims.exp, iat := Int64.ofInt now, jti, kind }

/-- Whether the token's time is over. -/
def isExpiredAt (claims : Claims) (now : Int) : Bool :=
  claims.exp.toInt ≤ now

/-- Whether the claims about the user are still true of it. -/
def matchesUser (claims : Claims) (user : User) : Bool :=
  claims.sub = user.id && claims.role = user.role && claims.name = user.displayName &&
    claims.email = user.email && claims.phoneNumber = user.phoneNumber &&
    claims.address = user.address

/-- Claims made anew never outlive the older ones. -/
theorem exp_reissue_le (claims : Claims) (jti : String) (kind : TokenKind) (now expiry : Int) :
    (claims.reissue jti kind now expiry).exp ≤ claims.exp :=
  Std.min_le_right

end Claims

end DualToken
