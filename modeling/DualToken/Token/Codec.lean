import DualToken.Crypto.Hmac
import DualToken.Encoding.Base64
import DualToken.Json.Outline
import DualToken.Text.Blank
import DualToken.Token.Claims
import DualToken.Token.Header

/-!
# Signed tokens

A token is three segments with dots between them: the header, the claims and the signature, each in
base 64. The signature is the authentication code of the first two segments and their dot, under the
key of the token's kind.

Reading a token accepts a signature by comparing its text with the one the token ought to have, so a
signature has one spelling. The claims are read twice from the same bytes: once in full, and once
for the members that have a standard meaning, where a missing or negative expiry and a named
audience are refused. Every failure so far counts as a wrong signature; then the kind is compared,
and last the expiry.
-/

set_option autoImplicit false

namespace DualToken

/-! ## Registered claims -/

/-- What the standard members of the claims say, as far as it matters. -/
structure RegisteredClaims where
  /-- The expiry, if it is an unsigned integer of sixty-four bits. -/
  expiry : Option Nat
  /-- Whether an audience is named. -/
  hasAudience : Bool

namespace RegisteredClaims

/-- Reads an unsigned integer of sixty-four bits. A list or object is entered and left. -/
def readInstant (bytes : List UInt8) : Json.Outcome Nat :=
  match Json.dropSpaces bytes with
  | 0x5B :: rest => .stop .wrongShape (Json.dropListEnd rest)
  | 0x7B :: rest => .stop .wrongShape (Json.dropObjectEnd rest)
  | other =>
    let isInstant (number : Int) : Bool := 0 ≤ number && number < (UInt64.size : Int)
    (Json.readInteger isInstant other).map Int.toNat

/-- Whether a value names an audience: a string, or a list of strings. -/
def namesAudience : Json.Outline → Bool
  | .text _ => true
  | .list items => items.all PublicKey.isText
  | _ => false

def readAny : Json.Reader Json.Outline := Json.readOutline Json.depthInRecord

/-- A standard member: it may be missing, and what cannot be read counts as missing. -/
def member {α : Type} (reader : Json.Reader α) : Json.Shape :=
  ⟨Option α, Json.readLeniently reader, some none⟩

/-- How the standard members are read. -/
def layout : Json.Layout :=
  [("exp", member readInstant), ("nbf", member readInstant), ("sub", member Json.readText),
    ("iss", member readAny), ("aud", member readAny)]

/-- Reads the standard members. -/
def read : Json.Reader RegisteredClaims := fun bytes =>
  (layout.read bytes).map fun (expiry, _, _, _, audience, ()) =>
    { expiry, hasAudience := audience.any namesAudience }

/-- Whether the standard members allow the token. -/
def areAcceptable (registered : RegisteredClaims) : Bool :=
  registered.expiry.isSome && !registered.hasAudience

end RegisteredClaims

/-! ## The codec -/

/-- Signs and reads tokens with a key for each kind. -/
structure Codec where
  accessKey : List UInt8
  secretKey : List UInt8
  deriving DecidableEq, Repr

namespace Codec

/-- The codec for two keys, which must be neither blank nor equal. -/
def ofKeys (accessKey secretKey : String) : Except AuthError Codec :=
  if Text.isBlankText accessKey then .error (.signing "access key is not set")
  else if Text.isBlankText secretKey then .error (.signing "secret key is not set")
  else if accessKey = secretKey then .error (.signing "access and secret keys must differ")
  else .ok ⟨Text.utf8 accessKey, Text.utf8 secretKey⟩

/-- The key of a kind. -/
def key (codec : Codec) : TokenKind → List UInt8
  | .access => codec.accessKey
  | .secret => codec.secretKey

/-- The header segment of every token that is issued. -/
def headerSegment : List Char :=
  Base64.encode .url (Text.utf8 Header.text)

/-- The claims segment of a token. -/
def claimsSegment (claims : Claims) : List Char :=
  Base64.encode .url claims.json.bytes

/-- The signature segment under a key, for the two segments before it. -/
def signatureSegment (key : List UInt8) (header payload : List Char) : List Char :=
  Base64.encode .url (Hmac.code key (Text.utf8Chars (header ++ '.' :: payload)))

/-- The token that says the claims. -/
def issue (codec : Codec) (claims : Claims) : String :=
  let payload := claimsSegment claims
  String.ofList (headerSegment ++ '.' :: (payload ++ '.' ::
    signatureSegment (codec.key claims.kind) headerSegment payload))

/-- The text before and behind the last dot. -/
def splitAtLastDot? (characters : List Char) : Option (List Char × List Char) :=
  let behind := (characters.reverse.takeWhile (· ≠ '.')).reverse
  match characters.reverse.dropWhile (· ≠ '.') with
  | [] => none
  | _ :: before => some (before.reverse, behind)

/-- The three segments of a token: the text is cut at its last two dots. -/
def segments? (token : String) : Option (List Char × List Char × List Char) :=
  (splitAtLastDot? token.toList).bind fun (signed, signature) =>
    (splitAtLastDot? signed).map fun (header, payload) => (header, payload, signature)

/-- The claims in a payload, if both readings of it succeed. -/
def claims? (payload : List UInt8) : Option Claims :=
  match Json.readWhole Claims.read payload, Json.readWhole RegisteredClaims.read payload with
  | .ok claims, .ok registered => if registered.areAcceptable then some claims else none
  | _, _ => none

/-- The claims of a token signed under a key. -/
def verify? (key : List UInt8) (token : String) : Option Claims := do
  let (header, payload, signature) ← segments? token
  let algorithm ← (Base64.decode? .url header).bind Header.algorithm?
  guard (algorithm = .hs256)
  guard (signature = signatureSegment key header payload)
  (Base64.decode? .url payload).bind claims?

/-- The claims of a token of some kind at some time. -/
def decodeAt (codec : Codec) (token : String) (kind : TokenKind) (now : Int) :
    Except AuthError Claims :=
  match verify? (codec.key kind) token with
  | none => .error .invalidSignature
  | some claims =>
    if claims.kind ≠ kind then .error .invalidSignature
    else if claims.isExpiredAt now then .error .expired
    else .ok claims

end Codec

/-- The two tokens of a login session. -/
structure TokenPair where
  access : String
  secret : String
  deriving DecidableEq, Repr

/-- The pair as it is shown. -/
def TokenPair.json (pair : TokenPair) : Json.Value :=
  .object [("access_token", .text pair.access), ("secret_token", .text pair.secret)]

end DualToken
