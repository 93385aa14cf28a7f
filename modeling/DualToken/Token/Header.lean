import DualToken.Json.Outline
import DualToken.Json.Record
import DualToken.Text.Utf8

/-!
# Token headers

The header of a token names the algorithm of its signature. The library writes one header only, and
reads any: the algorithm has to be one of the known ones, and the other members have to be of their
types where they are present. An embedded public key is read as far as its own members demand.
-/

set_option autoImplicit false

namespace DualToken

/-- The algorithms that a header may name. -/
inductive Algorithm where
  /-- Authentication code with SHA-256: the one that tokens are signed with. -/
  | hs256
  /-- Any other algorithm. -/
  | other
  deriving DecidableEq, Repr

namespace Algorithm

/-- The names of the other algorithms. -/
def otherNames : List String :=
  ["HS384", "HS512", "ES256", "ES384", "RS256", "RS384", "RS512", "PS256", "PS384", "PS512",
    "EdDSA"]

/-- The algorithm of a name. -/
def ofName? (text : String) : Option Algorithm :=
  if text = "HS256" then some hs256 else if otherNames.contains text then some other else none

end Algorithm

/-! ## Embedded public keys -/

namespace PublicKey

open Json (Outline)

/-- Whether a value is a string. -/
def isText : Outline → Bool
  | .text _ => true
  | _ => false

/-- Whether a value is one of some names, as a string or as the only key of an object. -/
def isNameIn (names : List String) : Outline → Bool
  | .text name => names.contains name
  | .object [(name, .null)] => names.contains name
  | _ => false

/-- Whether a value is a list of strings. -/
def isTextList : Outline → Bool
  | .list items => items.all isText
  | _ => false

/-- Whether a value is `null` or of some type. -/
def isOptional (check : Outline → Bool) : Outline → Bool
  | .null => true
  | other => check other

/-- The values of the members of a name. -/
def valuesOf (members : List (String × Outline)) (name : String) : List Outline :=
  (members.filter (·.1 = name)).map (·.2)

/-- Whether an object has exactly one member of a name, of some type. -/
def hasMember (members : List (String × Outline)) (name : String) (check : Outline → Bool) : Bool :=
  match valuesOf members name with
  | [value] => check value
  | _ => false

/-- Whether an object has at most one member of a name, `null` or of some type. -/
def mayHaveMember (members : List (String × Outline)) (name : String) (check : Outline → Bool) :
    Bool :=
  match valuesOf members name with
  | [] => true
  | [value] => isOptional check value
  | _ => false

/-- The names of the algorithms that a key may be for. -/
def keyAlgorithms : List String :=
  "HS256" :: Algorithm.otherNames ++ ["RSA1_5", "RSA-OAEP", "RSA-OAEP-256"]

/-- The names of the curves. -/
def curves : List String := ["P-256", "P-384", "P-521", "Ed25519"]

/-- Whether the members are those of a public key of one of the four families. -/
def isWellFormed (members : List (String × Outline)) : Bool :=
  let family (name : String) := hasMember members "kty" (isNameIn [name])
  let curve := hasMember members "crv" (isNameIn curves)
  let text (name : String) := hasMember members name isText
  mayHaveMember members "use" isText && mayHaveMember members "key_ops" isTextList &&
    mayHaveMember members "alg" (isNameIn keyAlgorithms) && mayHaveMember members "kid" isText &&
    mayHaveMember members "x5u" isText && mayHaveMember members "x5c" isTextList &&
    mayHaveMember members "x5t" isText && mayHaveMember members "x5t#S256" isText &&
    ((family "EC" && curve && text "x" && text "y") || (family "RSA" && text "n" && text "e") ||
      (family "oct" && text "k") || (family "OKP" && curve && text "x"))

/-- Reads an embedded public key. -/
def read (bytes : List UInt8) : Json.Outcome Unit :=
  match Json.dropSpaces bytes with
  | 0x7B :: rest =>
    (Json.readOutline Json.depthInRecord (0x7B :: rest)).bind fun outline rest =>
      match outline with
      | .object members => if isWellFormed members then .value () rest else .stop .wrongShape rest
      | _ => .stop .wrongShape rest
  | other => Json.readMismatch other

end PublicKey

/-! ## Headers -/

namespace Header

/-- How a header is read. -/
def layout : Json.Layout :=
  [("typ", .optional Json.readText), ("alg", .required (Json.readName Algorithm.ofName?)),
    ("cty", .optional Json.readText), ("jku", .optional Json.readText),
    ("jwk", .optional PublicKey.read), ("kid", .optional Json.readText),
    ("x5u", .optional Json.readText), ("x5c", .optional (Json.readList Json.readText)),
    ("x5t", .optional Json.readText), ("x5t#S256", .optional Json.readText)]

/-- The algorithm that a header names. -/
def algorithm? (bytes : List UInt8) : Option Algorithm :=
  if (Text.ofUtf8? bytes).isSome then
    match Json.readWhole layout.read bytes with
    | .ok (_, algorithm, _) => some algorithm
    | .error _ => none
  else none

/-- The header of every token that is issued. -/
def text : String := "\x7b\"typ\":\"JWT\",\"alg\":\"HS256\"\x7d"

end Header

end DualToken
