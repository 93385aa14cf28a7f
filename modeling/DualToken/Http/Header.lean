import DualToken.Text.Utf8

/-!
# Headers

A header of a request has a name, in which case does not matter, and a value of bytes. A value can
be used as text when it consists of visible ASCII characters, spaces and tabs. A response gives a
text as the value of a header only if it consists of these.
-/

set_option autoImplicit false

namespace DualToken

/-- The headers of a request, in order. -/
abbrev Headers := List (String × List UInt8)

namespace Headers

/-- The values of the headers of a name, given in lower case. -/
def valuesOf (headers : Headers) (name : String) : List (List UInt8) :=
  (headers.filter fun header => header.1.map Char.toLower = name).map (·.2)

/-- Whether a byte may stand in a value that is used as text. -/
def isTextByte (byte : UInt8) : Bool :=
  byte = 0x09 || (0x20 ≤ byte && byte ≤ 0x7E)

/-- The characters of a value that can be used as text. -/
def text? (value : List UInt8) : Option (List Char) :=
  if value.all isTextByte then some (value.map fun byte => Char.ofNat byte.toNat) else none

/-- Whether a text can be given as the value of a header. -/
def isValue (text : String) : Bool :=
  (Text.utf8 text).all isTextByte

end Headers

end DualToken
