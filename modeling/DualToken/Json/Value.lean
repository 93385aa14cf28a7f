import DualToken.Text.Decimal
import DualToken.Text.Utf8

/-!
# Writing JSON

`Value` is what is written: objects keep the order of their members, and numbers are integers. The
text has no spaces. In a string the quote, the backslash and the control characters are escaped,
those with a letter of their own by that letter and the others by four hexadecimal digits; every
other character stands for itself.
-/

set_option autoImplicit false

namespace DualToken.Json

/-- A JSON value to be written. -/
inductive Value where
  /-- The value `null`. -/
  | null
  | boolean (truth : Bool)
  | integer (number : Int)
  | text (content : String)
  | list (items : List Value)
  /-- An object with its members in order. -/
  | object (members : List (String × Value))

/-- The escape of a character inside a string literal, or the character itself. -/
def escape (character : Char) : List Char :=
  if character = '"' then ['\\', '"']
  else if character = '\\' then ['\\', '\\']
  else if character = '\x08' then ['\\', 'b']
  else if character = '\x0c' then ['\\', 'f']
  else if character = '\n' then ['\\', 'n']
  else if character = '\r' then ['\\', 'r']
  else if character = '\t' then ['\\', 't']
  else if character.toNat < 0x20 then
    ['\\', 'u', '0', '0', Nat.digitChar (character.toNat / 16),
      Nat.digitChar (character.toNat % 16)]
  else [character]

def writeText (content : String) : List Char :=
  '"' :: (content.toList.flatMap escape ++ ['"'])

mutual

/-- The text of a value. -/
def Value.write : Value → List Char
  | .null => ['n', 'u', 'l', 'l']
  | .boolean true => ['t', 'r', 'u', 'e']
  | .boolean false => ['f', 'a', 'l', 's', 'e']
  | .integer number => Text.writeInteger number
  | .text content => writeText content
  | .list items => '[' :: (writeItems items ++ [']'])
  | .object members => '\x7b' :: (writeMembers members ++ ['\x7d'])

/-- The items of a list, with commas between them. -/
def writeItems : List Value → List Char
  | [] => []
  | [last] => last.write
  | item :: others => item.write ++ ',' :: writeItems others

/-- The members of an object, with commas between them. -/
def writeMembers : List (String × Value) → List Char
  | [] => []
  | [(name, last)] => writeText name ++ ':' :: last.write
  | (name, value) :: others => writeText name ++ ':' :: (value.write ++ ',' :: writeMembers others)

end

/-- The bytes of a value's text. -/
def Value.bytes (value : Value) : List UInt8 :=
  Text.utf8Chars value.write

end DualToken.Json
