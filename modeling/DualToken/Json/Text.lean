import DualToken.Json.Reader
import DualToken.Text.Utf8

/-!
# String literals

The literal is scanned byte by byte by a machine that remembers which part of an escape it is in.
An escape names a character by a letter or by four hexadecimal digits; a character outside the first
plane is written as two such units, a high surrogate and a low one. Control characters, unknown
escapes and surrogates without a partner are malformed, and the bytes of the whole literal have to
be UTF-8.
-/

set_option autoImplicit false

namespace DualToken.Json

/-- The value of a hexadecimal digit. -/
def hexValue? (byte : UInt8) : Option Nat :=
  if 0x30 ≤ byte && byte ≤ 0x39 then some (byte.toNat - 0x30)
  else if 0x61 ≤ byte && byte ≤ 0x66 then some (byte.toNat - 0x61 + 10)
  else if 0x41 ≤ byte && byte ≤ 0x46 then some (byte.toNat - 0x41 + 10)
  else none

/-- The number that hexadecimal digits write. -/
def hexNumber? (digits : List UInt8) : Option Nat :=
  digits.foldl (fun number digit => do return 16 * (← number) + (← hexValue? digit)) (some 0)

/-- The byte that an escape of one letter stands for. -/
def escapedByte? (letter : UInt8) : Option UInt8 :=
  if letter = 0x22 || letter = 0x5C || letter = 0x2F then some letter
  else if letter = 0x62 then some 0x08
  else if letter = 0x66 then some 0x0C
  else if letter = 0x6E then some 0x0A
  else if letter = 0x72 then some 0x0D
  else if letter = 0x74 then some 0x09
  else none

/-- Whether a unit is the first half of a character outside the first plane. -/
def isHighSurrogate (unit : Nat) : Bool := 0xD800 ≤ unit && unit ≤ 0xDBFF

/-- Whether a unit is the second half of a character outside the first plane. -/
def isLowSurrogate (unit : Nat) : Bool := 0xDC00 ≤ unit && unit ≤ 0xDFFF

/-- The character of a surrogate pair. -/
def pairedCharacter (high low : Nat) : Char :=
  Char.ofNat (0x10000 + (high - 0xD800) * 0x400 + (low - 0xDC00))

/-- Where a literal is being read. -/
inductive TextPhase where
  /-- Between characters. -/
  | plain
  /-- Behind a backslash. -/
  | escape
  /-- Among the four digits of a unit, the latest first. -/
  | unit (digits : List UInt8)
  /-- Behind a high surrogate: a backslash has to follow. -/
  | partner (high : Nat)
  /-- Behind a high surrogate and a backslash: the letter of a unit has to follow. -/
  | partnerEscape (high : Nat)
  /-- Among the four digits of the second half of a pair, the latest first. -/
  | partnerUnit (high : Nat) (digits : List UInt8)

/-- What one byte does to a literal that is being read. -/
inductive TextMove where
  /-- Reading goes on, with the bytes that were found. -/
  | on (phase : TextPhase) (found : List UInt8)
  | complete
  /-- The byte cannot stand here. -/
  | refuse

/-- The effect of one byte. A unit is judged when its fourth byte has come. -/
def textMove : TextPhase → UInt8 → TextMove
  | .plain, byte =>
    if byte = 0x22 then .complete
    else if byte = 0x5C then .on .escape []
    else if byte < 0x20 then .refuse
    else .on .plain [byte]
  | .escape, byte =>
    if byte = 0x75 then .on (.unit []) []
    else match escapedByte? byte with
      | some named => .on .plain [named]
      | none => .refuse
  | .unit digits, byte =>
    if digits.length < 3 then .on (.unit (byte :: digits)) []
    else match hexNumber? (byte :: digits).reverse with
      | none => .refuse
      | some unit =>
        if isLowSurrogate unit then .refuse
        else if isHighSurrogate unit then .on (.partner unit) []
        else .on .plain (Text.utf8Chars [Char.ofNat unit])
  | .partner high, byte =>
    if byte = 0x5C then .on (.partnerEscape high) [] else .refuse
  | .partnerEscape high, byte =>
    if byte = 0x75 then .on (.partnerUnit high []) [] else .refuse
  | .partnerUnit high digits, byte =>
    if digits.length < 3 then .on (.partnerUnit high (byte :: digits)) []
    else match hexNumber? (byte :: digits).reverse with
      | none => .refuse
      | some low =>
        if isLowSurrogate low then .on .plain (Text.utf8Chars [pairedCharacter high low])
        else .refuse

/-- Reads the bytes of a literal from some phase on; `found` holds those so far, the latest
first. -/
def readTextBytes : TextPhase → List UInt8 → Reader (List UInt8)
  | _, _, [] => .stop .endsEarly []
  | phase, found, byte :: rest =>
    match textMove phase byte with
    | .on next more => readTextBytes next (more.reverse ++ found) rest
    | .complete => .value found.reverse rest
    | .refuse => .stop .malformed rest

/-- Reads a literal behind its opening quote. -/
def readTextBody (bytes : List UInt8) : Outcome String :=
  (readTextBytes .plain [] bytes).bind fun found rest =>
    match Text.ofUtf8? found with
    | some text => .value text rest
    | none => .stop .malformed rest

end DualToken.Json
