/-!
# Base 64 without padding

Three bytes are written as four symbols of six bits each; one or two bytes left over are written as
two or three symbols whose unused bits are zero. Nothing pads the last group. Reading accepts
exactly this form: a lone last symbol, a symbol outside the alphabet, or unused bits that are not
zero are refused, so a list of bytes has one spelling.

The alphabet is a parameter. Tokens use the alphabet that is safe in a URL; password hashes use one
that begins with a point and a slash.
-/

set_option autoImplicit false

namespace DualToken.Base64

/-- Sixty-four different symbols, in the order of their values. -/
structure Alphabet where
  symbols : Vector Char 64
  /-- No symbol has two values. -/
  distinct : symbols.toList.Nodup

namespace Alphabet

/-- The alphabet that is safe in a URL. -/
def url : Alphabet where
  symbols := ⟨"ABCDEFGHIJKLMNOPQRSTUVWXYZabcdefghijklmnopqrstuvwxyz0123456789-_".toList.toArray,
    by decide⟩
  distinct := by decide

/-- The alphabet of password hashes. -/
def passwordHash : Alphabet where
  symbols := ⟨"./ABCDEFGHIJKLMNOPQRSTUVWXYZabcdefghijklmnopqrstuvwxyz0123456789".toList.toArray,
    by decide⟩
  distinct := by decide

/-- The symbol of a six-bit value. -/
def symbol (alphabet : Alphabet) (value : Fin 64) : Char :=
  alphabet.symbols[value]

/-- The value of a symbol, if the alphabet has it. -/
def value? (alphabet : Alphabet) (character : Char) : Option (Fin 64) :=
  alphabet.symbols.finIdxOf? character

end Alphabet

/-! ## Writing -/

/-- The upper six bits of a byte. -/
def high6 (first : UInt8) : Fin 64 :=
  ⟨first.toNat / 4, by have := first.toNat_lt; omega⟩

/-- The lower two bits of a byte, then the upper four of the next. -/
def low2high4 (first second : UInt8) : Fin 64 :=
  ⟨first.toNat % 4 * 16 + second.toNat / 16, by have := second.toNat_lt; omega⟩

/-- The lower four bits of a byte, then the upper two of the next. -/
def low4high2 (second third : UInt8) : Fin 64 :=
  ⟨second.toNat % 16 * 4 + third.toNat / 64, by have := third.toNat_lt; omega⟩

/-- The lower six bits of a byte. -/
def low6 (third : UInt8) : Fin 64 :=
  ⟨third.toNat % 64, by omega⟩

/-- The symbols that write a list of bytes. -/
def encode (alphabet : Alphabet) : List UInt8 → List Char
  | [] => []
  | [first] => [alphabet.symbol (high6 first), alphabet.symbol (low2high4 first 0)]
  | [first, second] =>
    [alphabet.symbol (high6 first), alphabet.symbol (low2high4 first second),
      alphabet.symbol (low4high2 second 0)]
  | first :: second :: third :: rest =>
    alphabet.symbol (high6 first) :: alphabet.symbol (low2high4 first second) ::
      alphabet.symbol (low4high2 second third) :: alphabet.symbol (low6 third) ::
        encode alphabet rest

/-! ## Reading -/

/-- The byte of six bits and the upper two of the next six. -/
def byte62 (first second : Fin 64) : UInt8 :=
  UInt8.ofNat (first.val * 4 + second.val / 16)

/-- The byte of the lower four of six bits and the upper four of the next six. -/
def byte44 (second third : Fin 64) : UInt8 :=
  UInt8.ofNat (second.val % 16 * 16 + third.val / 4)

/-- The byte of the lower two of six bits and the next six. -/
def byte26 (third fourth : Fin 64) : UInt8 :=
  UInt8.ofNat (third.val % 4 * 64 + fourth.val)

/-- The bytes that a list of six-bit values stands for. -/
def ofValues? : List (Fin 64) → Option (List UInt8)
  | [] => some []
  | [_] => none
  | [first, second] => if second.val % 16 = 0 then some [byte62 first second] else none
  | [first, second, third] =>
    if third.val % 4 = 0 then some [byte62 first second, byte44 second third] else none
  | first :: second :: third :: fourth :: rest =>
    (ofValues? rest).map fun bytes =>
      byte62 first second :: byte44 second third :: byte26 third fourth :: bytes

/-- The bytes that a list of symbols writes, if it is the written form of any. -/
def decode? (alphabet : Alphabet) (characters : List Char) : Option (List UInt8) :=
  (characters.mapM alphabet.value?).bind ofValues?

end DualToken.Base64
