import DualToken.Json.Reader

/-!
# Numerals

A numeral has an optional sign, a whole part without needless zeros in front, and optionally a
fraction and an exponent. It stands for an integer when it has neither fraction nor exponent; minus
zero is no integer, because zero has no sign. A numeral whose value rounds beyond the largest
double-precision number is malformed, whatever was expected.
-/

set_option autoImplicit false

namespace DualToken.Json

/-- Whether a byte is a decimal digit. -/
def isDigit (byte : UInt8) : Bool :=
  0x30 ≤ byte && byte ≤ 0x39

/-- The number that decimal digits write. -/
def decimalNumber (digits : List UInt8) : Nat :=
  digits.foldl (fun number digit => 10 * number + (digit.toNat - 0x30)) 0

/-- A numeral as it is written. -/
structure Numeral where
  /-- Whether a minus sign stands in front. -/
  negative : Bool
  /-- The digits of the whole part. -/
  whole : List UInt8
  /-- The digits of the fraction, if there is one. -/
  fraction : Option (List UInt8)
  /-- The exponent, if there is one. -/
  exponent : Option Int

namespace Numeral

/-- The integer that the numeral writes, if it writes one. -/
def integer? (numeral : Numeral) : Option Int :=
  match numeral.fraction, numeral.exponent with
  | none, none =>
    let magnitude := decimalNumber numeral.whole
    if numeral.negative then
      if magnitude = 0 then none else some (-(magnitude : Int))
    else some magnitude
  | _, _ => none

/-- The least magnitude that rounds beyond the double-precision numbers. -/
def roundingLimit : Nat := (1 <<< 1024) - (1 <<< 970)

/-- Whether the value rounds beyond the double-precision numbers. The number of digits settles it
but for a narrow band of magnitudes, where the value itself is compared. -/
def overflows (numeral : Numeral) : Bool :=
  let fraction := numeral.fraction.getD []
  let digits := (numeral.whole ++ fraction).dropWhile (· == 0x30)
  let exponent := numeral.exponent.getD 0 - (fraction.length : Int)
  if digits.isEmpty then false
  else
    let places := (digits.length : Int) + exponent
    if places > 309 then true
    else if places < 309 then false
    else if exponent ≥ 0 then
      roundingLimit ≤ decimalNumber digits * Nat.pow 10 exponent.toNat
    else
      roundingLimit * Nat.pow 10 (-exponent).toNat ≤ decimalNumber digits

end Numeral

/-- Reads the digits of a fraction or an exponent: at least one. The problem of a text that ends
where a digit is due is a parameter. -/
def readDigits (atEnd : Problem) (bytes : List UInt8) : Outcome (List UInt8) :=
  match bytes with
  | [] => .stop atEnd []
  | byte :: rest =>
    if isDigit byte then
      .value ((byte :: rest).takeWhile isDigit) ((byte :: rest).dropWhile isDigit)
    else .stop .malformed (byte :: rest)

/-- Reads the whole part: a lone zero, or digits that begin with another. -/
def readWholePart (atEnd : Problem) (bytes : List UInt8) : Outcome (List UInt8) :=
  match bytes with
  | 0x30 :: next :: rest =>
    if isDigit next then .stop .malformed (next :: rest) else .value [0x30] (next :: rest)
  | _ => readDigits atEnd bytes

/-- Reads an exponent behind its letter. -/
def readExponent (atEnd : Problem) (bytes : List UInt8) : Outcome Int :=
  match bytes with
  | 0x2D :: rest => (readDigits atEnd rest).map fun digits => -(decimalNumber digits : Int)
  | 0x2B :: rest => (readDigits atEnd rest).map fun digits => (decimalNumber digits : Int)
  | _ => (readDigits atEnd bytes).map fun digits => (decimalNumber digits : Int)

/-- Reads an optional part that begins with one of two letters. -/
def readOptionalPart {α : Type} (first second : UInt8) (reader : Reader α) (bytes : List UInt8) :
    Outcome (Option α) :=
  match bytes with
  | byte :: rest =>
    if byte = first || byte = second then (reader rest).map some else .value none bytes
  | [] => .value none []

/-- Reads a numeral behind its sign, if it has one. -/
def readUnsigned (atEnd : Problem) (negative : Bool) (bytes : List UInt8) : Outcome Numeral :=
  (readWholePart atEnd bytes).bind fun whole rest =>
    (readOptionalPart 0x2E 0x2E (readDigits atEnd) rest).bind fun fraction rest =>
      (readOptionalPart 0x65 0x45 (readExponent atEnd) rest).bind fun exponent rest =>
        .value ⟨negative, whole, fraction, exponent⟩ rest

def readNumeral (atEnd : Problem) (bytes : List UInt8) : Outcome Numeral :=
  match bytes with
  | 0x2D :: rest => readUnsigned atEnd true rest
  | _ => readUnsigned atEnd false bytes

/-- Reads a numeral as a value: one that overflows is malformed. -/
def readNumber (bytes : List UInt8) : Outcome Numeral :=
  (readNumeral .endsEarly bytes).bind fun numeral rest =>
    if numeral.overflows then .stop .malformed rest else .value numeral rest

end DualToken.Json
