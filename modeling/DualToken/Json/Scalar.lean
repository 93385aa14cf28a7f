import DualToken.Json.Number
import DualToken.Json.Text

/-!
# Reading scalars of an expected type

Each reader here expects values of one type behind optional spaces. A value of another type is of
the wrong shape; where it is a scalar, it is read first, so a problem inside it comes before the
mismatch. A byte that begins no value is malformed.
-/

set_option autoImplicit false

namespace DualToken.Json

/-- Reads a value of another type than the one expected: it is of the wrong shape, unless reading it
meets another problem. Lists and objects are not entered. -/
def readMismatch {α : Type} (bytes : List UInt8) : Outcome α :=
  match bytes with
  | [] => .stop .endsEarly []
  | byte :: rest =>
    if byte = 0x22 then (readTextBody rest).mismatch
    else if byte = 0x5B || byte = 0x7B then .stop .wrongShape bytes
    else if byte = 0x6E then (readWord nullTail rest).mismatch
    else if byte = 0x74 then (readWord trueTail rest).mismatch
    else if byte = 0x66 then (readWord falseTail rest).mismatch
    else if byte = 0x2D || isDigit byte then (readNumber bytes).mismatch
    else .stop .malformed bytes

def readText (bytes : List UInt8) : Outcome String :=
  match dropSpaces bytes with
  | 0x22 :: rest => readTextBody rest
  | other => readMismatch other

/-- Reads an integer of an expected range. -/
def readInteger (expected : Int → Bool) (bytes : List UInt8) : Outcome Int :=
  match dropSpaces bytes with
  | [] => .stop .endsEarly []
  | byte :: rest =>
    if byte = 0x2D || isDigit byte then
      (readNumber (byte :: rest)).bind fun numeral rest =>
        match numeral.integer? with
        | some number => if expected number then .value number rest else .stop .wrongShape rest
        | none => .stop .wrongShape rest
    else readMismatch (byte :: rest)

/-- Reads a signed integer of sixty-four bits. -/
def readInt64 (bytes : List UInt8) : Outcome Int64 :=
  let fits (number : Int) : Bool :=
    Int64.minValue.toInt ≤ number && number ≤ Int64.maxValue.toInt
  (readInteger fits bytes).map Int64.ofInt

/-- Reads `null`. -/
def readNull (bytes : List UInt8) : Outcome Unit :=
  match dropSpaces bytes with
  | 0x6E :: rest => readWord nullTail rest
  | other => readMismatch other

/-- Reads `null` as nothing and any other value as a value. -/
def readOptional {α : Type} (reader : Reader α) (bytes : List UInt8) : Outcome (Option α) :=
  match dropSpaces bytes with
  | 0x6E :: rest => (readWord nullTail rest).map fun _ => none
  | other => (reader other).map some

/-- Reads one of a few names: as a string literal, or as an object whose only key is the name and
whose value is `null`. -/
def readName {α : Type} (meaning : String → Option α) (bytes : List UInt8) : Outcome α :=
  let named (text : String) (rest : List UInt8) : Outcome α :=
    match meaning text with
    | some result => .value result rest
    | none => .stop .wrongShape rest
  match dropSpaces bytes with
  | [] => .stop .endsEarly []
  | 0x22 :: rest => (readTextBody rest).bind named
  | 0x7B :: rest =>
    (readText rest).bind fun text rest =>
      (named text rest).bind fun result rest =>
        (readMark 0x3A rest).bind fun _ rest =>
          (readNull rest).bind fun _ rest =>
            (readMark 0x7D rest).map fun _ => result
  | other => .stop .malformed other

end DualToken.Json
