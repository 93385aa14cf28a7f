import DualToken.Json.Number
import DualToken.Json.Text

/-!
# Passing over a value

A member that nobody asked for is passed over without being built. The value has to be JSON, but
less is asked of it than of a value that is read: its nesting has no limit, the size of its numbers
does not matter, and neither surrogates nor the bytes of its string literals are checked.

Passing over is a machine with a stack of the lists and objects that are still open. It reads one
byte at a time, so it ends with the text, and it stops behind the value.
-/

set_option autoImplicit false

namespace DualToken.Json

/-- A value that holds others. -/
inductive Container where
  | list
  | object
  deriving DecidableEq, Repr

/-- Where a numeral is being passed over. -/
inductive NumeralPhase where
  /-- Behind the minus sign. -/
  | sign
  /-- Behind a leading zero. -/
  | zero
  /-- Among the digits of the whole part. -/
  | whole
  /-- Behind the decimal point. -/
  | point
  /-- Among the digits of the fraction. -/
  | fraction
  /-- Behind the letter of the exponent. -/
  | exponentMark
  /-- Behind the sign of the exponent. -/
  | exponentSign
  /-- Among the digits of the exponent. -/
  | exponent
  deriving DecidableEq, Repr

namespace NumeralPhase

/-- Whether the numeral may end here. -/
def isComplete : NumeralPhase → Bool
  | zero | whole | fraction | exponent => true
  | sign | point | exponentMark | exponentSign => false

/-- The phase behind one more byte of the numeral, or nothing if the byte cannot belong to it. -/
def next? (phase : NumeralPhase) (byte : UInt8) : Option NumeralPhase :=
  let digit := isDigit byte
  let mark := byte = 0x65 || byte = 0x45
  match phase with
  | sign => if byte = 0x30 then some zero else if digit then some whole else none
  | zero => if byte = 0x2E then some point else if mark then some exponentMark else none
  | whole =>
    if digit then some whole else if byte = 0x2E then some point
    else if mark then some exponentMark else none
  | point => if digit then some fraction else none
  | fraction => if digit then some fraction else if mark then some exponentMark else none
  | exponentMark =>
    if digit then some exponent else if byte = 0x2B || byte = 0x2D then some exponentSign else none
  | exponentSign => if digit then some exponent else none
  | exponent => if digit then some exponent else none

end NumeralPhase

/-- Where a literal is being passed over. -/
inductive LiteralPhase where
  /-- Between characters. -/
  | plain
  /-- Behind a backslash. -/
  | escape
  /-- Among the four digits of a unit, the latest first. -/
  | unit (digits : List UInt8)

/-- Where the machine stands. -/
inductive SkipPhase where
  /-- A value has to begin. -/
  | value
  /-- A list has been opened: a value or its end. -/
  | firstItem
  /-- An object has been opened: a key or its end. -/
  | firstKey
  /-- A key has to begin. -/
  | key
  /-- The colon behind a key. -/
  | colon
  /-- Behind a value inside a container: a comma or the end of the container. -/
  | afterItem
  /-- In a string literal, a key or a value. -/
  | literal (isKey : Bool) (phase : LiteralPhase)
  /-- In a word, with the letters still due. -/
  | word (due : List UInt8)
  | numeral (phase : NumeralPhase)

/-- What one byte does to the machine. -/
inductive SkipMove where
  /-- Passing over goes on. -/
  | on (phase : SkipPhase) (opened : List Container)
  /-- The value is complete with this byte. -/
  | complete
  /-- The value was complete before this byte. -/
  | completeBefore
  /-- The byte cannot stand here. -/
  | refuse

/-- Behind a value: the machine goes on in the container around it, if there is one. -/
def SkipMove.afterValue : List Container → SkipMove
  | [] => .complete
  | opened => .on .afterItem opened

/-- The effect of the first byte of a value. -/
def beginValue (opened : List Container) (byte : UInt8) : SkipMove :=
  if byte = 0x22 then .on (.literal false .plain) opened
  else if byte = 0x5B then .on .firstItem (.list :: opened)
  else if byte = 0x7B then .on .firstKey (.object :: opened)
  else if byte = 0x6E then .on (.word nullTail) opened
  else if byte = 0x74 then .on (.word trueTail) opened
  else if byte = 0x66 then .on (.word falseTail) opened
  else if byte = 0x2D then .on (.numeral .sign) opened
  else if byte = 0x30 then .on (.numeral .zero) opened
  else if isDigit byte then .on (.numeral .whole) opened
  else .refuse

/-- The effect of a byte behind a value inside a container. -/
def moveAfterItem (opened : List Container) (byte : UInt8) : SkipMove :=
  if isSpace byte then .on .afterItem opened
  else match opened with
    | .list :: outer =>
      if byte = 0x2C then .on .value opened
      else if byte = 0x5D then .afterValue outer else .refuse
    | .object :: outer =>
      if byte = 0x2C then .on .key opened
      else if byte = 0x7D then .afterValue outer else .refuse
    | [] => .refuse

/-- The effect of a byte in a string literal. -/
def moveLiteral (isKey : Bool) (phase : LiteralPhase) (opened : List Container) (byte : UInt8) :
    SkipMove :=
  let stay (next : LiteralPhase) := SkipMove.on (.literal isKey next) opened
  match phase with
  | .plain =>
    if byte = 0x22 then if isKey then .on .colon opened else .afterValue opened
    else if byte = 0x5C then stay .escape
    else if byte < 0x20 then .refuse
    else stay .plain
  | .escape =>
    if byte = 0x75 then stay (.unit [])
    else if (escapedByte? byte).isSome then stay .plain else .refuse
  | .unit digits =>
    if digits.length < 3 then stay (.unit (byte :: digits))
    else if (hexNumber? (byte :: digits).reverse).isSome then stay .plain else .refuse

/-- The effect of one byte on the machine. -/
def skipMove (phase : SkipPhase) (opened : List Container) (byte : UInt8) : SkipMove :=
  match phase with
  | .value => if isSpace byte then .on .value opened else beginValue opened byte
  | .firstItem =>
    if isSpace byte then .on .firstItem opened
    else if byte = 0x5D then .afterValue opened.tail
    else beginValue opened byte
  | .firstKey =>
    if isSpace byte then .on .firstKey opened
    else if byte = 0x7D then .afterValue opened.tail
    else if byte = 0x22 then .on (.literal true .plain) opened else .refuse
  | .key =>
    if isSpace byte then .on .key opened
    else if byte = 0x22 then .on (.literal true .plain) opened else .refuse
  | .colon =>
    if isSpace byte then .on .colon opened
    else if byte = 0x3A then .on .value opened else .refuse
  | .afterItem => moveAfterItem opened byte
  | .literal isKey literalPhase => moveLiteral isKey literalPhase opened byte
  | .word due =>
    match due with
    | [] => .refuse
    | [last] => if byte = last then .afterValue opened else .refuse
    | expected :: more => if byte = expected then .on (.word more) opened else .refuse
  | .numeral numeralPhase =>
    match numeralPhase.next? byte with
    | some next => .on (.numeral next) opened
    | none =>
      if numeralPhase.isComplete && !(numeralPhase == .zero && isDigit byte) then
        if opened.isEmpty then .completeBefore else moveAfterItem opened byte
      else .refuse

/-- What the end of the text means in some phase. A numeral that is complete may end the text when
nothing is open; one that is not is malformed. -/
def skipEnd (phase : SkipPhase) (opened : List Container) : Outcome Unit :=
  match phase with
  | .numeral numeralPhase =>
    if numeralPhase.isComplete then
      if opened.isEmpty then .value () [] else .stop .endsEarly []
    else .stop .malformed []
  | _ => .stop .endsEarly []

/-- Passes over the rest of a value from some phase on. -/
def skipFrom : SkipPhase → List Container → Reader Unit
  | phase, opened, [] => skipEnd phase opened
  | phase, opened, byte :: rest =>
    match skipMove phase opened byte with
    | .on next more => skipFrom next more rest
    | .complete => .value () rest
    | .completeBefore => .value () (byte :: rest)
    | .refuse => .stop .malformed (byte :: rest)

/-- Passes over a value. -/
def skipValue : Reader Unit :=
  skipFrom .value []

end DualToken.Json
