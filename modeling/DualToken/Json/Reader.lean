/-!
# Reading JSON from bytes

A reader takes the bytes that are left, and either finds a value and the bytes behind it, or stops
at a problem. Text is read from left to right, so the first problem met decides. A stop also tells
where reading stopped: a reader that can do without a value goes on from there.

Three problems are told apart: the text is no JSON, it is JSON of another shape than the reader
expects, or it ends too early.
-/

set_option autoImplicit false

namespace DualToken.Json

/-- Why a text was refused. -/
inductive Problem where
  /-- The text is no JSON. -/
  | malformed
  /-- The text is JSON of another shape than expected. -/
  | wrongShape
  /-- The text ends before the value does. -/
  | endsEarly
  deriving DecidableEq, Repr

/-- What a reader makes of the bytes that are left. -/
inductive Outcome (α : Type) where
  /-- A value, and the bytes behind it. -/
  | value (result : α) (rest : List UInt8)
  /-- A problem, and the bytes from which reading could go on. -/
  | stop (problem : Problem) (rest : List UInt8)

namespace Outcome

/-- Goes on with the value that was found. -/
def bind {α β : Type} (outcome : Outcome α) (next : α → List UInt8 → Outcome β) : Outcome β :=
  match outcome with
  | .value result rest => next result rest
  | .stop problem rest => .stop problem rest

/-- Changes the value that was found. -/
def map {α β : Type} (change : α → β) (outcome : Outcome α) : Outcome β :=
  outcome.bind fun result rest => .value (change result) rest

@[simp] theorem bind_value {α β : Type} (result : α) (rest : List UInt8)
    (next : α → List UInt8 → Outcome β) : (value result rest).bind next = next result rest := rfl

@[simp] theorem bind_stop {α β : Type} (problem : Problem) (rest : List UInt8)
    (next : α → List UInt8 → Outcome β) : (stop problem rest).bind next = stop problem rest := rfl

@[simp] theorem map_value {α β : Type} (change : α → β) (result : α) (rest : List UInt8) :
    (value result rest).map change = value (change result) rest := rfl

@[simp] theorem map_stop {α β : Type} (change : α → β) (problem : Problem) (rest : List UInt8) :
    (stop problem rest).map change = stop problem rest := rfl

/-- Turns a value into a wrong shape: something was read, but it is not what was expected. -/
def mismatch {α β : Type} (outcome : Outcome α) : Outcome β :=
  outcome.bind fun _ rest => .stop .wrongShape rest

end Outcome

/-- Finds a value at the front of the bytes, or a problem. -/
abbrev Reader (α : Type) := List UInt8 → Outcome α

/-! ## Blanks, words and single bytes -/

/-- The four bytes that may stand between the parts of a JSON text. -/
def isSpace (byte : UInt8) : Bool :=
  byte == 0x20 || byte == 0x0A || byte == 0x0D || byte == 0x09

/-- The bytes without the spaces at the front. -/
def dropSpaces (bytes : List UInt8) : List UInt8 :=
  bytes.dropWhile isSpace

/-- Reads the rest of a word whose first letter has been seen. -/
def readWord : List UInt8 → Reader Unit
  | [], bytes => .value () bytes
  | _ :: _, [] => .stop .endsEarly []
  | expected :: more, byte :: rest =>
    if byte = expected then readWord more rest else .stop .malformed rest

/-- The letters of `null` behind the first. -/
def nullTail : List UInt8 := [0x75, 0x6C, 0x6C]

/-- The letters of `true` behind the first. -/
def trueTail : List UInt8 := [0x72, 0x75, 0x65]

/-- The letters of `false` behind the first. -/
def falseTail : List UInt8 := [0x61, 0x6C, 0x73, 0x65]

/-- Reads one byte behind spaces; any other is malformed. -/
def readMark (mark : UInt8) (bytes : List UInt8) : Outcome Unit :=
  match dropSpaces bytes with
  | [] => .stop .endsEarly []
  | byte :: rest => if byte = mark then .value () rest else .stop .malformed (byte :: rest)

/-- Reads a value behind which only spaces may follow. -/
def readWhole {α : Type} (reader : Reader α) (bytes : List UInt8) : Except Problem α :=
  match reader bytes with
  | .stop problem _ => .error problem
  | .value result rest => if (dropSpaces rest).isEmpty then .ok result else .error .malformed

/-- Reads a value and does not look at what follows it. -/
def readFront {α : Type} (reader : Reader α) (bytes : List UInt8) : Except Problem α :=
  match reader bytes with
  | .stop problem _ => .error problem
  | .value result _ => .ok result

end DualToken.Json
