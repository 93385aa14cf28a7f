import DualToken.Json.Scalar

/-!
# Values of any shape

`Outline` is what is kept of a value whose shape is looked at after it has been read: everything but
the values of its numbers and truth values. Reading one limits how deep lists and objects may be
nested.

A list or object that cannot be read to its end is left at the first place behind the problem where
it could have been closed. This matters to `readLeniently`, which goes on behind a value that could
not be read.
-/

set_option autoImplicit false

namespace DualToken.Json

/-- A JSON value without the values of its numbers and truth values. -/
inductive Outline where
  /-- The value `null`. -/
  | null
  /-- A truth value. -/
  | boolean
  | number
  | text (content : String)
  | list (items : List Outline)
  /-- An object, with its members in the order of the text. -/
  | object (members : List (String × Outline))

/-! ## Ends of lists and objects -/

/-- The bytes behind the end of a list, if it ends here. A comma in its place is passed over. -/
def dropListEnd (bytes : List UInt8) : List UInt8 :=
  match dropSpaces bytes with
  | 0x5D :: rest => rest
  | 0x2C :: rest => dropSpaces rest
  | other => other

/-- The bytes behind the end of an object, if it ends here. -/
def dropObjectEnd (bytes : List UInt8) : List UInt8 :=
  match dropSpaces bytes with
  | 0x7D :: rest => rest
  | other => other

/-- Leaves a list or object: where its contents stopped at a problem, its end is passed over. -/
def Outcome.leave {α : Type} (dropEnd : List UInt8 → List UInt8) (outcome : Outcome α) :
    Outcome α :=
  match outcome with
  | .value result rest => .value result rest
  | .stop problem rest => .stop problem (dropEnd rest)

/-! ## Lists -/

/-- Reads the items of a list up to its end, at most `limit` of them; `found` holds those so far,
the latest first. -/
def readItems {α : Type} (item : Reader α) : (limit : Nat) → (found : List α) → Reader (List α)
  | 0, _, bytes => .stop .endsEarly bytes
  | limit + 1, found, bytes =>
    match dropSpaces bytes with
    | [] => .stop .endsEarly []
    | byte :: rest =>
      if byte = 0x5D then .value found.reverse rest
      else
        let next :=
          if found.isEmpty then item (byte :: rest)
          else if byte = 0x2C then
            match dropSpaces rest with
            | 0x5D :: more => .stop .malformed (0x5D :: more)
            | other => item other
          else .stop .malformed (byte :: rest)
        next.bind fun value rest => readItems item limit (value :: found) rest

/-- Reads a list behind its opening bracket. -/
def readListBody {α : Type} (item : Reader α) (bytes : List UInt8) : Outcome (List α) :=
  (readItems item (bytes.length + 1) [] bytes).leave dropListEnd

def readList {α : Type} (item : Reader α) (bytes : List UInt8) : Outcome (List α) :=
  match dropSpaces bytes with
  | 0x5B :: rest => readListBody item rest
  | other => readMismatch other

/-! ## Objects -/

/-- Reads a key, its colon and its value. -/
def readKeyed {α : Type} (item : Reader α) (bytes : List UInt8) : Outcome (String × α) :=
  match bytes with
  | [] => .stop .endsEarly []
  | byte :: rest =>
    if byte = 0x22 then
      (readTextBody rest).bind fun name rest =>
        (readMark 0x3A rest).bind fun _ rest =>
          (item rest).map fun value => (name, value)
    else .stop .malformed (byte :: rest)

/-- Reads the members of an object up to its end, at most `limit` of them; `found` holds those so
far, the latest first. -/
def readMembers {α : Type} (item : Reader α) : (limit : Nat) → (found : List (String × α)) →
    Reader (List (String × α))
  | 0, _, bytes => .stop .endsEarly bytes
  | limit + 1, found, bytes =>
    match dropSpaces bytes with
    | [] => .stop .endsEarly []
    | byte :: rest =>
      if byte = 0x7D then .value found.reverse rest
      else
        let next :=
          if found.isEmpty then readKeyed item (byte :: rest)
          else if byte = 0x2C then readKeyed item (dropSpaces rest)
          else .stop .malformed (byte :: rest)
        next.bind fun member rest => readMembers item limit (member :: found) rest

/-! ## Any value -/

/-- How deep lists and objects may be nested inside a record. -/
def depthInRecord : Nat := 126

/-- Reads a value of any shape, nested at most `depth` deep. -/
def readOutline : (depth : Nat) → Reader Outline
  | depth, bytes =>
    match dropSpaces bytes with
    | [] => .stop .endsEarly []
    | byte :: rest =>
      if byte = 0x22 then (readTextBody rest).map .text
      else if byte = 0x6E then (readWord nullTail rest).map fun _ => .null
      else if byte = 0x74 then (readWord trueTail rest).map fun _ => .boolean
      else if byte = 0x66 then (readWord falseTail rest).map fun _ => .boolean
      else if byte = 0x2D || isDigit byte then
        (readNumber (byte :: rest)).map fun _ => .number
      else if byte = 0x5B then
        match depth with
        | 0 => .stop .malformed (byte :: rest)
        | inner + 1 => (readListBody (readOutline inner) rest).map .list
      else if byte = 0x7B then
        match depth with
        | 0 => .stop .malformed (byte :: rest)
        | inner + 1 =>
          ((readMembers (readOutline inner) (rest.length + 1) [] rest).leave dropObjectEnd).map
            .object
      else .stop .malformed (byte :: rest)

/-- Reads a value that can be done without: where it cannot be read, reading goes on from the place
where it stopped. -/
def readLeniently {α : Type} (reader : Reader α) (bytes : List UInt8) : Outcome (Option α) :=
  match reader bytes with
  | .value result rest => .value (some result) rest
  | .stop _ rest => .value none rest

end DualToken.Json
