import DualToken.Json.Scalar
import DualToken.Json.Skip

/-!
# Records

A record is described by its layout: the names of its members in order, and how each is read. It is
read from an object or from a list. In an object the members stand in any order, members that the
layout does not know are passed over, a member that stands twice is of the wrong shape, and a member
that is missing takes its default, if it has one. In a list the members stand in the order of the
layout, and none may be missing.

`Layout.Record` is the type of the values and `Layout.Draft` that of the values found so far.
-/

set_option autoImplicit false

namespace DualToken.Json

/-- How a member is read. -/
structure Shape where
  Carrier : Type
  read : Reader Carrier
  /-- Its value where an object lacks it. -/
  default : Option Carrier

namespace Shape

/-- A member that has to be there. -/
def required {α : Type} (reader : Reader α) : Shape := ⟨α, reader, none⟩

/-- A member that may be missing or `null`. -/
def optional {α : Type} (reader : Reader α) : Shape := ⟨Option α, readOptional reader, some none⟩

end Shape

/-- The members of a record, in order. -/
abbrev Layout := List (String × Shape)

namespace Layout

/-- The values of all members. -/
def Record : Layout → Type
  | [] => Unit
  | member :: others => member.2.Carrier × Record others

/-- The values of the members found so far. -/
def Draft : Layout → Type
  | [] => Unit
  | member :: others => Option member.2.Carrier × Draft others

/-- No member has been found. -/
def Draft.empty : (layout : Layout) → layout.Draft
  | [] => ()
  | _ :: others => (none, Draft.empty others)

/-- The record of the members found, with defaults for those that are missing. -/
def Draft.complete? : (layout : Layout) → layout.Draft → Option layout.Record
  | [], () => some ()
  | (_, shape) :: others, (found, more) =>
    match found.or shape.default, Draft.complete? others more with
    | some value, some values => some (value, values)
    | _, _ => none

/-- Reads a member behind its key, if the layout knows the key. -/
def readMember : (layout : Layout) → (name : String) → layout.Draft →
    Option (Reader layout.Draft)
  | [], _, () => none
  | (known, shape) :: others, name, (found, more) =>
    if name = known then
      some fun bytes =>
        if found.isSome then .stop .wrongShape bytes
        else
          (readMark 0x3A bytes).bind fun _ rest =>
            (shape.read rest).map fun value => (some value, more)
    else
      (readMember others name more).map fun reader bytes =>
        (reader bytes).map fun changed => (found, changed)

/-- Reads the value of a key that the layout does not know. -/
def readUnknown (bytes : List UInt8) : Outcome Unit :=
  (readMark 0x3A bytes).bind fun _ rest => skipValue rest

/-- Reads a key and its value. -/
def readEntry (layout : Layout) (draft : layout.Draft) (bytes : List UInt8) :
    Outcome layout.Draft :=
  match bytes with
  | [] => .stop .endsEarly []
  | byte :: rest =>
    if byte = 0x22 then
      (readTextBody rest).bind fun name rest =>
        match readMember layout name draft with
        | some reader => reader rest
        | none => (readUnknown rest).map fun _ => draft
    else .stop .malformed (byte :: rest)

/-- Reads the entries of an object up to its end, at most `limit` of them. -/
def readEntries (layout : Layout) : (limit : Nat) → (isFirst : Bool) → layout.Draft →
    Reader layout.Draft
  | 0, _, _, bytes => .stop .endsEarly bytes
  | limit + 1, isFirst, draft, bytes =>
    match dropSpaces bytes with
    | [] => .stop .endsEarly []
    | byte :: rest =>
      if byte = 0x7D then .value draft rest
      else
        let entry :=
          if isFirst then readEntry layout draft (byte :: rest)
          else if byte = 0x2C then readEntry layout draft (dropSpaces rest)
          else .stop .malformed (byte :: rest)
        entry.bind fun changed rest => readEntries layout limit false changed rest

/-- Reads the members that stand in a list, up to the last that the layout knows. -/
def readItems : (layout : Layout) → (isFirst : Bool) → Reader layout.Record
  | [], _, bytes => .value () bytes
  | (_, shape) :: others, isFirst, bytes =>
    let readHere (rest : List UInt8) : Outcome (Record ((_, shape) :: others)) :=
      (shape.read rest).bind fun value rest =>
        (readItems others false rest).map fun values => (value, values)
    match dropSpaces bytes with
    | [] => .stop .endsEarly []
    | byte :: rest =>
      if byte = 0x5D then .stop .wrongShape (byte :: rest)
      else if isFirst then readHere (byte :: rest)
      else if byte = 0x2C then
        match dropSpaces rest with
        | [] => .stop .endsEarly []
        | next :: more =>
          if next = 0x5D then .stop .malformed (next :: more) else readHere (next :: more)
      else .stop .malformed (byte :: rest)

/-- Reads the end of a list that has no more members. A comma in its place is malformed. -/
def readListEnd (bytes : List UInt8) : Outcome Unit :=
  match dropSpaces bytes with
  | [] => .stop .endsEarly []
  | byte :: rest => if byte = 0x5D then .value () rest else .stop .malformed rest

def read (layout : Layout) : Reader layout.Record := fun bytes =>
  match dropSpaces bytes with
  | 0x7B :: rest =>
    (readEntries layout (rest.length + 1) true (Draft.empty layout) rest).bind fun draft rest =>
      match Draft.complete? layout draft with
      | some record => .value record rest
      | none => .stop .wrongShape rest
  | 0x5B :: rest =>
    (readItems layout true rest).bind fun record rest =>
      (readListEnd rest).map fun _ => record
  | other => readMismatch other

end Layout

end DualToken.Json
