import DualToken.Text.Decimal

/-!
# Internet addresses

An address of version 4 is four octets, written in decimal with points between them. One of version
6 is eight groups of sixteen bits, written in hexadecimal with colons between them; a run of zero
groups may be left out once, and the last two groups may be written as an address of version 4.

An address has many written forms but one canonical form: digits without needless zeros and in lower
case, the longest run of at least two zero groups left out (the first of several), and the form of
version 4 only for an address that is mapped from it.
-/

set_option autoImplicit false

namespace DualToken

/-- An address of version 4. -/
abbrev Ipv4 : Type := Vector UInt8 4

/-- An address of version 6. -/
abbrev Ipv6 : Type := Vector UInt16 8

/-- The list as a vector, if it has the length. -/
def vectorOf? {α : Type} {size : Nat} (list : List α) : Option (Vector α size) :=
  if length : list.length = size then some ⟨list.toArray, by simpa using length⟩ else none

/-! ## Version 4 -/

namespace Ipv4

/-- Reads an octet: up to three digits without a needless zero, at most 255. -/
def readOctet? (digits : List Char) : Option UInt8 :=
  if digits.length > 3 || (digits.head? = some '0' && digits.length > 1) then none
  else ((Text.readNatural? digits).filter (· ≤ 255)).map UInt8.ofNat

def read? (characters : List Char) : Option Ipv4 :=
  ((characters.splitOn '.').mapM readOctet?).bind vectorOf?

def write (address : Ipv4) : List Char :=
  ['.'].intercalate (address.toList.map fun octet => Text.writeNatural octet.toNat)

end Ipv4

/-! ## Version 6 -/

namespace Ipv6

/-- The value of a hexadecimal digit. -/
def hexValue? (character : Char) : Option Nat :=
  if character.isDigit then some (character.toNat - '0'.toNat)
  else if 'a' ≤ character && character ≤ 'f' then some (character.toNat - 'a'.toNat + 10)
  else if 'A' ≤ character && character ≤ 'F' then some (character.toNat - 'A'.toNat + 10)
  else none

/-- Reads a group: one to four digits. -/
def readGroup? (digits : List Char) : Option UInt16 :=
  if digits.isEmpty || digits.length > 4 then none
  else (digits.mapM hexValue?).map fun values =>
    UInt16.ofNat (values.foldl (fun number value => 16 * number + value) 0)

/-- The two groups that an address of version 4 makes. -/
def groupsOfIpv4 (address : Ipv4) : List UInt16 :=
  let pair (high low : UInt8) : UInt16 := high.toUInt16 * 256 + low.toUInt16
  [pair address[0] address[1], pair address[2] address[3]]

/-- Reads groups, of which the last two may be written as an address of version 4. -/
def readGroups? : List (List Char) → Option (List UInt16)
  | [] => some []
  | [part] =>
    match readGroup? part with
    | some group => some [group]
    | none => (Ipv4.read? part).map groupsOfIpv4
  | part :: others => do
    let group ← readGroup? part
    return group :: (← readGroups? others)

/-- The parts between colons; an empty text has none. -/
def parts (characters : List Char) : List (List Char) :=
  if characters.isEmpty then [] else characters.splitOn ':'

/-- The texts before and behind the first two colons in a row. -/
def splitAtGap? : List Char → Option (List Char × List Char)
  | ':' :: ':' :: rest => some ([], rest)
  | character :: rest => (splitAtGap? rest).map fun (front, back) => (character :: front, back)
  | [] => none

/-- Reads an address. A gap stands for at least one group. -/
def read? (characters : List Char) : Option Ipv6 :=
  match splitAtGap? characters with
  | none => (readGroups? (parts characters)).bind vectorOf?
  | some (front, back) => do
    let front ← (parts front).mapM readGroup?
    let back ← readGroups? (parts back)
    let given := front.length + back.length
    guard (given < 8)
    vectorOf? (front ++ List.replicate (8 - given) 0 ++ back)

/-- Writes groups with colons between them. -/
def writeGroups (groups : List UInt16) : List Char :=
  [':'].intercalate (groups.map fun group => Nat.toDigits 16 group.toNat)

/-- How many zeros stand at the front. -/
def zeroRun (groups : List UInt16) : Nat :=
  (groups.takeWhile (· = 0)).length

/-- Where the longest run of zeros begins, and its length. -/
def longestZeroRun (groups : List UInt16) : Nat × Nat :=
  (List.range groups.length).foldl (fun (start, length) place =>
    let run := zeroRun (groups.drop place)
    if length < run then (place, run) else (start, length)) (0, 0)

/-- The address of version 4 that an address is mapped from. -/
def mapped? (address : Ipv6) : Option Ipv4 :=
  match address.toList with
  | [0, 0, 0, 0, 0, 0xFFFF, high, low] =>
    some #v[(high / 256).toUInt8, high.toUInt8, (low / 256).toUInt8, low.toUInt8]
  | _ => none

def write (address : Ipv6) : List Char :=
  match mapped? address with
  | some inner => "::ffff:".toList ++ inner.write
  | none =>
    let groups := address.toList
    let (start, length) := longestZeroRun groups
    if length < 2 then writeGroups groups
    else writeGroups (groups.take start) ++ "::".toList ++
      writeGroups (groups.drop (start + length))

end Ipv6

end DualToken
