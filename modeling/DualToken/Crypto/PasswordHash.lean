import DualToken.Crypto.Blowfish
import DualToken.Encoding.Base64
import DualToken.Text.Decimal
import DualToken.Text.Utf8

/-!
# Password hashes

A password is hashed by bringing it and a salt into a cipher's key schedule over and over, two to
the power of the cost times, and then enciphering a fixed text. The hash is written together with
the cost and the salt, so a password can be checked against it.

Only the first seventy-two bytes of a password count, after a zero byte has been added at its end,
and they are repeated to fill the subkeys. Therefore passwords that differ only later, or that
repeat to the same bytes, have the same hash (`digest_congr`).
-/

set_option autoImplicit false

namespace DualToken.PasswordHash

def minCost : Nat := 4

def maxCost : Nat := 31

/-- Whether a cost is allowed. -/
def isCost (cost : Nat) : Bool :=
  minCost ≤ cost && cost ≤ maxCost

/-- The message for a cost that is not allowed. -/
def costMessage (cost : Nat) : String :=
  s!"Cost needs to be between {minCost} and {maxCost}, got {cost}"

/-- The bytes of a password that count. -/
def significantBytes (password : String) : List UInt8 :=
  (Text.utf8 password ++ [0]).take 72

/-- The words of the text that is enciphered. -/
def plainText : List (UInt32 × UInt32) :=
  [(0x4f727068, 0x65616e42), (0x65686f6c, 0x64657253), (0x63727944, 0x6f756274)]

/-- Brings a key and then a salt into the schedule, a number of times. -/
def alternate (key salt : Vector UInt32 18) : (count : Nat) → Blowfish.Schedule → Blowfish.Schedule
  | 0, schedule => schedule
  | count + 1, schedule =>
    let none := Vector.replicate 4 0
    alternate key salt count ((schedule.expand none key).expand none salt)

/-- The schedule of a password's words and a salt. -/
def schedule (cost : Nat) (salt : List UInt8) (key : Vector UInt32 18) : Blowfish.Schedule :=
  alternate key (Blowfish.cyclicWords 18 salt) (1 <<< cost)
    (Blowfish.Schedule.first.expand (Blowfish.cyclicWords 4 salt) key)

/-- Enciphers a block sixty-four times. -/
def encipherOften (schedule : Blowfish.Schedule) (block : UInt32 × UInt32) : UInt32 × UInt32 :=
  Nat.rec block (fun _ current => schedule.encipher current.1 current.2) 64

/-- The bytes of a word, the highest first. -/
def wordBytes (word : UInt32) : List UInt8 :=
  [(word >>> 24).toUInt8, (word >>> 16).toUInt8, (word >>> 8).toUInt8, word.toUInt8]

/-- The digest of a password: twenty-three bytes. -/
def digest (cost : Nat) (salt : List UInt8) (password : String) : List UInt8 :=
  let schedule := schedule cost salt (Blowfish.cyclicWords 18 (significantBytes password))
  ((plainText.map (encipherOften schedule)).flatMap fun block =>
    wordBytes block.1 ++ wordBytes block.2).take 23

/-- Only the words of the significant bytes matter. -/
theorem digest_congr {cost : Nat} {salt : List UInt8} {first second : String}
    (same : Blowfish.cyclicWords 18 (significantBytes first) =
      Blowfish.cyclicWords 18 (significantBytes second)) :
    digest cost salt first = digest cost salt second := by
  rw [digest, digest, same]

/-! ## Written hashes -/

/-- A hash with what is needed to check a password against it. -/
structure Parts where
  cost : Nat
  /-- The salt: sixteen bytes. -/
  salt : List UInt8
  /-- The digest: twenty-three bytes. -/
  digest : List UInt8

/-- The written form of a hash. -/
def Parts.write (parts : Parts) : String :=
  let cost := Text.writeNatural parts.cost
  String.ofList ("$2b$".toList ++ List.replicate (2 - cost.length) '0' ++ cost ++ '$' ::
    (Base64.encode .passwordHash parts.salt ++ Base64.encode .passwordHash parts.digest))

/-- The prefixes that a written hash may have. -/
def versions : List String := ["2a", "2b", "2x", "2y"]

/-- The parts of a written hash. -/
def Parts.read? (text : String) : Option Parts := do
  match (text.toList.splitOn '$').filter (!·.isEmpty) with
  | [version, cost, body] =>
    guard (versions.contains (String.ofList version))
    let cost ← Text.readUnsigned? (UInt32.size - 1) cost
    guard (isCost cost && body.length = 53)
    let salt ← Base64.decode? .passwordHash (body.take 22)
    let digest ← Base64.decode? .passwordHash (body.drop 22)
    return ⟨cost, salt, digest⟩
  | _ => none

/-- The written hash of a password, or the message for a cost that is not allowed. -/
def hash (cost : Nat) (salt : List UInt8) (password : String) : Except String String :=
  if isCost cost then .ok (Parts.write ⟨cost, salt, digest cost salt password⟩)
  else .error (costMessage cost)

/-- Whether a password has a written hash. A text that is no written hash is no password's. -/
def verify (password written : String) : Bool :=
  match Parts.read? written with
  | some parts => parts.digest = digest parts.cost parts.salt password
  | none => false

end DualToken.PasswordHash
