import DualToken.Crypto.Pi

/-!
# The cipher Blowfish

A key schedule is 1042 words: eighteen subkeys and four boxes of 256 words. It begins with the
binary digits of pi. A key is brought in by adding its bytes, repeated as often as needed, to the
subkeys; then the cipher is run on its own output, mixed with a salt, and the results replace the
words of the schedule two at a time.
-/

set_option autoImplicit false

namespace DualToken.Blowfish

/-- The subkeys and the boxes of a key. -/
abbrev Schedule := Vector UInt32 1042

/-- The schedule without a key. -/
def Schedule.first : Schedule := Pi.words 1042

namespace Schedule

def subkey (schedule : Schedule) (index : Nat) (within : index < 18) : UInt32 :=
  have bound : index < 1042 := by omega
  schedule[index]

/-- A word of a box. -/
def box (schedule : Schedule) (which : Fin 4) (byte : UInt8) : UInt32 :=
  have bound : 18 + 256 * which.val + byte.toNat < 1042 := by
    have := byte.toNat_lt
    have := which.isLt
    omega
  schedule[18 + 256 * which.val + byte.toNat]

/-- The function of a round. -/
def mix (schedule : Schedule) (word : UInt32) : UInt32 :=
  ((schedule.box 0 (word >>> 24).toUInt8 + schedule.box 1 (word >>> 16).toUInt8) ^^^
    schedule.box 2 (word >>> 8).toUInt8) + schedule.box 3 word.toUInt8

/-- The rounds that are still to come. -/
def rounds (schedule : Schedule) : (remaining : Nat) → remaining ≤ 16 → (left right : UInt32) →
    UInt32 × UInt32
  | 0, _, left, right => (left, right)
  | remaining + 1, within, left, right =>
    let keyed := left ^^^ schedule.subkey (15 - remaining) (by omega)
    schedule.rounds remaining (by omega) (right ^^^ schedule.mix keyed) keyed

/-- The cipher on a block of two words. -/
def encipher (schedule : Schedule) (left right : UInt32) : UInt32 × UInt32 :=
  let (left, right) := schedule.rounds 16 (by omega) left right
  (right ^^^ schedule.subkey 17 (by omega), left ^^^ schedule.subkey 16 (by omega))

/-- Replaces the words of the schedule that are still to be replaced, two at a time. -/
def refill (salt : Vector UInt32 4) : (remaining : Nat) → remaining ≤ 521 →
    (schedule : Schedule) → (left right : UInt32) → Schedule
  | 0, _, schedule, _, _ => schedule
  | remaining + 1, within, schedule, left, right =>
    let pair := 520 - remaining
    have first : 2 * pair % 4 < 4 := by omega
    have second : (2 * pair + 1) % 4 < 4 := by omega
    let (left, right) :=
      schedule.encipher (left ^^^ salt[2 * pair % 4]) (right ^^^ salt[(2 * pair + 1) % 4])
    refill salt remaining (by omega)
      ((schedule.set (2 * pair) left (by omega)).set (2 * pair + 1) right (by omega)) left right

/-- The schedule with a key's words added to the subkeys. -/
def addKey (schedule : Schedule) (key : Vector UInt32 18) : Schedule :=
  schedule.mapFinIdx fun index word _ =>
    if within : index < 18 then word ^^^ key[index] else word

/-- The schedule with a key brought in under a salt. -/
def expand (schedule : Schedule) (salt : Vector UInt32 4) (key : Vector UInt32 18) : Schedule :=
  refill salt 521 (by omega) (schedule.addKey key) 0 0

end Schedule

/-- The word at a position of a list of bytes that is repeated without end. -/
def cyclicWord (bytes : List UInt8) (position : Nat) : UInt32 :=
  (List.range 4).foldl (fun word offset =>
    (word <<< 8) ||| (bytes.getD ((4 * position + offset) % bytes.length) 0).toUInt32) 0

/-- The first words of a list of bytes that is repeated without end. -/
def cyclicWords (count : Nat) (bytes : List UInt8) : Vector UInt32 count :=
  Vector.ofFn fun position => cyclicWord bytes position.val

end DualToken.Blowfish
