import DualToken.Crypto.Sha256

/-!
# Keyed message authentication with SHA-256

A key is brought to the length of a block: a longer one is hashed, and zeros fill what is missing.
So two keys of which one is the other followed by zero bytes authenticate alike. The code of a
message is the hash of the key masked one way followed by the hash of the key masked another way
followed by the message. A code has thirty-two bytes (`length_code`).
-/

set_option autoImplicit false

namespace DualToken.Hmac

/-- The length of a block of the hash function. -/
def blockLength : Nat := 64

/-- The key brought to the length of a block. -/
def blockKey (key : List UInt8) : List UInt8 :=
  let short := if key.length ≤ blockLength then key else Sha256.digest key
  short ++ List.replicate (blockLength - short.length) 0

/-- The authentication code of a message under a key. -/
def code (key message : List UInt8) : List UInt8 :=
  let masked (mask : UInt8) := (blockKey key).map (· ^^^ mask)
  Sha256.digest (masked 0x5c ++ Sha256.digest (masked 0x36 ++ message))

/-- A code has thirty-two bytes. -/
@[simp] theorem length_code (key message : List UInt8) : (code key message).length = 32 :=
  Sha256.length_digest _

end DualToken.Hmac
