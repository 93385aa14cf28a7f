/-!
# The hash function SHA-256

A message is padded to whole blocks of sixty-four bytes: a byte with only its top bit set, zeros,
and the length in bits as eight bytes. Each block is mixed into a state of eight words by sixty-four
rounds, and the digest is the final state, written with the highest byte of each word first. A
digest always has thirty-two bytes (`length_digest`), whatever the rounds do.
-/

set_option autoImplicit false

namespace DualToken.Sha256

/-- The round constants: the first thirty-two fractional bits of the cube roots of the first
sixty-four primes. -/
def roundConstants : Vector UInt32 64 := #v[
  0x428a2f98, 0x71374491, 0xb5c0fbcf, 0xe9b5dba5, 0x3956c25b, 0x59f111f1, 0x923f82a4, 0xab1c5ed5,
  0xd807aa98, 0x12835b01, 0x243185be, 0x550c7dc3, 0x72be5d74, 0x80deb1fe, 0x9bdc06a7, 0xc19bf174,
  0xe49b69c1, 0xefbe4786, 0x0fc19dc6, 0x240ca1cc, 0x2de92c6f, 0x4a7484aa, 0x5cb0a9dc, 0x76f988da,
  0x983e5152, 0xa831c66d, 0xb00327c8, 0xbf597fc7, 0xc6e00bf3, 0xd5a79147, 0x06ca6351, 0x14292967,
  0x27b70a85, 0x2e1b2138, 0x4d2c6dfc, 0x53380d13, 0x650a7354, 0x766a0abb, 0x81c2c92e, 0x92722c85,
  0xa2bfe8a1, 0xa81a664b, 0xc24b8b70, 0xc76c51a3, 0xd192e819, 0xd6990624, 0xf40e3585, 0x106aa070,
  0x19a4c116, 0x1e376c08, 0x2748774c, 0x34b0bcb5, 0x391c0cb3, 0x4ed8aa4a, 0x5b9cca4f, 0x682e6ff3,
  0x748f82ee, 0x78a5636f, 0x84c87814, 0x8cc70208, 0x90befffa, 0xa4506ceb, 0xbef9a3f7, 0xc67178f2]

/-- The eight working words. -/
structure State where
  /-- The first word. -/
  a : UInt32
  /-- The second word. -/
  b : UInt32
  /-- The third word. -/
  c : UInt32
  /-- The fourth word. -/
  d : UInt32
  /-- The fifth word. -/
  e : UInt32
  /-- The sixth word. -/
  f : UInt32
  /-- The seventh word. -/
  g : UInt32
  /-- The eighth word. -/
  h : UInt32

namespace State

/-- The state before the first block: the first thirty-two fractional bits of the square roots of
the first eight primes. -/
def first : State :=
  ⟨0x6a09e667, 0xbb67ae85, 0x3c6ef372, 0xa54ff53a, 0x510e527f, 0x9b05688c, 0x1f83d9ab, 0x5be0cd19⟩

/-- The wordwise sum of two states. -/
def add (left right : State) : State :=
  ⟨left.a + right.a, left.b + right.b, left.c + right.c, left.d + right.d,
    left.e + right.e, left.f + right.f, left.g + right.g, left.h + right.h⟩

def words (state : State) : List UInt32 :=
  [state.a, state.b, state.c, state.d, state.e, state.f, state.g, state.h]

end State

/-- The word turned right by `count` bits. -/
def rotateRight (word count : UInt32) : UInt32 :=
  (word >>> count) ||| (word <<< (32 - count))

/-! ## The message schedule -/

/-- The next schedule word, from the sixteen before it, the latest first. -/
def nextWord (latest : List UInt32) : UInt32 :=
  let back (distance : Nat) := latest.getD (distance - 1) 0
  let old := back 15
  let recent := back 2
  back 16 + (rotateRight old 7 ^^^ rotateRight old 18 ^^^ (old >>> 3)) + back 7 +
    (rotateRight recent 17 ^^^ rotateRight recent 19 ^^^ (recent >>> 10))

/-- The schedule words so far, the latest first, with `count` more in front. -/
def extendSchedule : Nat → List UInt32 → List UInt32
  | 0, latest => latest
  | count + 1, latest => extendSchedule count (nextWord latest :: latest)

/-- The words of a block, the highest byte of each first. -/
def wordsOfBytes : List UInt8 → List UInt32
  | a :: b :: c :: d :: rest =>
    ((a.toUInt32 <<< 24) ||| (b.toUInt32 <<< 16) ||| (c.toUInt32 <<< 8) ||| d.toUInt32) ::
      wordsOfBytes rest
  | _ => []

/-- The sixty-four schedule words of a block of sixteen. -/
def schedule (block : List UInt32) : List UInt32 :=
  (extendSchedule 48 block.reverse).reverse

/-! ## Compression -/

/-- One round, with its constant and its schedule word. -/
def round (state : State) (constant word : UInt32) : State :=
  let mixed := rotateRight state.e 6 ^^^ rotateRight state.e 11 ^^^ rotateRight state.e 25
  let choice := (state.e &&& state.f) ^^^ (~~~state.e &&& state.g)
  let first := state.h + mixed + choice + constant + word
  let spread := rotateRight state.a 2 ^^^ rotateRight state.a 13 ^^^ rotateRight state.a 22
  let majority := (state.a &&& state.b) ^^^ (state.a &&& state.c) ^^^ (state.b &&& state.c)
  ⟨first + spread + majority, state.a, state.b, state.c, state.d + first, state.e, state.f, state.g⟩

/-- Mixes a block of sixteen words into the state. -/
def compress (state : State) (block : List UInt32) : State :=
  let mixed := (roundConstants.toList.zip (schedule block)).foldl
    (fun current pair => round current pair.1 pair.2) state
  state.add mixed

/-- Mixes the words into the state, sixteen at a time. -/
def compressAll : Nat → State → List UInt32 → State
  | 0, state, _ => state
  | count + 1, state, words => compressAll count (compress state (words.take 16)) (words.drop 16)

/-! ## Padding and the digest -/

/-- The bytes of a number below 2 ^ 64, the highest first. -/
def lengthBytes (number : Nat) : List UInt8 :=
  (List.range 8).map fun position => UInt8.ofNat (number >>> (8 * (7 - position)))

/-- The message, a byte with its top bit set, zeros up to eight bytes short of a whole block, and
the length in bits. -/
def pad (message : List UInt8) : List UInt8 :=
  let zeros := (119 - message.length % 64) % 64
  message ++ 0x80 :: (List.replicate zeros 0 ++ lengthBytes (8 * message.length))

/-- The bytes of a word, the highest first. -/
def wordBytes (word : UInt32) : List UInt8 :=
  [(word >>> 24).toUInt8, (word >>> 16).toUInt8, (word >>> 8).toUInt8, word.toUInt8]

/-- The digest of a message. -/
def digest (message : List UInt8) : List UInt8 :=
  let words := wordsOfBytes (pad message)
  (compressAll (words.length / 16) State.first words).words.flatMap wordBytes

/-- A digest has thirty-two bytes. -/
@[simp] theorem length_digest (message : List UInt8) : (digest message).length = 32 := by
  simp [digest, State.words, wordBytes]

end DualToken.Sha256
