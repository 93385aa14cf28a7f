/-!
# Binary digits of pi

The digits are computed from the identity

  pi = 16 · arctan (1 / 5) − 4 · arctan (1 / 239)

in fixed point. The series of the inverse tangent alternates and its terms shrink by at least
twenty-five, so a term for every four binary digits is enough; the sixty-four digits that are
computed beyond those asked for take up what the divisions lose.
-/

set_option autoImplicit false

namespace DualToken.Pi

/-- The sum of the given number of terms of the series of arctan (1 / `base`), from the term
`power / divisor` on; `isAdded` tells the sign of that term. -/
def arctanTerms (base : Nat) : (count : Nat) → (power divisor : Nat) → (isAdded : Bool) →
    (sum : Int) → Int
  | 0, _, _, _, sum => sum
  | count + 1, power, divisor, isAdded, sum =>
    let term : Int := (power / divisor : Nat)
    arctanTerms base count (power / (base * base)) (divisor + 2) (!isAdded)
      (if isAdded then sum + term else sum - term)

/-- The inverse tangent of 1 / `base`, times `scale`. -/
def arctan (count scale base : Nat) : Int :=
  arctanTerms base count (scale / base) 1 true 0

/-- The first `count` binary digits of pi behind the point, as one number. -/
def fraction (count : Nat) : Nat :=
  let guarded := count + 64
  let scale := 1 <<< guarded
  let terms := guarded / 4 + 1
  let value := 16 * arctan terms scale 5 - 4 * arctan terms scale 239
  (value.toNat >>> 64) % (1 <<< count)

/-- The first `count` words of thirty-two binary digits of pi behind the point. -/
def words (count : Nat) : Vector UInt32 count :=
  let digits := fraction (32 * count)
  Vector.ofFn fun position => UInt32.ofNat (digits >>> (32 * (count - 1 - position.val)))

end DualToken.Pi
