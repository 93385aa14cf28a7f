/-!
# Decimal numbers as text

Integers are written without needless zeros, behind a minus sign if they are negative. Reading is
more generous: a plus sign and zeros may stand in front. A number is read for a range, and a number
outside it is refused.
-/

set_option autoImplicit false

namespace DualToken.Text

/-- The digits of a number. -/
def writeNatural (number : Nat) : List Char :=
  Nat.toDigits 10 number

/-- The digits of an integer, behind a minus sign if it is negative. -/
def writeInteger (number : Int) : List Char :=
  match number with
  | .ofNat magnitude => writeNatural magnitude
  | .negSucc predecessor => '-' :: writeNatural (predecessor + 1)

def ofInteger (number : Int) : String :=
  String.ofList (writeInteger number)

/-- The number that digits write, if there are digits and nothing else. -/
def readNatural? (characters : List Char) : Option Nat :=
  if characters.isEmpty || !characters.all Char.isDigit then none
  else some (characters.foldl (fun number digit => 10 * number + (digit.toNat - '0'.toNat)) 0)

/-- The number that digits write behind an optional plus sign, if it is at most `limit`. -/
def readUnsigned? (limit : Nat) (characters : List Char) : Option Nat :=
  let digits := match characters with
    | '+' :: rest => rest
    | other => other
  (readNatural? digits).filter (· ≤ limit)

/-- The integer that digits write behind an optional sign, if sixty-four bits hold it. -/
def readInt64? (characters : List Char) : Option Int64 :=
  let number := match characters with
    | '-' :: rest => (readNatural? rest).map fun magnitude => -(magnitude : Int)
    | '+' :: rest => (readNatural? rest).map fun magnitude => (magnitude : Int)
    | other => (readNatural? other).map fun magnitude => (magnitude : Int)
  let fits (number : Int) : Bool :=
    Int64.minValue.toInt ≤ number && number ≤ Int64.maxValue.toInt
  (number.filter fits).map Int64.ofInt

end DualToken.Text
