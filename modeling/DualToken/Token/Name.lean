/-!
# Names for sessions and tokens

Every session and every token gets a name of its own. Names are drawn one after another from a
counter and have the form of a universally unique identifier, of which the counter fills the last
group. Two draws never give the same name.
-/

set_option autoImplicit false

namespace DualToken.TokenName

/-- Hexadecimal digits with zeros in front up to twelve. -/
def lastGroup (count : Nat) : List Char :=
  let digits := Nat.toDigits 16 count
  List.replicate (12 - digits.length) '0' ++ digits

/-- The groups before the last. -/
def firstGroups : List Char := "00000000-0000-4000-8000-".toList

/-- The name that the draw with this number gives. -/
def ofCount (count : Nat) : String :=
  String.ofList (firstGroups ++ lastGroup count)

end DualToken.TokenName
