import Mathlib.Algebra.Order.Group.Nat
import DualToken.Text.Decimal

/-!
# Reading integers that were written as text

The digits of a number are read back to it, and an integer that sixty-four bits hold is read back
behind its sign (`readInt64?_writeInteger`). No written integer contains a character other than
digits and the minus sign, so a separator behind it is not taken for a part of it.
-/

set_option autoImplicit false

namespace DualToken.Text

theorem isDigit_of_mem_writeNatural {number : Nat} {character : Char}
    (member : character ∈ writeNatural number) : character.isDigit = true :=
  Nat.isDigit_of_mem_toDigits (by decide) (by decide) member

theorem writeNatural_ne_nil (number : Nat) : writeNatural number ≠ [] := by
  rw [writeNatural, Nat.toDigits_eq_if (by decide)]
  split
  · exact List.cons_ne_nil _ _
  · exact List.append_ne_nil_of_right_ne_nil _ (List.cons_ne_nil _ _)

/-- **The digits of a number are read back to it.** -/
@[simp] theorem readNatural?_writeNatural (number : Nat) :
    readNatural? (writeNatural number) = some number := by
  have digits : (writeNatural number).all Char.isDigit = true :=
    List.all_eq_true.2 fun _ member => isDigit_of_mem_writeNatural member
  have some : (writeNatural number).isEmpty = false := by
    simpa using writeNatural_ne_nil number
  have value : (writeNatural number).foldl
      (fun number digit => 10 * number + (digit.toNat - '0'.toNat)) 0 = number :=
    Nat.ofDigitChars_toDigits (by decide) (by decide)
  rw [readNatural?, digits, some, value]
  rfl

/-- A character that is neither a digit nor the minus sign is in no written integer. -/
theorem notMem_writeInteger {character : Char} (noDigit : character.isDigit = false)
    (noSign : character ≠ '-') (number : Int) : character ∉ writeInteger number := by
  have noDigits : ∀ magnitude, character ∉ writeNatural magnitude := by
    intro magnitude member
    exact absurd (isDigit_of_mem_writeNatural member) (by simp [noDigit])
  cases number with
  | ofNat magnitude => exact noDigits magnitude
  | negSucc predecessor => simp [writeInteger, noSign, noDigits]

/-- The digits of a number begin with no sign. -/
theorem ne_of_writeNatural_eq {number : Nat} {first : Char} {rest : List Char}
    (noDigit : first.isDigit = false) : writeNatural number ≠ first :: rest := by
  intro begins
  have digit : first.isDigit = true :=
    isDigit_of_mem_writeNatural (begins ▸ List.mem_cons_self)
  exact absurd digit (by simp [noDigit])

/-- **An integer that sixty-four bits hold is read back.** -/
theorem readInt64?_writeInteger (number : Int64) :
    readInt64? (writeInteger number.toInt) = some number := by
  have settled : ((some number.toInt).filter fun number : Int =>
      Int64.minValue.toInt ≤ number && number ≤ Int64.maxValue.toInt).map Int64.ofInt =
        some number := by
    rw [Option.filter_some_pos, Option.map_some, Int64.ofInt_toInt]
    rw [Bool.and_eq_true, decide_eq_true_iff, decide_eq_true_iff]
    exact ⟨number.minValue_le_toInt, number.toInt_le⟩
  generalize number.toInt = integer at settled
  cases integer with
  | ofNat magnitude =>
    rw [writeInteger, readInt64?, readNatural?_writeNatural]
    · exact settled
    · exact fun rest => ne_of_writeNatural_eq (by decide)
    · exact fun rest => ne_of_writeNatural_eq (by decide)
  | negSucc predecessor =>
    rw [writeInteger, readInt64?, readNatural?_writeNatural]
    exact settled

end DualToken.Text
