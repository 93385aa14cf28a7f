import Mathlib.Logic.Function.Basic
import DualToken.Token.Name

/-!
# Names are never given twice

A name is the counter in hexadecimal digits behind groups that are always the same. The counter can
be read off its digits, whatever zeros stand in front of them (`TokenName.number_lastGroup`), so
different counters give different names, also when there are more digits than the last group has
room for.
-/

set_option autoImplicit false

namespace DualToken.TokenName

/-- The digits in the order of their values. -/
def hexDigits : List Char := "0123456789abcdef".toList

/-- The number that hexadecimal digits write. -/
def number (digits : List Char) : Nat :=
  digits.foldl (fun number digit => 16 * number + hexDigits.idxOf digit) 0

theorem idxOf_digitChar {digit : Nat} (small : digit < 16) :
    hexDigits.idxOf digit.digitChar = digit := by
  have all : ∀ digit : Fin 16, hexDigits.idxOf digit.val.digitChar = digit.val := by decide
  exact all ⟨digit, small⟩

theorem number_append (digits : List Char) (last : Char) :
    number (digits ++ [last]) = 16 * number digits + hexDigits.idxOf last := by
  rw [number, List.foldl_append]
  rfl

/-- The digits of a number write the number. -/
theorem number_toDigits (count : Nat) : number (Nat.toDigits 16 count) = count := by
  induction count using Nat.strongRecOn with
  | ind count ih =>
    by_cases small : count < 16
    · rw [Nat.toDigits_of_lt_base small]
      exact (Nat.zero_add _).trans (idxOf_digitChar small)
    · have large := Nat.not_lt.1 small
      rw [Nat.toDigits_of_base_le (by decide) large, number_append, ih _ (by omega),
        idxOf_digitChar (Nat.mod_lt _ (by decide))]
      omega

/-- Zeros in front do not count. -/
theorem number_replicate (zeros : Nat) (digits : List Char) :
    number (List.replicate zeros '0' ++ digits) = number digits := by
  induction zeros with
  | zero => rfl
  | succ zeros ih =>
    rw [List.replicate_succ, List.cons_append, number, List.foldl_cons]
    exact ih

theorem number_lastGroup (count : Nat) : number (lastGroup count) = count := by
  rw [lastGroup, number_replicate, number_toDigits]

/-- **Two draws never give the same name.** -/
theorem ofCount_injective : Function.Injective ofCount := by
  intro first second same
  have groups : firstGroups ++ lastGroup first = firstGroups ++ lastGroup second :=
    String.ofList_injective same
  rw [← number_lastGroup first, List.append_cancel_left groups, number_lastGroup]

end DualToken.TokenName
