import Mathlib.Tactic.SplitIfs
import DualToken.Text.Utf8

/-!
# The order of texts

Texts are ordered by their characters, and UTF-8 keeps this order: one text is before another
exactly if its bytes are (`utf8_lt_iff`). The bytes of a character tell its size first and then its
point, sixty-four by sixty-four.
-/

set_option autoImplicit false

namespace DualToken.Text

/-- The bytes of a character are before those of a later one, whatever follows. -/
theorem utf8EncodeChar_append_lt {first second : Char} (before : first < second)
    (rest rest' : List UInt8) :
    String.utf8EncodeChar first ++ rest < String.utf8EncodeChar second ++ rest' := by
  have less : first.val.toNat < second.val.toNat := UInt32.lt_iff_toNat_lt.1 (Char.lt_def.1 before)
  have small : second.val.toNat < 0x110000 := by
    have valid := second.valid
    simp only [UInt32.isValidChar, Nat.isValidChar] at valid
    omega
  unfold String.utf8EncodeChar
  generalize first.val.toNat = point at less
  generalize second.val.toNat = point' at less small
  -- the quotients of the longer forms are those of the shorter ones, divided again
  have again (number : Nat) : number / 4096 = number / 64 / 64 ∧
      number / 262144 = number / 64 / 64 / 64 := by omega
  simp only [(again point).1, (again point).2, (again point').1, (again point').2]
  split_ifs <;>
    simp only [List.cons_append, List.nil_append, List.cons_lt_cons_iff, UInt8.lt_iff_toNat_lt,
      ← UInt8.toNat_inj, UInt8.toNat_ofNat'] <;>
    omega

theorem utf8Chars_lt {first second : List Char} (before : first < second) :
    utf8Chars first < utf8Chars second := by
  induction first generalizing second with
  | nil =>
    cases second with
    | nil => exact absurd before (List.not_lt_nil [])
    | cons character others =>
      rw [utf8Chars, utf8Chars, List.flatMap_nil, List.flatMap_cons]
      cases written : String.utf8EncodeChar character ++ others.flatMap String.utf8EncodeChar with
      | nil => exact absurd (List.append_eq_nil_iff.1 written).1 String.utf8EncodeChar_ne_nil
      | cons byte bytes => exact List.nil_lt_cons byte bytes
  | cons character others ih =>
    cases second with
    | nil => exact absurd before (List.not_lt_nil _)
    | cons character' others' =>
      rw [utf8Chars, utf8Chars, List.flatMap_cons, List.flatMap_cons]
      rcases List.cons_lt_cons_iff.1 before with less | ⟨rfl, less⟩
      · exact utf8EncodeChar_append_lt less _ _
      · exact List.append_left_lt (ih less)

/-- **UTF-8 keeps the order of texts.** -/
theorem utf8_lt_iff {first second : String} : utf8 first < utf8 second ↔ first < second := by
  constructor
  · intro before
    refine Classical.byContradiction fun notLess => ?_
    by_cases less : second < first
    · exact List.lt_asymm before (utf8Chars_lt (String.lt_iff.1 less))
    · obtain rfl := String.le_antisymm (String.not_lt.1 less) (String.not_lt.1 notLess)
      exact List.lt_irrefl _ before
  · exact fun before => utf8Chars_lt (String.lt_iff.1 before)

example : utf8 "\uffff" < utf8 (String.singleton (Char.ofNat 0x10000)) := by decide

end DualToken.Text
