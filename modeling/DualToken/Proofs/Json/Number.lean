import Mathlib.Algebra.Group.Nat.Defs
import DualToken.Json.Scalar
import DualToken.Json.Skip
import DualToken.Proofs.Json.Text
import DualToken.Text.Decimal

/-!
# Reading integers that were written

An integer in an object is followed by a comma or by the end of the object. Up to there its digits
are read back as the integer (`readInteger_written`), a reader that expects something else stops
behind them (`readText_integer`), and they can be passed over (`skipValue_integer`).
-/

set_option autoImplicit false

namespace DualToken.Json

/-- A byte that may stand behind a value inside an object. -/
def IsDelimiter (byte : UInt8) : Prop :=
  byte = 0x2C ∨ byte = 0x7D

/-! ## Digits -/

/-- The digits of a number, as bytes. -/
def digitBytes (number : Nat) : List UInt8 :=
  Text.utf8Chars (Text.writeNatural number)

/-- One more digit stands behind those of the tenth part. -/
theorem digitBytes_eq (number : Nat) :
    digitBytes number =
      if number < 10 then [UInt8.ofNat (0x30 + number)]
      else digitBytes (number / 10) ++ [UInt8.ofNat (0x30 + number % 10)] := by
  have digit : ∀ value < 10,
      Text.utf8Chars [Nat.digitChar value] = [UInt8.ofNat (0x30 + value)] := by decide
  rw [digitBytes, Text.writeNatural, Nat.toDigits_eq_if (by decide)]
  split_ifs with small
  · exact digit number small
  · rw [Text.utf8Chars_append, digit (number % 10) (Nat.mod_lt number (by decide))]
    rfl

/-- A digit of a number below ten is a digit. -/
theorem isDigit_ofNat {value : Nat} (small : value < 10) :
    isDigit (UInt8.ofNat (0x30 + value)) := by
  revert value
  decide

theorem isDigit_of_mem_digitBytes {number : Nat} {byte : UInt8}
    (member : byte ∈ digitBytes number) : isDigit byte := by
  induction number using Nat.strongRecOn with
  | ind number ih =>
    rw [digitBytes_eq] at member
    split_ifs at member with small
    · rw [List.mem_singleton.1 member]
      exact isDigit_ofNat small
    · rcases List.mem_append.1 member with front | last
      · exact ih (number / 10) (by omega) front
      · rw [List.mem_singleton.1 last]
        exact isDigit_ofNat (Nat.mod_lt number (by decide))

/-- The digits of a number give the number. -/
@[simp] theorem decimalNumber_digitBytes (number : Nat) :
    decimalNumber (digitBytes number) = number := by
  have digit : ∀ value < 10, (UInt8.ofNat (0x30 + value)).toNat - 0x30 = value := by decide
  induction number using Nat.strongRecOn with
  | ind number ih =>
    rw [digitBytes_eq]
    split_ifs with small
    · rw [decimalNumber, List.foldl_cons, List.foldl_nil, digit number small]
      omega
    · have front := ih (number / 10) (by omega)
      rw [decimalNumber] at front ⊢
      rw [List.foldl_append, front, List.foldl_cons, List.foldl_nil,
        digit (number % 10) (Nat.mod_lt number (by decide))]
      omega

/-- Zero is a lone zero, and the digits of any other number begin with another digit. -/
theorem digitBytes_cases (number : Nat) :
    (number = 0 ∧ digitBytes number = [0x30]) ∨
      ∃ first others, digitBytes number = first :: others ∧ first ≠ 0x30 ∧ number ≠ 0 := by
  have digit : ∀ value < 10, value ≠ 0 → UInt8.ofNat (0x30 + value) ≠ 0x30 := by decide
  induction number using Nat.strongRecOn with
  | ind number ih =>
    rw [digitBytes_eq]
    split_ifs with small
    · by_cases zero : number = 0
      · exact .inl ⟨zero, by rw [zero]; rfl⟩
      · exact .inr ⟨_, [], rfl, digit number small zero, zero⟩
    · rcases ih (number / 10) (by omega) with ⟨zero, -⟩ | ⟨first, others, written, noZero, -⟩
      · omega
      · exact .inr ⟨first, others ++ [UInt8.ofNat (0x30 + number % 10)], by rw [written]; rfl,
          noZero, by omega⟩

/-- A number below a power of ten has no more digits than the exponent says. -/
theorem length_digitBytes_le {number bound : Nat} (small : number < 10 ^ bound)
    (positive : 0 < bound) : (digitBytes number).length ≤ bound := by
  induction bound generalizing number with
  | zero => exact absurd positive (by decide)
  | succ bound ih =>
    rw [digitBytes_eq]
    split_ifs with single
    · simp
    · have tenth : number / 10 < 10 ^ bound := by
        rw [Nat.pow_succ] at small
        omega
      have front : 0 < bound := by
        rcases Nat.eq_zero_or_pos bound with rfl | front
        · exact absurd small (by omega)
        · exact front
      simpa using ih tenth front

/-! ## Reading digits -/

section Reading

variable {number : Nat} {byte : UInt8} (delimiter : IsDelimiter byte) (rest : List UInt8)

theorem IsDelimiter.not_isDigit {byte : UInt8} (delimiter : IsDelimiter byte) :
    isDigit byte = false := by
  rcases delimiter with rfl | rfl <;> rfl

include delimiter

/-- Reading digits stops at a delimiter. -/
theorem readDigits_digitBytes (number : Nat) (atEnd : Problem) :
    readDigits atEnd (digitBytes number ++ byte :: rest) =
      .value (digitBytes number) (byte :: rest) := by
  have digits : ∀ digit ∈ digitBytes number, isDigit digit := fun _ => isDigit_of_mem_digitBytes
  have stop := delimiter.not_isDigit
  obtain ⟨first, others, written⟩ : ∃ first others, digitBytes number = first :: others := by
    rcases digitBytes_cases number with ⟨-, written⟩ | ⟨first, others, written, -⟩
    · exact ⟨0x30, [], written⟩
    · exact ⟨first, others, written⟩
  have begins : isDigit first := digits first (by simp [written])
  have taken : (digitBytes number ++ byte :: rest).takeWhile isDigit = digitBytes number := by
    rw [List.takeWhile_append_of_pos digits, List.takeWhile_cons_of_neg (by simp [stop]),
      List.append_nil]
  have left : (digitBytes number ++ byte :: rest).dropWhile isDigit = byte :: rest := by
    rw [List.dropWhile_append_of_pos digits, List.dropWhile_cons_of_neg (by simp [stop])]
  rw [written] at taken left ⊢
  simp only [List.cons_append, readDigits, if_pos begins] at taken left ⊢
  rw [taken, left]

/-- The whole part of a written number is its digits. -/
theorem readWholePart_digitBytes (number : Nat) (atEnd : Problem) :
    readWholePart atEnd (digitBytes number ++ byte :: rest) =
      .value (digitBytes number) (byte :: rest) := by
  rcases digitBytes_cases number with ⟨-, written⟩ | ⟨first, others, written, noZero, -⟩
  · rw [written]
    simp [readWholePart, delimiter.not_isDigit]
  · rw [← readDigits_digitBytes delimiter rest number atEnd, written, List.cons_append,
      readWholePart]
    rintro next more same
    exact noZero (List.cons.inj same).1

/-- A written number has neither fraction nor exponent. -/
theorem readUnsigned_digitBytes (number : Nat) (atEnd : Problem) (negative : Bool) :
    readUnsigned atEnd negative (digitBytes number ++ byte :: rest) =
      .value ⟨negative, digitBytes number, none, none⟩ (byte :: rest) := by
  have noPart : ∀ {α : Type} (reader : Reader α),
      readOptionalPart 0x2E 0x2E reader (byte :: rest) = .value none (byte :: rest) ∧
        readOptionalPart 0x65 0x45 reader (byte :: rest) = .value none (byte :: rest) := by
    rcases delimiter with rfl | rfl <;> exact fun reader => ⟨rfl, rfl⟩
  simp only [readUnsigned, readWholePart_digitBytes delimiter rest, Outcome.bind_value,
    (noPart _).1, (noPart _).2]

end Reading

/-! ## Reading integers -/

/-- The bytes of an integer. -/
def integerBytes (number : Int) : List UInt8 :=
  Text.utf8Chars (Text.writeInteger number)

/-- The numeral that is written for an integer. -/
def integerNumeral (number : Int) : Numeral :=
  ⟨decide (number < 0), digitBytes number.natAbs, none, none⟩

/-- A byte with which an integer may begin. -/
def isSignOrDigit (byte : UInt8) : Bool :=
  byte = 0x2D || isDigit byte

/-- Such a byte is different from every byte that is none. -/
theorem ne_of_isSignOrDigit {first : UInt8} (begins : isSignOrDigit first = true) (mark : UInt8)
    (other : isSignOrDigit mark = false) : first ≠ mark := by
  rintro rfl
  exact absurd begins (by simp [other])

theorem not_isSpace_of_isSignOrDigit {first : UInt8} (begins : isSignOrDigit first = true) :
    isSpace first = false := by
  simp only [isSpace, Bool.or_eq_false_iff, beq_eq_false_iff_ne]
  exact ⟨⟨⟨ne_of_isSignOrDigit begins _ rfl, ne_of_isSignOrDigit begins _ rfl⟩,
    ne_of_isSignOrDigit begins _ rfl⟩, ne_of_isSignOrDigit begins _ rfl⟩

/-- An integer begins with a minus sign or a digit. -/
theorem integerBytes_cases (number : Int) :
    ∃ first others, integerBytes number = first :: others ∧ isSignOrDigit first = true := by
  cases number with
  | ofNat magnitude =>
    have digits : ∀ digit ∈ digitBytes magnitude, isDigit digit :=
      fun _ => isDigit_of_mem_digitBytes
    rcases digitBytes_cases magnitude with ⟨-, written⟩ | ⟨first, others, written, -⟩
    · exact ⟨0x30, [], written, rfl⟩
    · exact ⟨first, others, written, by simp [isSignOrDigit, digits first (by simp [written])]⟩
  | negSucc predecessor => exact ⟨0x2D, digitBytes (predecessor + 1), rfl, rfl⟩

@[simp] theorem integer?_integerNumeral (number : Int) :
    (integerNumeral number).integer? = some number := by
  simp only [integerNumeral, Numeral.integer?, decimalNumber_digitBytes, decide_eq_true_eq]
  split_ifs with negative zero
  · omega
  · rw [Int.ofNat_natAbs_of_nonpos (Int.le_of_lt negative), Int.neg_neg]
  · rw [Int.natAbs_of_nonneg (Int.not_lt.1 negative)]

/-- An integer of at most twenty digits is far from overflowing. -/
theorem overflows_integerNumeral {number : Int} (small : number.natAbs < 10 ^ 20) :
    (integerNumeral number).overflows = false := by
  have length : ((digitBytes number.natAbs).dropWhile (· == 0x30)).length ≤ 20 :=
    Nat.le_trans (List.dropWhile_suffix _).length_le (length_digitBytes_le small (by decide))
  simp only [Numeral.overflows, integerNumeral, Option.getD_none, List.append_nil, List.length_nil]
  split_ifs with empty many few
  · rfl
  · omega
  · rfl
  all_goals omega

/-- No space stands in front of an integer. -/
theorem dropSpaces_integerBytes (number : Int) (rest : List UInt8) :
    dropSpaces (integerBytes number ++ rest) = integerBytes number ++ rest := by
  obtain ⟨first, others, written, begins⟩ := integerBytes_cases number
  rw [written, List.cons_append]
  exact List.dropWhile_cons_of_neg (by simp [not_isSpace_of_isSignOrDigit begins])

section Integers

variable {byte : UInt8} (delimiter : IsDelimiter byte) (rest : List UInt8) {number : Int}
  (small : number.natAbs < 10 ^ 20)
include delimiter

/-- A written integer is read as its numeral. -/
theorem readNumeral_integerBytes (number : Int) (atEnd : Problem) :
    readNumeral atEnd (integerBytes number ++ byte :: rest) =
      .value (integerNumeral number) (byte :: rest) := by
  cases number with
  | ofNat magnitude =>
    have read := readUnsigned_digitBytes delimiter rest magnitude atEnd false
    obtain ⟨first, others, written, noSign⟩ :
        ∃ first others, digitBytes magnitude = first :: others ∧ first ≠ 0x2D := by
      obtain ⟨first, others, written, -⟩ := integerBytes_cases (.ofNat magnitude)
      refine ⟨first, others, written, ?_⟩
      rintro rfl
      have member : 0x2D ∈ digitBytes magnitude := by
        rw [show digitBytes magnitude = 0x2D :: others from written]
        exact List.mem_cons_self
      exact absurd (isDigit_of_mem_digitBytes member) (by decide)
    have shape : integerNumeral (.ofNat magnitude) =
        ⟨false, digitBytes magnitude, none, none⟩ := by
      simp [integerNumeral]
    rw [shape, ← read]
    change readNumeral atEnd (digitBytes magnitude ++ byte :: rest) = _
    rw [written, List.cons_append, readNumeral]
    rintro more same
    exact noSign (List.cons.inj same).1
  | negSucc predecessor =>
    have shape : integerNumeral (.negSucc predecessor) =
        ⟨true, digitBytes (predecessor + 1), none, none⟩ := by
      simp [integerNumeral, Int.negSucc_lt_zero]
    rw [shape]
    exact readUnsigned_digitBytes delimiter rest (predecessor + 1) atEnd true

include small

/-- A written integer is a number. -/
theorem readNumber_integerBytes :
    readNumber (integerBytes number ++ byte :: rest) =
      .value (integerNumeral number) (byte :: rest) := by
  rw [readNumber, readNumeral_integerBytes delimiter rest, Outcome.bind_value,
    overflows_integerNumeral small]
  rfl

/-- **A written integer is read back, if it is of the expected range.** -/
theorem readInteger_integerBytes (expected : Int → Bool) :
    readInteger expected (integerBytes number ++ byte :: rest) =
      if expected number then .value number (byte :: rest)
      else .stop .wrongShape (byte :: rest) := by
  have read := readNumber_integerBytes delimiter rest small
  have spaces := dropSpaces_integerBytes number (byte :: rest)
  obtain ⟨first, others, written, begins⟩ := integerBytes_cases number
  have starts : (decide (first = 0x2D) || isDigit first) = true := begins
  rw [written, List.cons_append] at read spaces ⊢
  rw [readInteger, spaces]
  simp only
  rw [if_pos starts, read, Outcome.bind_value, integer?_integerNumeral]

/-- What expects another type stops behind an integer. -/
theorem readMismatch_integerBytes {α : Type} :
    readMismatch (α := α) (integerBytes number ++ byte :: rest) =
      .stop .wrongShape (byte :: rest) := by
  have read := readNumber_integerBytes delimiter rest small
  obtain ⟨first, others, written, begins⟩ := integerBytes_cases number
  have starts : (decide (first = 0x2D) || isDigit first) = true := begins
  have noBracket : ¬ (decide (first = 0x5B) || decide (first = 0x7B)) = true := by
    simp [ne_of_isSignOrDigit begins 0x5B rfl,
      ne_of_isSignOrDigit begins 0x7B rfl]
  rw [written, List.cons_append] at read ⊢
  rw [readMismatch, if_neg (ne_of_isSignOrDigit begins _ rfl), if_neg noBracket,
    if_neg (ne_of_isSignOrDigit begins _ rfl), if_neg (ne_of_isSignOrDigit begins _ rfl),
    if_neg (ne_of_isSignOrDigit begins _ rfl), if_pos starts, read]
  rfl

/-- A reader of literals stops behind an integer. -/
theorem readText_integerBytes :
    readText (integerBytes number ++ byte :: rest) = .stop .wrongShape (byte :: rest) := by
  have mismatch := readMismatch_integerBytes (α := String) delimiter rest small
  obtain ⟨first, others, written, begins⟩ := integerBytes_cases number
  rw [readText, dropSpaces_integerBytes]
  split
  · next more same =>
    rw [written, List.cons_append] at same
    exact absurd (List.cons.inj same).1 (ne_of_isSignOrDigit begins _ rfl)
  · exact mismatch

end Integers

/-! ## Passing over integers -/

section Passing

variable {byte : UInt8} (delimiter : IsDelimiter byte) (rest : List UInt8)
include delimiter

/-- Behind its first digits a number is passed over up to the delimiter. -/
theorem skipFrom_wholeDigits {digits : List UInt8} (all : ∀ digit ∈ digits, isDigit digit = true) :
    skipFrom (.numeral .whole) [] (digits ++ byte :: rest) = .value () (byte :: rest) := by
  induction digits with
  | nil => rcases delimiter with rfl | rfl <;> rfl
  | cons digit others ih =>
    have move : skipMove (.numeral .whole) [] digit = .on (.numeral .whole) [] := by
      simp [skipMove, NumeralPhase.next?, all digit (by simp)]
    simp only [List.cons_append, skipFrom, move]
    exact ih fun other member => all other (List.mem_cons_of_mem digit member)

/-- The digits of a number are passed over, behind a sign or without one. -/
theorem skipFrom_digitBytes (phase : SkipPhase) (number : Nat)
    (zero : skipMove phase [] 0x30 = .on (.numeral .zero) [])
    (digit : ∀ byte, isDigit byte = true → byte ≠ 0x30 →
      skipMove phase [] byte = .on (.numeral .whole) []) :
    skipFrom phase [] (digitBytes number ++ byte :: rest) = .value () (byte :: rest) := by
  have digits : ∀ digit ∈ digitBytes number, isDigit digit := fun _ => isDigit_of_mem_digitBytes
  rcases digitBytes_cases number with ⟨-, written⟩ | ⟨first, others, written, noZero, -⟩
  · rw [written]
    simp only [List.cons_append, skipFrom, zero]
    rcases delimiter with rfl | rfl <;> rfl
  · rw [written] at digits ⊢
    simp only [List.cons_append, skipFrom, digit first (digits first (by simp)) noZero]
    exact skipFrom_wholeDigits delimiter rest
      fun other member => digits other (List.mem_cons_of_mem first member)

/-- **A written integer is passed over.** -/
theorem skipValue_integerBytes (number : Int) :
    skipValue (integerBytes number ++ byte :: rest) = .value () (byte :: rest) := by
  cases number with
  | ofNat magnitude =>
    refine skipFrom_digitBytes delimiter rest .value magnitude rfl
      fun digit isDigit noZero => ?_
    have begins : isSignOrDigit digit = true := by simp [isSignOrDigit, isDigit]
    have noSign : digit ≠ 0x2D := by
      rintro rfl
      exact absurd isDigit (by decide)
    simp only [skipMove, not_isSpace_of_isSignOrDigit begins, beginValue, noSign, noZero, isDigit,
      if_neg (ne_of_isSignOrDigit begins 0x22 rfl),
      if_neg (ne_of_isSignOrDigit begins 0x5B rfl),
      if_neg (ne_of_isSignOrDigit begins 0x7B rfl),
      if_neg (ne_of_isSignOrDigit begins 0x6E rfl),
      if_neg (ne_of_isSignOrDigit begins 0x74 rfl),
      if_neg (ne_of_isSignOrDigit begins 0x66 rfl), if_true, if_false,
      Bool.false_eq_true]
  | negSucc predecessor =>
    refine skipFrom_digitBytes delimiter rest (.numeral .sign) (predecessor + 1) rfl
      fun digit isDigit noZero => ?_
    simp [skipMove, NumeralPhase.next?, isDigit, noZero]

end Passing

end DualToken.Json
