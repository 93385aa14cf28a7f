import Mathlib.Tactic.SplitIfs
import DualToken.Json.Scalar
import DualToken.Json.Skip
import DualToken.Json.Value

/-!
# Reading string literals that were written

A written literal is read back as the text it was written from (`readTextBody_written`), and it can
be passed over (`skipFrom_literal_written`). Both machines go through the literal character by
character: an escape brings them back to where they were, and the bytes of any other character are
plain, that is, neither a quote nor a backslash nor a control byte.
-/

set_option autoImplicit false

namespace DualToken

namespace Text

@[simp] theorem utf8Chars_nil : utf8Chars [] = [] := rfl

@[simp] theorem utf8Chars_cons (character : Char) (others : List Char) :
    utf8Chars (character :: others) = String.utf8EncodeChar character ++ utf8Chars others := rfl

@[simp] theorem utf8Chars_append (front back : List Char) :
    utf8Chars (front ++ back) = utf8Chars front ++ utf8Chars back :=
  List.flatMap_append

/-- A character of ASCII is one byte. -/
theorem utf8EncodeChar_ascii {character : Char} (ascii : character.toNat ≤ 0x7F) :
    String.utf8EncodeChar character = [UInt8.ofNat character.toNat] := by
  simp only [String.utf8EncodeChar]
  exact if_pos ascii

/-- Every byte of another character has its top bit set. -/
theorem le_of_mem_utf8EncodeChar {character : Char} (beyond : 0x7F < character.toNat)
    {byte : UInt8} (member : byte ∈ String.utf8EncodeChar character) : 0x80 ≤ byte.toNat := by
  have outside : ¬ character.val.toNat ≤ 0x7F := Nat.not_le_of_lt beyond
  rw [String.utf8EncodeChar] at member
  simp only [if_neg outside] at member
  split at member
  · simp only [List.mem_cons, List.not_mem_nil, or_false] at member
    rcases member with rfl | rfl <;> rw [UInt8.toNat_ofNat'] <;> omega
  · split at member
    · simp only [List.mem_cons, List.not_mem_nil, or_false] at member
      rcases member with rfl | rfl | rfl <;> rw [UInt8.toNat_ofNat'] <;> omega
    · simp only [List.mem_cons, List.not_mem_nil, or_false] at member
      rcases member with rfl | rfl | rfl | rfl <;> rw [UInt8.toNat_ofNat'] <;> omega

end Text

namespace Json

/-! ## Plain bytes -/

/-- A byte that stands for itself in a literal. -/
def IsPlain (byte : UInt8) : Prop :=
  byte ≠ 0x22 ∧ byte ≠ 0x5C ∧ ¬ byte < 0x20

/-- A character that is not escaped consists of plain bytes. -/
theorem isPlain_of_mem_utf8EncodeChar {character : Char} (noQuote : character ≠ '"')
    (noBackslash : character ≠ '\\') (noControl : ¬ character.toNat < 0x20) {byte : UInt8}
    (member : byte ∈ String.utf8EncodeChar character) : IsPlain byte := by
  by_cases ascii : character.toNat ≤ 0x7F
  · rw [Text.utf8EncodeChar_ascii ascii, List.mem_singleton] at member
    have value : byte.toNat = character.toNat := by
      rw [member, UInt8.toNat_ofNat']
      omega
    have apart : ∀ other : Char, character ≠ other → character.toNat ≠ other.toNat :=
      fun other differ same => differ (Char.toNat_inj.1 same)
    refine ⟨?_, ?_, ?_⟩
    · rintro rfl
      exact apart '"' noQuote value.symm
    · rintro rfl
      exact apart '\\' noBackslash value.symm
    · rw [UInt8.lt_iff_toNat_lt, value]
      exact noControl
  · have high := Text.le_of_mem_utf8EncodeChar (by omega) member
    refine ⟨?_, ?_, ?_⟩
    · rintro rfl
      exact absurd high (by decide)
    · rintro rfl
      exact absurd high (by decide)
    · rw [UInt8.lt_iff_toNat_lt]
      exact fun low => absurd high (Nat.not_le_of_lt (Nat.lt_trans low (by decide)))

/-! ## Escapes -/

/-- The bytes that a character is written as in a literal. -/
inductive Escaped (character : Char) : List UInt8 → Prop
  /-- The character stands for itself. -/
  | plain (plain : ∀ byte ∈ String.utf8EncodeChar character, IsPlain byte) :
      Escaped character (String.utf8EncodeChar character)
  /-- A letter behind a backslash names the character. -/
  | letter {letter : UInt8} (byte : UInt8) (notUnit : letter ≠ 0x75)
      (named : escapedByte? letter = some byte)
      (single : String.utf8EncodeChar character = [byte]) : Escaped character [0x5C, letter]
  /-- Four digits give the number of a control character. -/
  | unit {first second third fourth : UInt8} (control : character.toNat < 0x20)
      (digits : hexNumber? [first, second, third, fourth] = some character.toNat) :
      Escaped character [0x5C, 0x75, first, second, third, fourth]

/-- A hexadecimal digit is one byte. -/
theorem utf8EncodeChar_digitChar {digit : Nat} (within : digit < 16) :
    String.utf8EncodeChar (Nat.digitChar digit) = [UInt8.ofNat (Nat.digitChar digit).toNat] := by
  revert digit
  decide

/-- The four digits of a control character give its number. -/
theorem hexNumber?_control {number : Nat} (control : number < 0x20) :
    hexNumber? [0x30, 0x30, UInt8.ofNat (Nat.digitChar (number / 16)).toNat,
      UInt8.ofNat (Nat.digitChar (number % 16)).toNat] = some number := by
  revert number
  decide

/-- Every character is written in one of the three ways. -/
theorem escaped_escape (character : Char) :
    Escaped character (Text.utf8Chars (escape character)) := by
  rw [escape]
  split_ifs with quote backslash backspace feed newline carriage tab control
  · exact .letter 0x22 (by decide) rfl (by rw [quote]; rfl)
  · exact .letter 0x5C (by decide) rfl (by rw [backslash]; rfl)
  · exact .letter 0x08 (by decide) rfl (by rw [backspace]; rfl)
  · exact .letter 0x0C (by decide) rfl (by rw [feed]; rfl)
  · exact .letter 0x0A (by decide) rfl (by rw [newline]; rfl)
  · exact .letter 0x0D (by decide) rfl (by rw [carriage]; rfl)
  · exact .letter 0x09 (by decide) rfl (by rw [tab]; rfl)
  · simp only [Text.utf8Chars_cons, Text.utf8Chars_nil,
      utf8EncodeChar_digitChar (show character.toNat / 16 < 16 by omega),
      utf8EncodeChar_digitChar (show character.toNat % 16 < 16 by omega)]
    exact .unit control (hexNumber?_control control)
  · rw [Text.utf8Chars_cons, Text.utf8Chars_nil, List.append_nil]
    exact .plain fun byte => isPlain_of_mem_utf8EncodeChar quote backslash control

/-! ## Reading -/

/-- Plain bytes are found as they stand. -/
theorem readTextBytes_plain {bytes : List UInt8} (plain : ∀ byte ∈ bytes, IsPlain byte)
    (found rest : List UInt8) :
    readTextBytes .plain found (bytes ++ rest) =
      readTextBytes .plain (bytes.reverse ++ found) rest := by
  induction bytes generalizing found with
  | nil => rfl
  | cons byte others ih =>
    obtain ⟨noQuote, noBackslash, noControl⟩ := plain byte (by simp)
    have move : textMove .plain byte = .on .plain [byte] := by
      simp only [textMove, if_neg noQuote, if_neg noBackslash, if_neg noControl]
    simp only [List.cons_append, readTextBytes, move]
    rw [ih fun other member => plain other (List.mem_cons_of_mem byte member)]
    simp

/-- A character is found, in whichever way it is written. -/
theorem readTextBytes_escaped {character : Char} {bytes : List UInt8}
    (escaped : Escaped character bytes) (found rest : List UInt8) :
    readTextBytes .plain found (bytes ++ rest) =
      readTextBytes .plain ((String.utf8EncodeChar character).reverse ++ found) rest := by
  have opening : textMove .plain 0x5C = .on .escape [] := rfl
  cases escaped with
  | plain plain => exact readTextBytes_plain plain found rest
  | @letter letter byte notUnit named single =>
    have move : textMove .escape letter = .on .plain [byte] := by
      simp only [textMove, if_neg notUnit, named]
    simp [readTextBytes, opening, move, single]
  | @unit first second third fourth control digits =>
    have start : textMove .escape 0x75 = .on (.unit []) [] := rfl
    have digit : ∀ earlier : List UInt8, earlier.length < 3 → ∀ byte : UInt8,
        textMove (.unit earlier) byte = .on (.unit (byte :: earlier)) [] :=
      fun earlier short byte => if_pos short
    have noLow : isLowSurrogate character.toNat = false := by
      simp only [isLowSurrogate, Bool.and_eq_false_iff, decide_eq_false_iff_not]
      omega
    have noHigh : isHighSurrogate character.toNat = false := by
      simp only [isHighSurrogate, Bool.and_eq_false_iff, decide_eq_false_iff_not]
      omega
    have last : textMove (.unit [third, second, first]) fourth =
        .on .plain (String.utf8EncodeChar character) := by
      simp [textMove, digits, noLow, noHigh]
    simp [readTextBytes, opening, start, digit, last]

/-- The characters of a text are found one after another. -/
theorem readTextBytes_escape (characters : List Char) (found rest : List UInt8) :
    readTextBytes .plain found (Text.utf8Chars (characters.flatMap escape) ++ rest) =
      readTextBytes .plain ((Text.utf8Chars characters).reverse ++ found) rest := by
  induction characters generalizing found with
  | nil => rfl
  | cons character others ih =>
    rw [List.flatMap_cons, Text.utf8Chars_append, List.append_assoc,
      readTextBytes_escaped (escaped_escape character), ih]
    simp

/-- **A written literal is read back as its text.** -/
theorem readTextBody_escape (content : String) (rest : List UInt8) :
    readTextBody (Text.utf8Chars (content.toList.flatMap escape) ++ 0x22 :: rest) =
      .value content rest := by
  have closing : ∀ found, readTextBytes .plain found (0x22 :: rest) = .value found.reverse rest :=
    fun _ => rfl
  rw [readTextBody, readTextBytes_escape, closing]
  simp [show Text.ofUtf8? (Text.utf8Chars content.toList) = some content from
    Text.ofUtf8?_utf8 content]

/-! ## Passing over -/

variable (isKey : Bool) (opened : List Container)

/-- Plain bytes are passed over. -/
theorem skipFrom_plain {bytes : List UInt8} (plain : ∀ byte ∈ bytes, IsPlain byte)
    (rest : List UInt8) :
    skipFrom (.literal isKey .plain) opened (bytes ++ rest) =
      skipFrom (.literal isKey .plain) opened rest := by
  induction bytes with
  | nil => rfl
  | cons byte others ih =>
    obtain ⟨noQuote, noBackslash, noControl⟩ := plain byte (by simp)
    have move : skipMove (.literal isKey .plain) opened byte =
        .on (.literal isKey .plain) opened := by
      simp only [skipMove, moveLiteral, if_neg noQuote, if_neg noBackslash, if_neg noControl]
    simp only [List.cons_append, skipFrom, move]
    exact ih fun other member => plain other (List.mem_cons_of_mem byte member)

/-- A character is passed over, in whichever way it is written. -/
theorem skipFrom_escaped {character : Char} {bytes : List UInt8}
    (escaped : Escaped character bytes) (rest : List UInt8) :
    skipFrom (.literal isKey .plain) opened (bytes ++ rest) =
      skipFrom (.literal isKey .plain) opened rest := by
  have opening : skipMove (.literal isKey .plain) opened 0x5C =
      .on (.literal isKey .escape) opened := rfl
  cases escaped with
  | plain plain => exact skipFrom_plain isKey opened plain rest
  | @letter letter byte notUnit named single =>
    have move : skipMove (.literal isKey .escape) opened letter =
        .on (.literal isKey .plain) opened := by
      simp only [skipMove, moveLiteral, if_neg notUnit, named, Option.isSome_some, if_true]
    simp [skipFrom, opening, move]
  | @unit first second third fourth control digits =>
    have start : skipMove (.literal isKey .escape) opened 0x75 =
        .on (.literal isKey (.unit [])) opened := rfl
    have digit : ∀ earlier : List UInt8, earlier.length < 3 → ∀ byte : UInt8,
        skipMove (.literal isKey (.unit earlier)) opened byte =
          .on (.literal isKey (.unit (byte :: earlier))) opened :=
      fun earlier short byte => if_pos short
    have last : skipMove (.literal isKey (.unit [third, second, first])) opened fourth =
        .on (.literal isKey .plain) opened := by
      simp [skipMove, moveLiteral, digits]
    simp [skipFrom, opening, start, digit, last]

/-- The characters of a text are passed over one after another. -/
theorem skipFrom_escape (characters : List Char) (rest : List UInt8) :
    skipFrom (.literal isKey .plain) opened (Text.utf8Chars (characters.flatMap escape) ++ rest) =
      skipFrom (.literal isKey .plain) opened rest := by
  induction characters with
  | nil => rfl
  | cons character others ih =>
    rw [List.flatMap_cons, Text.utf8Chars_append, List.append_assoc,
      skipFrom_escaped isKey opened (escaped_escape character), ih]

end Json

end DualToken
