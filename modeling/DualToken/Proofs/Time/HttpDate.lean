import DualToken.Proofs.Text.Decimal
import DualToken.Time.HttpDate
import Mathlib.Algebra.GroupWithZero.Nat

/-!
# Dates read back

The calendar counts days, so a date is right if it is the date of the day that was asked for
(`Calendar.Date.number_ofNumber`). The number of days since the year 1 is cut into whole cycles,
then into centuries, into four years and into single years; the last part of each kind may be a day
longer than the others, and that day is what makes a year leap (`Calendar.IsCut`).

A date in a header is read by cutting it at the spaces. The reader knows the names of the days and
the months, and takes a text only if it names a day that exists and the right day of the week. Every
time is read back from what is written for it (`HttpDate.read?_write`), also beyond the years that a
header may have.
-/

set_option autoImplicit false

namespace DualToken

/-! ## The calendar -/

namespace Calendar

/-- The days since the year 1 are cut into cycles, centuries, fours, single years and the rest. -/
structure IsCut (days cycle century four single rest : Int) : Prop where
  whole : days = 146097 * cycle + 36524 * century + 1461 * four + 365 * single + rest
  centuries : 0 ≤ century ∧ century ≤ 3
  fours : 0 ≤ four ∧ four ≤ 24
  singles : 0 ≤ single ∧ single ≤ 3
  some : 0 ≤ rest
  /-- Only a year with a leap day has a day more than the others. -/
  within : rest < 365 ∨ rest = 365 ∧ single = 3 ∧ (four = 24 → century = 3)

/-- The year of a day is counted from the parts into which the days are cut. -/
theorem exists_isCut (number : Int) : ∃ cycle century four single rest,
    IsCut (number + daysBefore1970) cycle century four single rest ∧
      yearOf number = (400 * cycle + 100 * century + 4 * four + single + 1, rest.toNat) := by
  generalize total : number + daysBefore1970 = days
  let century := min 3 (days % 146097 / 36524)
  let inCentury := days % 146097 - century * 36524
  let single := min 3 (inCentury % 1461 / 365)
  have centuries : 0 ≤ century ∧ century ≤ 3 ∧ 0 ≤ inCentury ∧
      (inCentury < 36524 ∨ inCentury = 36524 ∧ century = 3) := by omega
  have singles : 0 ≤ single ∧ single ≤ 3 ∧ 0 ≤ inCentury % 1461 - single * 365 ∧
      (inCentury % 1461 - single * 365 < 365 ∨
        inCentury % 1461 - single * 365 = 365 ∧ single = 3) := by omega
  refine ⟨days / 146097, century, inCentury / 1461, single, inCentury % 1461 - single * 365, ?_, ?_⟩
  · constructor <;> omega
  · rw [yearOf, total]

/-- The first day of a year that is counted from the parts. -/
theorem firstDay_of_isCut {days cycle century four single rest : Int}
    (cut : IsCut days cycle century four single rest) :
    firstDay (400 * cycle + 100 * century + 4 * four + single + 1) + rest =
      days - daysBefore1970 := by
  obtain ⟨whole, centuries, fours, singles, -, -⟩ := cut
  simp only [firstDay, daysBefore1970]
  omega

/-- The rest of the days fits the year that is counted from the parts. -/
theorem rest_lt_of_isCut {days cycle century four single rest : Int}
    (cut : IsCut days cycle century four single rest) : rest.toNat <
      (monthLengths (isLeap (400 * cycle + 100 * century + 4 * four + single + 1))).sum := by
  obtain ⟨-, centuries, fours, singles, some, within⟩ := cut
  rcases within with short | ⟨long, last, closing⟩
  · have lengths : ∀ leap, 365 ≤ (monthLengths leap).sum := by decide
    have enough := lengths (isLeap (400 * cycle + 100 * century + 4 * four + single + 1))
    omega
  · have leap : isLeap (400 * cycle + 100 * century + 4 * four + single + 1) = true := by
      simp only [isLeap, Bool.and_eq_true, Bool.or_eq_true, decide_eq_true_eq]
      omega
    rw [leap, long]
    decide

/-- A month and a day of it are found for days that the months have: the months before have passed,
and the day is one of the month. -/
theorem monthOf_of_lt {lengths : List Nat} {days : Nat} (passed : Nat)
    (within : days < lengths.sum) :
    ∃ months day, monthOf lengths passed days = (passed + months, day + 1) ∧
      months < lengths.length ∧ days = (lengths.take months).sum + day ∧
      day < lengths.getD months 0 := by
  induction lengths generalizing passed days with
  | nil => exact absurd within (Nat.not_lt_zero days)
  | cons length later ih =>
    rw [monthOf]
    split
    · next short =>
      exact ⟨0, days, rfl, Nat.zero_lt_succ _, (Nat.zero_add days).symm, short⟩
    · next long =>
      rw [List.sum_cons] at within
      obtain ⟨months, day, found, inside, split, own⟩ :=
        @ih (days - length) (passed + 1) (by omega)
      refine ⟨months + 1, day, ?_, Nat.succ_lt_succ inside, ?_, own⟩
      · rw [found, Nat.add_assoc, Nat.add_comm 1 months]
      · rw [List.take_succ_cons, List.sum_cons]
        omega

/-- The date is one of the calendar: there is such a month, and it has such a day. -/
structure Date.IsValid (date : Date) : Prop where
  month : date.month < 12
  day : 1 ≤ date.day ∧ date.day ≤ (monthLengths (isLeap date.year)).getD date.month 0

instance (date : Date) : Decidable date.IsValid :=
  decidable_of_iff (date.month < 12 ∧
    1 ≤ date.day ∧ date.day ≤ (monthLengths (isLeap date.year)).getD date.month 0)
    ⟨fun ⟨month, day⟩ => ⟨month, day⟩, fun ⟨month, day⟩ => ⟨month, day⟩⟩

/-- No month has more than thirty-one days. -/
theorem Date.day_le_of_isValid {date : Date} (valid : date.IsValid) : date.day ≤ 31 := by
  have lengths : ∀ leap, ∀ month < 12, (monthLengths leap).getD month 0 ≤ 31 := by decide
  exact valid.day.2.trans (lengths _ _ valid.month)

/-- **The date of a day is a date of the calendar, and it is the date of just that day.** -/
theorem Date.number_ofNumber (number : Int) :
    (Date.ofNumber number).IsValid ∧ (Date.ofNumber number).number = number := by
  obtain ⟨cycle, century, four, single, rest, cut, year⟩ := exists_isCut number
  have first := firstDay_of_isCut cut
  have within := rest_lt_of_isCut cut
  have counted := cut.some
  generalize 400 * cycle + 100 * century + 4 * four + single + 1 = past at year first within
  obtain ⟨months, day, found, inside, split, own⟩ := monthOf_of_lt 0 within
  have date : Date.ofNumber number = ⟨past, months, day + 1⟩ := by
    rw [Date.ofNumber, year]
    dsimp only
    rw [found, Nat.zero_add]
  have length : ∀ leap, (monthLengths leap).length = 12 := by decide
  rw [date]
  refine ⟨⟨length _ ▸ inside, Nat.succ_pos day, own⟩, ?_⟩
  have counts : Date.number ⟨past, months, day + 1⟩ =
      firstDay past + ((monthLengths (isLeap past)).take months).sum + ((day + 1 : Nat) - 1) := rfl
  rw [counts]
  omega

end Calendar

/-! ## Reading -/

namespace Text

/-- The integer that digits write behind an optional minus sign. -/
def readInteger? (characters : List Char) : Option Int :=
  match characters with
  | '-' :: rest => (readNatural? rest).map fun magnitude => -(magnitude : Int)
  | other => (readNatural? other).map fun magnitude => (magnitude : Int)

/-- **An integer is read back.** -/
theorem readInteger?_writeInteger (number : Int) :
    readInteger? (writeInteger number) = some number := by
  cases number with
  | ofNat magnitude =>
    rw [writeInteger, readInteger?, readNatural?_writeNatural]
    · rfl
    · exact fun rest => ne_of_writeNatural_eq (by decide)
  | negSucc predecessor =>
    rw [writeInteger, readInteger?, readNatural?_writeNatural]
    rfl

end Text

namespace HttpDate

open Calendar

/-- The characters in front of the date: the name of the day of the week, and a comma. -/
def weekdayPart (number : Int) : List Char :=
  (weekdayNames.getD (weekday number) "").toList ++ [',']

/-- The number that two digits write. -/
def readTwo? (characters : List Char) : Option Nat :=
  if characters.length = 2 then Text.readNatural? characters else none

/-- The number of a month, from its name. -/
def readMonth? (characters : List Char) : Option Nat :=
  monthNames.findIdx? fun name => name.toList = characters

/-- The seconds of a day at an hour, a minute and a second. -/
def readClock? (characters : List Char) : Option Nat :=
  match characters.splitOn ':' with
  | [hour, minute, second] => do
    let hour ← readTwo? hour
    let minute ← readTwo? minute
    let second ← readTwo? second
    if hour < 24 ∧ minute < 60 ∧ second < 60 then return hour * 3600 + minute * 60 + second
    else none
  | _ => none

/-- The time that a text says, if it is that of a day that exists, under the name that the day has
in the week. -/
def read? (text : String) : Option Int :=
  match text.toList.splitOn ' ' with
  | [weekday, day, month, year, clock, zone] => do
    let date : Date := ⟨← Text.readInteger? year, ← readMonth? month, ← readTwo? day⟩
    let seconds ← readClock? clock
    if date.IsValid ∧ weekday = weekdayPart date.number ∧ zone = "GMT".toList then
      return date.number * 86400 + seconds
    else none
  | _ => none

/-- Two digits are read back. -/
theorem readTwo?_twoDigits {number : Nat} (small : number < 100) :
    readTwo? (twoDigits number).toList = some number := by
  have all : ∀ number < 100, readTwo? (twoDigits number).toList = some number := by decide +kernel
  exact all number small

theorem isDigit_of_mem_twoDigits {number : Nat} (small : number < 100) {character : Char}
    (member : character ∈ (twoDigits number).toList) : character.isDigit = true := by
  have all : ∀ number < 100, (twoDigits number).toList.all Char.isDigit = true := by
    decide +kernel
  exact List.all_eq_true.1 (all number small) character member

/-- The name of a month is read back. -/
theorem readMonth?_monthNames {month : Nat} (inside : month < 12) :
    readMonth? (monthNames.getD month "").toList = some month := by
  have all : ∀ month < 12, readMonth? (monthNames.getD month "").toList = some month := by
    decide +kernel
  exact all month inside

/-- The clock of a number of seconds. -/
def clockPart (seconds : Nat) : List Char :=
  [':'].intercalate [(twoDigits (seconds / 3600)).toList, (twoDigits (seconds / 60 % 60)).toList,
    (twoDigits (seconds % 60)).toList]

/-- The time of a day is read back. -/
theorem readClock?_clockPart {seconds : Nat} (within : seconds < 86400) :
    readClock? (clockPart seconds) = some seconds := by
  have separate : ∀ part ∈ [(twoDigits (seconds / 3600)).toList,
      (twoDigits (seconds / 60 % 60)).toList, (twoDigits (seconds % 60)).toList], ':' ∉ part := by
    simp only [List.mem_cons, List.not_mem_nil, or_false]
    rintro part (rfl | rfl | rfl) colon
    · exact absurd (isDigit_of_mem_twoDigits (by omega) colon) (by decide)
    · exact absurd (isDigit_of_mem_twoDigits (by omega) colon) (by decide)
    · exact absurd (isDigit_of_mem_twoDigits (by omega) colon) (by decide)
  rw [readClock?, clockPart, List.splitOn_intercalate ':' separate (List.cons_ne_nil _ _)]
  simp only [readTwo?_twoDigits (show seconds / 3600 < 100 by omega),
    readTwo?_twoDigits (show seconds / 60 % 60 < 100 by omega),
    readTwo?_twoDigits (show seconds % 60 < 100 by omega), Option.bind_eq_bind, Option.bind_some]
  rw [if_pos (by omega)]
  exact congrArg some (by omega)

/-- A time is written in six parts, with a space between two of them. -/
theorem toList_write (time : Int) : (write time).toList = [' '].intercalate
    [weekdayPart (time / 86400), (twoDigits (Date.ofNumber (time / 86400)).day).toList,
      (monthNames.getD (Date.ofNumber (time / 86400)).month "").toList,
      Text.writeInteger (Date.ofNumber (time / 86400)).year,
      clockPart (time % 86400).toNat, "GMT".toList] := by
  have comma : ", ".toList = [',', ' '] := by decide
  have space : " ".toList = [' '] := by decide
  have colon : ":".toList = [':'] := by decide
  have zone : " GMT".toList = ' ' :: "GMT".toList := by decide
  simp [write, weekdayPart, clockPart, Text.ofInteger, List.intercalate, comma, space, colon, zone]

/-- The signs at which dates and lists of attributes are cut. -/
def marks : List Char := [' ', ';']

/-- No part of a text holds one of the signs at which it is cut. -/
theorem notMem_part {mark : Char} (cuts : mark ∈ marks) (number : Int) {date : Date}
    (valid : date.IsValid) {seconds : Nat} (within : seconds < 86400) :
    ∀ part ∈ [weekdayPart number, (twoDigits date.day).toList,
      (monthNames.getD date.month "").toList, Text.writeInteger date.year, clockPart seconds,
      "GMT".toList], mark ∉ part := by
  have one : mark = ' ' ∨ mark = ';' := by simpa [marks] using cuts
  have foreign : mark.isDigit = false ∧ mark ≠ '-' ∧ mark ≠ ':' ∧ mark ∉ "GMT".toList := by
    rcases one with rfl | rfl <;> decide
  have months : ∀ month < 12, mark ∉ (monthNames.getD month "").toList := by
    rcases one with rfl | rfl <;> decide +kernel
  have weekdays : ∀ day < 7, mark ∉ (weekdayNames.getD day "").toList ++ [','] := by
    rcases one with rfl | rfl <;> decide +kernel
  obtain ⟨noDigit, noSign, noColon, noZone⟩ := foreign
  have digits {number : Nat} (small : number < 100) : mark ∉ (twoDigits number).toList :=
    fun member => absurd (isDigit_of_mem_twoDigits small member) (by simp [noDigit])
  have short := Date.day_le_of_isValid valid
  simp only [List.mem_cons, List.not_mem_nil, or_false]
  rintro part (rfl | rfl | rfl | rfl | rfl | rfl)
  · exact weekdays _ (by rw [weekday]; omega)
  · exact digits (by omega)
  · exact months _ valid.month
  · exact Text.notMem_writeInteger noDigit noSign date.year
  · simp [clockPart, List.intercalate, noColon, digits (show seconds / 3600 < 100 by omega),
      digits (show seconds / 60 % 60 < 100 by omega), digits (show seconds % 60 < 100 by omega)]
  · exact noZone

/-- A date begins with a day of the week and ends with the time zone. -/
theorem exists_toList_write (time : Int) : ∃ middle,
    (write time).toList = weekdayPart (time / 86400) ++ (middle ++ "GMT".toList) := by
  refine ⟨' ' :: ([' '].intercalate [(twoDigits (Date.ofNumber (time / 86400)).day).toList,
    (monthNames.getD (Date.ofNumber (time / 86400)).month "").toList,
    Text.writeInteger (Date.ofNumber (time / 86400)).year,
    clockPart (time % 86400).toNat] ++ [' ']), ?_⟩
  rw [toList_write]
  simp [List.intercalate]

/-- A date does not end where attributes are separated. -/
theorem semicolon_notMem_write (time : Int) : ';' ∉ (write time).toList := by
  have valid := (Date.number_ofNumber (time / 86400)).1
  have within : (time % 86400).toNat < 86400 := by omega
  have parts : ∀ part ∈ _, ';' ∉ part := notMem_part (by decide) (time / 86400) valid within
  simp only [List.forall_mem_cons] at parts
  simp [toList_write, List.intercalate, parts, -List.getD_eq_getElem?_getD]

/-- **Every time is read back from its text.** -/
theorem read?_write (time : Int) : read? (write time) = some time := by
  obtain ⟨valid, counts⟩ := Date.number_ofNumber (time / 86400)
  have within : (time % 86400).toNat < 86400 := by omega
  have short := Date.day_le_of_isValid valid
  rw [read?, toList_write, List.splitOn_intercalate ' '
    (notMem_part (by decide) _ valid within) (List.cons_ne_nil _ _)]
  dsimp only
  rw [Text.readInteger?_writeInteger, readMonth?_monthNames valid.month,
    readTwo?_twoDigits (by omega), readClock?_clockPart within]
  simp only [Option.bind_eq_bind, Option.bind_some]
  rw [if_pos ⟨valid, by rw [counts], trivial⟩, counts]
  exact congrArg some (by omega)

/-- The day of the week has to be the right one. -/
example : read? "Tue, 14 Nov 2023 22:13:20 GMT" = some 1700000000 ∧
    read? "Wed, 14 Nov 2023 22:13:20 GMT" = none := by decide +kernel

end HttpDate

end DualToken
