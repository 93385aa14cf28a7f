import DualToken.Text.Decimal
import DualToken.Time.Calendar

/-!
# Dates in headers

A time is written as in `Tue, 14 Nov 2023 22:13:20 GMT`: the names of the day and the month have
three letters, the day, hour, minute and second two digits, and the year as many as it needs. Only
the years from -9999 to 9999 can be written.
-/

set_option autoImplicit false

namespace DualToken.HttpDate

/-- The first second that can be written. -/
def earliest : Int := -377705116800

/-- The last second that can be written. -/
def latest : Int := 253402300799

/-- Whether a time can be written. -/
def IsWritable (time : Int) : Prop :=
  earliest ≤ time ∧ time ≤ latest

instance (time : Int) : Decidable (IsWritable time) :=
  inferInstanceAs (Decidable (_ ∧ _))

/-- The names of the days of the week. -/
def weekdayNames : List String := ["Mon", "Tue", "Wed", "Thu", "Fri", "Sat", "Sun"]

/-- The names of the months. -/
def monthNames : List String :=
  ["Jan", "Feb", "Mar", "Apr", "May", "Jun", "Jul", "Aug", "Sep", "Oct", "Nov", "Dec"]

/-- Two digits for a number below a hundred. -/
def twoDigits (number : Nat) : String :=
  String.ofList [Nat.digitChar (number / 10 % 10), Nat.digitChar (number % 10)]

/-- The text of a time. -/
def write (time : Int) : String :=
  let number := time / 86400
  let second := (time % 86400).toNat
  let date := Calendar.Date.ofNumber number
  weekdayNames.getD (Calendar.weekday number) "" ++ ", " ++ twoDigits date.day ++ " " ++
    monthNames.getD date.month "" ++ " " ++ Text.ofInteger date.year ++ " " ++
    twoDigits (second / 3600) ++ ":" ++ twoDigits (second / 60 % 60) ++ ":" ++
    twoDigits (second % 60) ++ " GMT"

end DualToken.HttpDate
