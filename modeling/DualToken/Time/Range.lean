/-!
# The range of times

Times are whole seconds since the beginning of 1970. Calendar times reach from the year -262143 to
the year 262142, and a span of time is limited by the milliseconds that a signed word of sixty-four
bits can count. A time beyond the range does not exist, so adding a span to a time may fail.
-/

set_option autoImplicit false

namespace DualToken.Time

/-- The longest span, in seconds. -/
def longestSpan : Int := 9223372036854775

/-- The first second of the calendar. -/
def earliest : Int := -8334601228800

/-- The last second of the calendar. -/
def latest : Int := 8210266876799

/-- The time that lies a span after another, if there is one. -/
def add? (time span : Int) : Option Int :=
  if -longestSpan ≤ span ∧ span ≤ longestSpan ∧ earliest ≤ time + span ∧ time + span ≤ latest then
    some (time + span)
  else none

end DualToken.Time
