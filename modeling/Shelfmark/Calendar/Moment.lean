import Shelfmark.Calendar.Civil

/-!
# Moments

A moment is a point in time together with the offset of the clock that shows
it. Its seconds count from the start of 1970 in universal time; its calendar
fields are those of the clock. A leap second is the second before it with at
least a thousand million nanoseconds.
-/

namespace Shelfmark.Calendar

/-- A point in time, shown on a clock that is `offset` seconds ahead of universal time. -/
structure Moment where
  seconds : Int
  nanos : Nat
  offset : Int
  deriving DecidableEq, Repr

namespace Moment

/-- The first second of the calendar, at the start of the year -262143. -/
def minSeconds : Int := -8334601228800

/-- The last second of the calendar, at the end of the year 262142. -/
def maxSeconds : Int := 8210266876799

/-- The start of 1970. -/
def epoch : Moment := ⟨0, 0, 0⟩

/-- The moment that many seconds after the start of 1970, unless it lies outside
the calendar. -/
def ofSeconds? (seconds : Int) : Option Moment :=
  if minSeconds ≤ seconds && seconds ≤ maxSeconds then some ⟨seconds, 0, 0⟩ else none

/-- The same point in time on a clock of universal time. -/
def toUniversal (m : Moment) : Moment := { m with offset := 0 }

/-- Seconds shown by the clock, counted from the start of its 1970. -/
def clockSeconds (m : Moment) : Int := m.seconds + m.offset

/-- The date on the clock. -/
def date (m : Moment) : Date := Date.ofDays (m.clockSeconds / 86400)

/-- Seconds since midnight on the clock. -/
def secondOfDay (m : Moment) : Nat := (m.clockSeconds % 86400).toNat

/-- The hour on the clock. -/
def hour (m : Moment) : Nat := m.secondOfDay / 3600

/-- The minute on the clock. -/
def minute (m : Moment) : Nat := m.secondOfDay / 60 % 60

/-- The second on the clock; 60 in a leap second. -/
def second (m : Moment) : Nat := m.secondOfDay % 60 + m.nanos / 1000000000

/-- Nanoseconds since the start of the second. -/
def nanosecond (m : Moment) : Nat := m.nanos % 1000000000

/-- The hour on a dial of twelve. -/
def hourOfTwelve (m : Moment) : Nat := if m.hour % 12 = 0 then 12 else m.hour % 12

end Moment

end Shelfmark.Calendar
