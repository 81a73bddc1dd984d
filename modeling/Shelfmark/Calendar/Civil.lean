/-!
# Civil dates

Days are counted from 1 January 1970 in the Gregorian calendar, extended
without end in both directions; the year before year 1 is year 0. A cycle of
400 years has 146097 days, and starting the year in March puts the leap day at
its end, so both directions are plain division.
-/

namespace Shelfmark.Calendar

/-- A day of the calendar. -/
structure Date where
  year : Int
  month : Nat
  day : Nat
  deriving DecidableEq, Repr

/-- Days from 1 March of year 0 to 1 January 1970. -/
def marchEpoch : Int := 719468

/-- Whether the year has a 29 February. -/
def isLeapYear (year : Int) : Bool :=
  year % 4 = 0 && (year % 100 ≠ 0 || year % 400 = 0)

/-- The number of days of a month. -/
def daysInMonth (year : Int) (month : Nat) : Nat :=
  if month = 2 then (if isLeapYear year then 29 else 28)
  else if month = 4 || month = 6 || month = 9 || month = 11 then 30
  else 31

namespace Date

/-- Whether the month exists and has the day. -/
def isValid (d : Date) : Bool :=
  1 ≤ d.month && d.month ≤ 12 && 1 ≤ d.day && d.day ≤ daysInMonth d.year d.month

/-- The number of days from 1 January 1970 to the date. -/
def toDays (d : Date) : Int :=
  let year := if d.month ≤ 2 then d.year - 1 else d.year
  let fromMarch : Int := if d.month ≤ 2 then d.month + 9 else d.month - 3
  let cycle := year / 400
  let yearOfCycle := year - cycle * 400
  let dayOfYear := (153 * fromMarch + 2) / 5 + d.day - 1
  cycle * 146097 + yearOfCycle * 365 + yearOfCycle / 4 - yearOfCycle / 100 + dayOfYear - marchEpoch

/-- The date that many days after 1 January 1970. -/
def ofDays (days : Int) : Date :=
  let z := days + marchEpoch
  let cycle := z / 146097
  let dayOfCycle := z - cycle * 146097
  let yearOfCycle :=
    (dayOfCycle - dayOfCycle / 1460 + dayOfCycle / 36524 - dayOfCycle / 146096) / 365
  let dayOfYear := dayOfCycle - (365 * yearOfCycle + yearOfCycle / 4 - yearOfCycle / 100)
  let fromMarch := (5 * dayOfYear + 2) / 153
  let day := dayOfYear - (153 * fromMarch + 2) / 5 + 1
  let month := if fromMarch < 10 then fromMarch + 3 else fromMarch - 9
  let year := yearOfCycle + cycle * 400
  ⟨if month ≤ 2 then year + 1 else year, month.toNat, day.toNat⟩

/-- The number of the day in its year, from 1. -/
def dayOfYear (d : Date) : Nat := (d.toDays - toDays ⟨d.year, 1, 1⟩ + 1).toNat

/-- The day of the week, Monday being 0. 1 January 1970 was a Thursday. -/
def weekday (d : Date) : Nat := ((d.toDays + 3) % 7).toNat

/-- The number of the week, where weeks start on the given day of the week and
the days before the first such day are week 0. -/
def weekFrom (d : Date) (start : Nat) : Nat :=
  (d.dayOfYear + 6 - (d.weekday + 7 - start) % 7) / 7

/-- The year and the number of the week, where weeks start on Monday and belong
to the year that holds their Thursday. -/
def isoWeek (d : Date) : Int × Nat :=
  let thursday := ofDays (d.toDays + 3 - d.weekday)
  (thursday.year, (thursday.dayOfYear + 6) / 7)

end Date

end Shelfmark.Calendar
