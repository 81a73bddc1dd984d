import Shelfmark.Calendar.Moment
import Shelfmark.Text.Digits

/-!
# Moments as internet timestamps

The form `2001-02-03T04:05:06.789+00:00`. Reading takes years of four digits,
a small or capital `T` or a blank between date and time, a small or capital `Z`
for universal time, and the typographic minus sign. Writing picks the shortest
fraction of three, six or nine digits that is exact and omits a zero fraction.
-/

namespace Shelfmark.Calendar

open Shelfmark.Text

/-! ## Writing -/

/-- A number with at least `width` digits. -/
def zeroPadded (width n : Nat) : List Char := padStart '0' width (natDigits n)

/-- A year: four digits from 0 to 9999, a sign and at least four digits elsewhere. -/
def yearChars (year : Int) : List Char :=
  if 0 ≤ year && year ≤ 9999 then zeroPadded 4 year.toNat
  else (if year < 0 then '-' else '+') :: zeroPadded 4 year.natAbs

/-- A fraction of a second with the fewest digits of three, six and nine. -/
def fractionChars (nanos : Nat) : List Char :=
  if nanos = 0 then []
  else if nanos % 1000000 = 0 then '.' :: zeroPadded 3 (nanos / 1000000)
  else if nanos % 1000 = 0 then '.' :: zeroPadded 6 (nanos / 1000)
  else '.' :: zeroPadded 9 nanos

/-- An offset as sign, hours and minutes with `separator` between them. -/
def offsetChars (separator : List Char) (offset : Int) : List Char :=
  (if offset < 0 then '-' else '+') :: zeroPadded 2 (offset.natAbs / 3600) ++ separator ++
    zeroPadded 2 (offset.natAbs / 60 % 60)

/-- A date as year, month and day. -/
def Date.chars (d : Date) : List Char :=
  yearChars d.year ++ '-' :: zeroPadded 2 d.month ++ '-' :: zeroPadded 2 d.day

namespace Moment

/-- The time on the clock, without fraction. -/
def clockChars (m : Moment) : List Char :=
  zeroPadded 2 m.hour ++ ':' :: zeroPadded 2 m.minute ++ ':' :: zeroPadded 2 m.second

/-- The moment as an internet timestamp. -/
def rfc3339Chars (m : Moment) : List Char :=
  m.date.chars ++ 'T' :: m.clockChars ++ fractionChars m.nanosecond ++ offsetChars [':'] m.offset

/-- The moment as an internet timestamp. -/
def writeRfc3339 (m : Moment) : String := String.ofList m.rfc3339Chars

/-! ## Reading -/

/-- A number of exactly `width` digits and what follows it. -/
def readDigits? (width : Nat) (cs : List Char) : Option (Nat × List Char) :=
  if (cs.take width).length = width then
    (readNat? (cs.take width)).map fun n => (n, cs.drop width)
  else none

/-- What follows the character `c`. -/
def expect? (c : Char) : List Char → Option (List Char)
  | d :: rest => if d = c then some rest else none
  | [] => none

/-- Nanoseconds of a fraction; digits after the ninth do not count. -/
def nanosOf (digits : List Char) : Nat :=
  let kept := digits.take 9
  Nat.ofDigitChars 10 (kept ++ List.replicate (9 - kept.length) '0') 0

/-- The fraction after a point, if there is one, and what follows it. -/
def readFraction? : List Char → Option (Nat × List Char)
  | '.' :: rest =>
      let digits := rest.takeWhile Char.isDigit
      if digits.isEmpty then none else some (nanosOf digits, rest.dropWhile Char.isDigit)
  | cs => some (0, cs)

/-- The offset in seconds and what follows it. It is less than a day. -/
def readOffset? : List Char → Option (Int × List Char)
  | [] => none
  | c :: cs =>
      if c = 'Z' || c = 'z' then some (0, cs)
      else if c = '+' || c = '-' || c = '−' then do
        let (hours, cs) ← readDigits? 2 cs
        let cs ← expect? ':' cs
        let (minutes, cs) ← readDigits? 2 cs
        let seconds : Int := hours * 3600 + minutes * 60
        if minutes ≤ 59 && seconds < 86400 then some (if c = '+' then seconds else -seconds, cs)
        else none
      else none

/-- The moment of an internet timestamp that makes up the whole text. -/
def readRfc3339? (cs : List Char) : Option Moment := do
  let (year, cs) ← readDigits? 4 cs
  let cs ← expect? '-' cs
  let (month, cs) ← readDigits? 2 cs
  let cs ← expect? '-' cs
  let (day, cs) ← readDigits? 2 cs
  let cs ← (expect? 'T' cs).or ((expect? 't' cs).or (expect? ' ' cs))
  let (hour, cs) ← readDigits? 2 cs
  let cs ← expect? ':' cs
  let (minute, cs) ← readDigits? 2 cs
  let cs ← expect? ':' cs
  let (second, cs) ← readDigits? 2 cs
  let (nanos, cs) ← readFraction? cs
  let (offset, cs) ← readOffset? cs
  let date : Date := ⟨year, month, day⟩
  if cs.isEmpty && date.isValid && hour ≤ 23 && minute ≤ 59 && second ≤ 60 then
    let clock : Int := hour * 3600 + minute * 60 + min second 59
    let leap := if second = 60 then 1000000000 else 0
    some ⟨date.toDays * 86400 + clock - offset, nanos + leap, offset⟩
  else none

end Moment

end Shelfmark.Calendar
