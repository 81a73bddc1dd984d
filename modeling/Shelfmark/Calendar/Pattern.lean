import Shelfmark.Calendar.Rfc3339
import Shelfmark.Number.Power

/-!
# Patterns that lay out a moment

A pattern is text with directives: a percent sign, an optional padding, and a
letter that names a field of the moment. Directives that stand for several
others (`%F`, `%T`, `%c`, …) are taken apart while the pattern is read, so
rendering sees single fields only. A pattern with an unknown directive is no
pattern at all.
-/

namespace Shelfmark.Calendar

open Shelfmark.Text

/-- What fills a number up to its width. -/
inductive Padding where
  | none
  | zero
  | space
  deriving DecidableEq, Repr

/-- Fields that are shown as numbers. -/
inductive NumberField where
  | year
  | century
  | yearOfCentury
  | weekYear
  | weekYearOfCentury
  | quarter
  | month
  | day
  | weekFromSunday
  | weekFromMonday
  | isoWeek
  | daysFromSunday
  | weekdayFromMonday
  | dayOfYear
  | hour
  | hourOfTwelve
  | minute
  | second
  | nanosecond
  | epochSeconds
  deriving DecidableEq, Repr

/-- Layouts of the offset from universal time. -/
inductive OffsetForm where
  | minutes (separated : Bool)
  | seconds
  | hours
  | zuluOrMinutes
  deriving DecidableEq, Repr

/-- Fields that are shown as words or in a layout of their own. -/
inductive TextField where
  | monthName
  | monthAbbreviation
  | weekdayName
  | weekdayAbbreviation
  | halfDay (capital : Bool)
  | fraction
  | fractionOf (digits : Nat) (point : Bool)
  | offset (form : OffsetForm)
  | zoneName
  | timestamp
  deriving DecidableEq, Repr

/-- One piece of a pattern. -/
inductive PatternItem where
  | literal (c : Char)
  | number (field : NumberField) (padding : Padding)
  | text (field : TextField)
  deriving DecidableEq, Repr

namespace PatternItem

/-! ## Reading -/

/-- A number padded with zeros. -/
def padded (field : NumberField) : PatternItem := number field .zero

/-- Year, month and day, with dashes. -/
def isoDate : List PatternItem :=
  [padded .year, literal '-', padded .month, literal '-', padded .day]

/-- Hour and minute, with a colon. -/
def hourMinute : List PatternItem := [padded .hour, literal ':', padded .minute]

/-- Hour, minute and second, with colons. -/
def clock : List PatternItem := hourMinute ++ [literal ':', padded .second]

/-- Month, day and year of two digits each, with slashes. -/
def slashDate : List PatternItem :=
  [padded .month, literal '/', padded .day, literal '/', padded .yearOfCentury]

/-- The pieces that a directive letter stands for. -/
def ofLetter? (c : Char) : Option (List PatternItem) :=
  match c with
  | 'A' => some [text .weekdayName]
  | 'B' => some [text .monthName]
  | 'C' => some [padded .century]
  | 'D' => some slashDate
  | 'F' => some isoDate
  | 'G' => some [padded .weekYear]
  | 'H' => some [padded .hour]
  | 'I' => some [padded .hourOfTwelve]
  | 'M' => some [padded .minute]
  | 'P' => some [text (.halfDay false)]
  | 'R' => some hourMinute
  | 'S' => some [padded .second]
  | 'T' => some clock
  | 'U' => some [padded .weekFromSunday]
  | 'V' => some [padded .isoWeek]
  | 'W' => some [padded .weekFromMonday]
  | 'X' => some clock
  | 'Y' => some [padded .year]
  | 'Z' => some [text .zoneName]
  | 'a' => some [text .weekdayAbbreviation]
  | 'b' => some [text .monthAbbreviation]
  | 'c' => some ([text .weekdayAbbreviation, literal ' ', text .monthAbbreviation, literal ' ',
      number .day .space, literal ' '] ++ clock ++ [literal ' ', padded .year])
  | 'd' => some [padded .day]
  | 'e' => some [number .day .space]
  | 'f' => some [padded .nanosecond]
  | 'g' => some [padded .weekYearOfCentury]
  | 'h' => some [text .monthAbbreviation]
  | 'j' => some [padded .dayOfYear]
  | 'k' => some [number .hour .space]
  | 'l' => some [number .hourOfTwelve .space]
  | 'm' => some [padded .month]
  | 'n' => some [literal '\n']
  | 'p' => some [text (.halfDay true)]
  | 'q' => some [number .quarter .none]
  | 'r' => some [padded .hourOfTwelve, literal ':', padded .minute, literal ':', padded .second,
      literal ' ', text (.halfDay true)]
  | 's' => some [number .epochSeconds .none]
  | 't' => some [literal '\t']
  | 'u' => some [number .weekdayFromMonday .none]
  | 'v' => some [number .day .space, literal '-', text .monthAbbreviation, literal '-', padded .year]
  | 'w' => some [number .daysFromSunday .none]
  | 'x' => some slashDate
  | 'y' => some [padded .yearOfCentury]
  | 'z' => some [text (.offset (.minutes false))]
  | '+' => some [text .timestamp]
  | '%' => some [literal '%']
  | _ => none

/-- The padding that a mark asks for. -/
def paddingOf? (c : Char) : Option Padding :=
  match c with
  | '-' => some .none
  | '0' => some .zero
  | '_' => some .space
  | _ => none

/-- The pieces of a directive without padding, and what follows it. The argument
is what follows the percent sign. -/
def ofDirective? : List Char → Option (List PatternItem × List Char)
  | ':' :: ':' :: ':' :: 'z' :: rest => some ([text (.offset .hours)], rest)
  | ':' :: ':' :: 'z' :: rest => some ([text (.offset .seconds)], rest)
  | ':' :: 'z' :: rest => some ([text (.offset (.minutes true))], rest)
  | '#' :: 'z' :: rest => some ([text (.offset .zuluOrMinutes)], rest)
  | '.' :: 'f' :: rest => some ([text .fraction], rest)
  | '.' :: '3' :: 'f' :: rest => some ([text (.fractionOf 3 true)], rest)
  | '.' :: '6' :: 'f' :: rest => some ([text (.fractionOf 6 true)], rest)
  | '.' :: '9' :: 'f' :: rest => some ([text (.fractionOf 9 true)], rest)
  | '3' :: 'f' :: rest => some ([text (.fractionOf 3 false)], rest)
  | '6' :: 'f' :: rest => some ([text (.fractionOf 6 false)], rest)
  | '9' :: 'f' :: rest => some ([text (.fractionOf 9 false)], rest)
  | c :: rest => (ofLetter? c).map fun items => (items, rest)
  | [] => none

/-- The pieces of a directive and what follows it. A padding applies to a single
number only. -/
def ofPadded? : List Char → Option (List PatternItem × List Char)
  | [] => none
  | c :: rest =>
      match paddingOf? c with
      | none => ofDirective? (c :: rest)
      | some padding =>
          match ofDirective? rest with
          | some ([number field _], rest) => some ([number field padding], rest)
          | _ => none

/-- Reads a pattern; every step takes at least one character. -/
def readAll? : Nat → List Char → Option (List PatternItem)
  | _, [] => some []
  | 0, _ :: _ => none
  | fuel + 1, c :: cs =>
      if c = '%' then
        match ofPadded? cs with
        | some (items, rest) => (readAll? fuel rest).map (items ++ ·)
        | none => none
      else (readAll? fuel cs).map (literal c :: ·)

/-! ## Rendering -/

/-- Names of the months, from January. -/
def monthNames : List String :=
  ["January", "February", "March", "April", "May", "June", "July", "August", "September",
    "October", "November", "December"]

/-- Names of the days of the week, from Monday. -/
def weekdayNames : List String :=
  ["Monday", "Tuesday", "Wednesday", "Thursday", "Friday", "Saturday", "Sunday"]

/-- The characters of the name at a position. -/
def nameAt (names : List String) (position : Nat) : List Char :=
  ((names[position]?).getD "").toList

/-- Digits filled up to `width` on the left. -/
def fill (padding : Padding) (width : Nat) (cs : List Char) : List Char :=
  match padding with
  | .none => cs
  | .zero => padStart '0' width cs
  | .space => padStart ' ' width cs

/-- A number of two digits; a hundred or more counts on in its first character. -/
def twoDigits (padding : Padding) (n : Nat) : List Char :=
  let ones := Char.ofNat ('0'.toNat + n % 10)
  match n / 10, padding with
  | 0, .none => [ones]
  | 0, .space => [' ', ones]
  | tens, _ => [Char.ofNat ('0'.toNat + tens), ones]

/-- A signed number filled up to `width`: zeros go behind the sign, blanks before it. -/
def signedDigits (padding : Padding) (width : Nat) (always : Bool) (i : Int) : List Char :=
  let sign := if i < 0 then ['-'] else if always then ['+'] else []
  let digits := natDigits i.natAbs
  match padding with
  | .zero => sign ++ padStart '0' (width - sign.length) digits
  | _ => fill padding width (sign ++ digits)

/-- A year. Outside 0 to 9999 it shows a sign. -/
def yearDigits (padding : Padding) (year : Int) : List Char :=
  if 1000 ≤ year && year ≤ 9999 then natDigits year.toNat
  else if 0 ≤ year && year ≤ 9999 then signedDigits padding 4 false year
  else signedDigits padding 5 true year

/-- The characters of a field that is a number. -/
def numberChars (m : Moment) (padding : Padding) : NumberField → List Char
  | .year => yearDigits padding m.date.year
  | .century => twoDigits padding ((m.date.year / 100) % 256).toNat
  | .yearOfCentury => twoDigits padding (m.date.year % 100).toNat
  | .weekYear => yearDigits padding m.date.isoWeek.1
  | .weekYearOfCentury => twoDigits padding (m.date.isoWeek.1 % 100).toNat
  | .quarter => natDigits ((m.date.month + 2) / 3)
  | .month => twoDigits padding m.date.month
  | .day => twoDigits padding m.date.day
  | .weekFromSunday => twoDigits padding (m.date.weekFrom 6)
  | .weekFromMonday => twoDigits padding (m.date.weekFrom 0)
  | .isoWeek => twoDigits padding m.date.isoWeek.2
  | .daysFromSunday => natDigits ((m.date.weekday + 1) % 7)
  | .weekdayFromMonday => natDigits (m.date.weekday + 1)
  | .dayOfYear => fill padding 3 (natDigits m.date.dayOfYear)
  | .hour => twoDigits padding m.hour
  | .hourOfTwelve => twoDigits padding m.hourOfTwelve
  | .minute => twoDigits padding m.minute
  | .second => twoDigits padding m.second
  | .nanosecond => fill padding 9 (natDigits m.nanosecond)
  | .epochSeconds => signedDigits padding 9 false m.seconds

/-- The characters of an offset. -/
def offsetFormChars (offset : Int) : OffsetForm → List Char
  | .minutes separated => offsetChars (if separated then [':'] else []) offset
  | .seconds => offsetChars [':'] offset ++ ':' :: zeroPadded 2 (offset.natAbs % 60)
  | .hours => (if offset < 0 then '-' else '+') :: zeroPadded 2 (offset.natAbs / 3600)
  | .zuluOrMinutes => if offset = 0 then ['Z'] else offsetChars [] offset

/-- The characters of a field that is no number. -/
def textChars (m : Moment) : TextField → List Char
  | .monthName => nameAt monthNames (m.date.month - 1)
  | .monthAbbreviation => (nameAt monthNames (m.date.month - 1)).take 3
  | .weekdayName => nameAt weekdayNames m.date.weekday
  | .weekdayAbbreviation => (nameAt weekdayNames m.date.weekday).take 3
  | .halfDay capital =>
      let word := if m.hour < 12 then "am" else "pm"
      if capital then word.toList.map Char.toUpper else word.toList
  | .fraction => fractionChars m.nanosecond
  | .fractionOf digits point =>
      (if point then ['.'] else []) ++ zeroPadded digits (m.nanosecond / tenPow (9 - digits))
  | .offset form => offsetFormChars m.offset form
  | .zoneName => offsetChars [':'] m.offset
  | .timestamp => m.rfc3339Chars

/-- The characters of one piece. -/
def chars (m : Moment) : PatternItem → List Char
  | literal c => [c]
  | number field padding => numberChars m padding field
  | text field => textChars m field

end PatternItem

/-- The pieces of a pattern, or `none` when it has an unknown directive. -/
def readPattern? (pattern : String) : Option (List PatternItem) :=
  PatternItem.readAll? pattern.toList.length pattern.toList

/-- The moment laid out by a pattern, or `none` when it is no pattern. -/
def Moment.format? (m : Moment) (pattern : String) : Option String :=
  (readPattern? pattern).map fun items => String.ofList (items.flatMap (PatternItem.chars m))

end Shelfmark.Calendar
