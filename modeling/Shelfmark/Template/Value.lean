import Shelfmark.Calendar.Pattern
import Shelfmark.Json
import Shelfmark.Text.Blank

/-!
# Values of labels

What variables stand for and filters work on. A value is shown as text with two
conventions that the label chooses: what separates the items of a list, and how
a date is laid out.
-/

namespace Shelfmark.Template

open Shelfmark.Text
open Shelfmark.Calendar

/-- Nothing, text, a number, a moment, or a list of values. -/
inductive Value where
  | null
  | text (text : String)
  | number (number : Binary64)
  | date (moment : Moment)
  | list (items : List Value)
  deriving Inhabited, Repr

/-- What separates the items of a list unless the label says otherwise. -/
def defaultListSeparator : String := ", "

/-- How dates are laid out unless the label says otherwise. -/
def defaultDateFormat : String := "%Y-%m-%d %H:%M:%S"

namespace Value

/-- Whether the value is nothing at all. -/
def isNull : Value → Bool
  | null => true
  | _ => false

/-- Nothing, the empty text and the empty list are empty. -/
def isEmpty : Value → Bool
  | null => true
  | text s => s.isEmpty
  | list items => items.isEmpty
  | _ => false

/-- A number, or the number that a text spells. -/
def toNumber? : Value → Option Binary64
  | number x => some x
  | text s => Binary64.read? (trimChars s.toList)
  | _ => none

/-- A date, the moment that many seconds after the start of 1970, or the moment
that a text spells as an internet timestamp. -/
def toMoment? : Value → Option Moment
  | date m => some m
  | number x => Moment.ofSeconds? x.toInt64
  | text s => Moment.readRfc3339? (trimChars s.toList)
  | _ => none

/-- A number as text: whole numbers below a thousand million million as integers,
all others with the fewest digits that read back. -/
def numberText (x : Binary64) : String :=
  if x.isWhole && x.absBelow (tenPow 15) then writeInt x.toInt64 else String.ofList x.positional

/-- A moment laid out by `dateFormat`, or as an internet timestamp when that is no pattern. -/
def dateText (dateFormat : String) (m : Moment) : String :=
  (m.format? dateFormat).getD m.writeRfc3339

mutual

/-- The value as text. -/
def render (listSeparator dateFormat : String) : Value → String
  | null => ""
  | text s => s
  | number x => numberText x
  | date m => dateText dateFormat m
  | list items => listSeparator.intercalate (renderAll listSeparator dateFormat items)

/-- Each of the values as text. -/
def renderAll (listSeparator dateFormat : String) : List Value → List String
  | [] => []
  | v :: vs => render listSeparator dateFormat v :: renderAll listSeparator dateFormat vs

end

/-- The value as text with the default conventions. -/
def display (v : Value) : String := v.render defaultListSeparator defaultDateFormat

/-- The number of an integer. -/
def ofInt64 (i : Int64) : Value := number (Binary64.ofInt i.toInt)

/-- A list of texts. -/
def ofTexts (texts : List String) : Value := list (texts.map text)

mutual

/-- The value that JSON data stand for: truth values and objects are text, an
object being its compact form. -/
def ofJson : Json → Value
  | .null => null
  | .bool b => text (if b then "true" else "false")
  | .integer i => number (Binary64.ofInt i)
  | .number x => number x
  | .text s => text s
  | .list items => list (ofJsonList items)
  | .object fields => text (Json.object fields).write

/-- The values of a list of JSON data. -/
def ofJsonList : List Json → List Value
  | [] => []
  | j :: js => ofJson j :: ofJsonList js

end

end Value

end Shelfmark.Template
