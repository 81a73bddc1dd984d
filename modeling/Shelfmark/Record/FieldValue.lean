import Shelfmark.Calendar.Pattern
import Shelfmark.Text.Shapeless

/-!
# Values of record fields

Points in time are kept in whole seconds. Publication dates are often vague, so
they are either free text or a point in time; in storage the latter is marked by
a prefix, which text may therefore not have.
-/

namespace Shelfmark

open Shelfmark.Text
open Shelfmark.Calendar

/-- A point in time, in seconds since the start of 1970. -/
structure Timestamp where
  seconds : Int64
  deriving DecidableEq, Repr

namespace Timestamp

/-- The moment; the start of 1970 when the calendar does not reach so far. -/
def toMoment (t : Timestamp) : Moment := (Moment.ofSeconds? t.seconds.toInt).getD Moment.epoch

/-- The second of a moment. -/
def ofMoment (m : Moment) : Timestamp := ⟨Int64.ofInt m.seconds⟩

/-- The second after this one, if there is one. -/
def next (t : Timestamp) : Timestamp :=
  if t.seconds = Int64.maxValue then t else ⟨t.seconds + 1⟩

/-- The later of the clock and the second after the previous time. -/
def after (now previous : Timestamp) : Timestamp :=
  if now.seconds ≤ previous.next.seconds then previous.next else now

/-- The moment laid out by a pattern. -/
def format (pattern : String) (t : Timestamp) : String := (t.toMoment.format? pattern).getD ""

/-- The date and time as text. -/
def display (t : Timestamp) : String := t.format "%Y-%m-%d %H:%M:%S"

end Timestamp

/-- A publication date. -/
inductive PublishDate where
  | text (text : String)
  | timestamp (time : Timestamp)
  deriving DecidableEq, Repr

namespace PublishDate

/-- What marks a point in time in storage. -/
def timestampPrefix : String := "ts:"

/-- What follows the mark of a point in time. -/
def afterPrefix? (s : String) : Option (List Char) :=
  if timestampPrefix.toList.isPrefixOf s.toList then
    some (s.toList.drop timestampPrefix.toList.length)
  else none

/-- The stored form. -/
def encode : PublishDate → String
  | text s => s
  | timestamp t => timestampPrefix ++ writeInt64 t.seconds

/-- The date of a stored form: text unless a number follows the mark. -/
def decode (s : String) : PublishDate :=
  match (afterPrefix? s).bind readInt64? with
  | some seconds => timestamp ⟨seconds⟩
  | none => text s

/-- The date as text. -/
def display : PublishDate → String
  | text s => s
  | timestamp t => t.format "%Y-%m-%d"

end PublishDate

/-- The value of a field, as callers see it. -/
inductive FieldValue where
  | null
  | text (text : String)
  | integer (value : Int64)
  | boolean (value : Bool)
  | timestamp (time : Timestamp)
  | publishDate (date : PublishDate)
  deriving DecidableEq, Repr

namespace FieldValue

/-- The type of the value as it is called in messages. -/
def typeName : FieldValue → String
  | null => "null"
  | text _ => "text"
  | integer _ => "integer"
  | boolean _ => "boolean"
  | timestamp _ => "timestamp"
  | publishDate _ => "publish date"

/-- The text of a value that is text. -/
def text? : FieldValue → Option String
  | text s => some s
  | _ => none

/-- The value of an optional field. -/
def ofOption {α : Type} (f : α → FieldValue) : Option α → FieldValue
  | some a => f a
  | none => null

/-- A character of a quoted description. -/
def describeChar (c : Char) : List Char :=
  if c = '"' then ['\\', '"']
  else if c = '\\' then ['\\', '\\']
  else if c = '\n' then ['\\', 'n']
  else if c = '\r' then ['\\', 'r']
  else if c = '\t' then ['\\', 't']
  else if c = '\x00' then ['\\', '0']
  else if isShapeless c then
    '\\' :: 'u' :: '\x7b' :: Nat.toDigits 16 c.toNat ++ ['\x7d']
  else [c]

/-- A quoted description of a text. -/
def describeText (s : String) : String :=
  "\"" ++ String.ofList (s.toList.flatMap describeChar) ++ "\""

/-- A description of a point in time. -/
def describeTime (t : Timestamp) : String := "Timestamp(" ++ writeInt64 t.seconds ++ ")"

/-- A description of the value and its type. -/
def describe : FieldValue → String
  | null => "Null"
  | text s => "Text(" ++ describeText s ++ ")"
  | integer i => "Integer(" ++ writeInt64 i ++ ")"
  | boolean b => "Boolean(" ++ (if b then "true" else "false") ++ ")"
  | timestamp t => "Timestamp(" ++ describeTime t ++ ")"
  | publishDate (.text s) => "PublishDate(Text(" ++ describeText s ++ "))"
  | publishDate (.timestamp t) => "PublishDate(Timestamp(" ++ describeTime t ++ "))"

end FieldValue

end Shelfmark
