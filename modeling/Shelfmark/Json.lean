import Shelfmark.Number.Binary64Text

/-!
# JSON data

Settings files are JSON, and labels show nested data as compact JSON. Numbers
without point and exponent that fit 64 bits are integers; all others are
doubles. The fields of an object are kept in the order of their names, so an
object has one written form; of several fields with one name the last counts.
-/

namespace Shelfmark

open Shelfmark.Text

/-- A JSON value. Fields of an object stand in ascending order of their names. -/
inductive Json where
  | null
  | bool (value : Bool)
  | integer (value : Int)
  | number (value : Binary64)
  | text (value : String)
  | list (items : List Json)
  | object (fields : List (String × Json))
  deriving Inhabited, Repr

namespace Json

/-- Adds a field at its place; it replaces one of the same name. -/
def insertField (name : String) (value : Json) : List (String × Json) → List (String × Json)
  | [] => [(name, value)]
  | (n, v) :: rest =>
      if name = n then (name, value) :: rest
      else if name < n then (name, value) :: (n, v) :: rest
      else (n, v) :: insertField name value rest

/-- The object with the given fields. -/
def ofFields (fields : List (String × Json)) : Json :=
  object (fields.foldl (fun sorted field => insertField field.1 field.2 sorted) [])

/-- The value of a field; `none` for other data and for an absent field. -/
def field? : Json → String → Option Json
  | object fields, name => fields.lookup name
  | _, _ => none

/-! ## Writing -/

/-- The hexadecimal digits of `n`, at least `width` of them. -/
def hexDigits (width n : Nat) : List Char := padStart '0' width (Nat.toDigits 16 n)

/-- A character inside a quoted text. -/
def escapeChar (c : Char) : List Char :=
  if c = '"' then ['\\', '"']
  else if c = '\\' then ['\\', '\\']
  else if c = '\n' then ['\\', 'n']
  else if c = '\r' then ['\\', 'r']
  else if c = '\t' then ['\\', 't']
  else if c = '\x08' then ['\\', 'b']
  else if c = '\x0c' then ['\\', 'f']
  else if c.toNat < 0x20 then '\\' :: 'u' :: hexDigits 4 c.toNat
  else [c]

/-- A quoted text. -/
def quoted (s : String) : String := "\"" ++ String.ofList (s.toList.flatMap escapeChar) ++ "\""

mutual

/-- The value as text without blanks. A number that is not finite has no literal
and is written as null. -/
def write : Json → String
  | null => "null"
  | bool b => if b then "true" else "false"
  | integer i => writeInt i
  | number x =>
      match x.literal? with
      | some digits => String.ofList digits
      | none => "null"
  | text s => quoted s
  | list items => "[" ++ ",".intercalate (writeItems items) ++ "]"
  | object fields => "\x7b" ++ ",".intercalate (writeFields fields) ++ "\x7d"

/-- The items of a list, each as text. -/
def writeItems : List Json → List String
  | [] => []
  | item :: rest => write item :: writeItems rest

/-- The fields of an object, each as text. -/
def writeFields : List (String × Json) → List String
  | [] => []
  | (name, value) :: rest => (quoted name ++ ":" ++ write value) :: writeFields rest

end

/-! ## Reading -/

/-- Blanks between tokens. -/
def isSpace (c : Char) : Bool := c = ' ' || c = '\n' || c = '\t' || c = '\r'

/-- The rest of the text after the blanks. -/
def skipSpace (cs : List Char) : List Char := cs.dropWhile isSpace

/-- The value of a hexadecimal digit. -/
def hexValue? (c : Char) : Option Nat :=
  if c.isDigit then some (c.toNat - '0'.toNat)
  else if 'a' ≤ c && c ≤ 'f' then some (c.toNat - 'a'.toNat + 10)
  else if 'A' ≤ c && c ≤ 'F' then some (c.toNat - 'A'.toNat + 10)
  else none

/-- Four hexadecimal digits and what follows them. -/
def readHex4? : List Char → Option (Nat × List Char)
  | a :: b :: c :: d :: rest => do
      let a ← hexValue? a
      let b ← hexValue? b
      let c ← hexValue? c
      let d ← hexValue? d
      return (((a * 16 + b) * 16 + c) * 16 + d, rest)
  | _ => none

/-- The character of a numeric escape and what follows it. Characters beyond
16 bits are written as two escapes. -/
def readUnit? (cs : List Char) : Option (Char × List Char) := do
  let (high, rest) ← readHex4? cs
  if 0xD800 ≤ high && high ≤ 0xDBFF then
    match rest with
    | '\\' :: 'u' :: after =>
        let (low, rest) ← readHex4? after
        if 0xDC00 ≤ low && low ≤ 0xDFFF then
          return (Char.ofNat (0x10000 + (high - 0xD800) * 0x400 + (low - 0xDC00)), rest)
        else none
    | _ => none
  else if 0xDC00 ≤ high && high ≤ 0xDFFF then none
  else return (Char.ofNat high, rest)

/-- The character of a short escape. -/
def shortEscape? (c : Char) : Option Char :=
  match c with
  | '"' => some '"'
  | '\\' => some '\\'
  | '/' => some '/'
  | 'b' => some '\x08'
  | 'f' => some '\x0c'
  | 'n' => some '\n'
  | 'r' => some '\r'
  | 't' => some '\t'
  | _ => none

/-- Reads a text up to its closing quote; `before` holds what was read, last
character first. -/
def readText? : Nat → List Char → List Char → Option (String × List Char)
  | 0, _, _ => none
  | _ + 1, _, [] => none
  | fuel + 1, before, c :: cs =>
      if c = '"' then some (String.ofList before.reverse, cs)
      else if c = '\\' then
        match cs with
        | 'u' :: after =>
            match readUnit? after with
            | some (u, rest) => readText? fuel (u :: before) rest
            | none => none
        | e :: rest =>
            match shortEscape? e with
            | some u => readText? fuel (u :: before) rest
            | none => none
        | [] => none
      else if c.toNat < 0x20 then none
      else readText? fuel (c :: before) cs

/-- Integers that fit an unsigned or a signed word of 64 bits. -/
def fitsWord (i : Int) : Bool := Int64.minValue.toInt ≤ i && i < UInt64.size

/-- The number with the given sign, digits, fraction and exponent. `fraction` and
`exponent` are `none` where the text has none. Overflow is an error. -/
def numberOf? (negative : Bool) (whole : List Char) (fraction : Option (List Char))
    (exponent : Option Int) : Option Json :=
  let value := Nat.ofDigitChars 10 whole 0
  let signed : Int := if negative then -(value : Int) else value
  if fraction.isNone && exponent.isNone && fitsWord signed && !(negative && value = 0) then
    some (integer signed)
  else
    let digits := fraction.getD []
    match Binary64.ofDecimal negative (Nat.ofDigitChars 10 (whole ++ digits) 0)
        (exponent.getD 0 - digits.length) with
    | .finite s m e => some (number (.finite s m e))
    | _ => none

/-- Reads a number and returns what follows it. -/
def readNumber? (cs : List Char) : Option (Json × List Char) := do
  let (negative, cs) :=
    match cs with
    | '-' :: rest => (true, rest)
    | _ => (false, cs)
  let whole := cs.takeWhile Char.isDigit
  let rest := cs.dropWhile Char.isDigit
  if whole.isEmpty || (whole.length > 1 && whole.head? = some '0') then none
  let (fraction, rest) ←
    match rest with
    | '.' :: after =>
        if (after.takeWhile Char.isDigit).isEmpty then none
        else some (some (after.takeWhile Char.isDigit), after.dropWhile Char.isDigit)
    | _ => some (none, rest)
  let (exponent, rest) ←
    match rest with
    | c :: after =>
        if c = 'e' || c = 'E' then
          let (negative, after) := Binary64.splitSign after
          match readNat? (after.takeWhile Char.isDigit) with
          | some e =>
              some (some (if negative then -(e : Int) else e), after.dropWhile Char.isDigit)
          | none => none
        else some (none, rest)
    | [] => some (none, rest)
  let value ← numberOf? negative whole fraction exponent
  return (value, rest)

mutual

/-- Reads a value and returns what follows it. At most `depth` lists and objects
enclose one another. -/
def readValue? : Nat → Nat → List Char → Option (Json × List Char)
  | 0, _, _ => none
  | fuel + 1, depth, cs =>
      match skipSpace cs with
      | 'n' :: 'u' :: 'l' :: 'l' :: rest => some (null, rest)
      | 't' :: 'r' :: 'u' :: 'e' :: rest => some (bool true, rest)
      | 'f' :: 'a' :: 'l' :: 's' :: 'e' :: rest => some (bool false, rest)
      | '"' :: rest => (readText? (rest.length + 1) [] rest).map fun (s, rest) => (text s, rest)
      | '[' :: rest =>
          if depth = 0 then none
          else
            match skipSpace rest with
            | ']' :: rest => some (list [], rest)
            | rest => (readItems? fuel (depth - 1) rest).map fun (items, rest) => (list items, rest)
      | '\x7b' :: rest =>
          if depth = 0 then none
          else
            match skipSpace rest with
            | '\x7d' :: rest => some (object [], rest)
            | rest =>
                (readFields? fuel (depth - 1) [] rest).map fun (fields, rest) =>
                  (object fields, rest)
      | rest => readNumber? rest

/-- Reads the items of a list up to its end. -/
def readItems? : Nat → Nat → List Char → Option (List Json × List Char)
  | 0, _, _ => none
  | fuel + 1, depth, cs =>
      match readValue? fuel depth cs with
      | none => none
      | some (item, rest) =>
          match skipSpace rest with
          | ',' :: rest =>
              (readItems? fuel depth rest).map fun (items, rest) => (item :: items, rest)
          | ']' :: rest => some ([item], rest)
          | _ => none

/-- Reads the fields of an object up to its end, adding them to `fields`. -/
def readFields? : Nat → Nat → List (String × Json) → List Char →
    Option (List (String × Json) × List Char)
  | 0, _, _, _ => none
  | fuel + 1, depth, fields, cs =>
      match skipSpace cs with
      | '"' :: rest =>
          match readText? (rest.length + 1) [] rest with
          | none => none
          | some (name, rest) =>
              match skipSpace rest with
              | ':' :: rest =>
                  match readValue? fuel depth rest with
                  | none => none
                  | some (value, rest) =>
                      let fields := insertField name value fields
                      match skipSpace rest with
                      | ',' :: rest => readFields? fuel depth fields rest
                      | '\x7d' :: rest => some (fields, rest)
                      | _ => none
              | _ => none
      | _ => none

end

/-- The deepest nesting that is read. -/
def maxDepth : Nat := 127

/-- The value that makes up the whole text. Every step of reading consumes a
character or hands over to one that does, which bounds the fuel. -/
def read? (s : String) : Option Json :=
  let cs := s.toList
  match readValue? (2 * cs.length + 2) maxDepth cs with
  | some (value, rest) => if (skipSpace rest).isEmpty then some value else none
  | none => none

end Json

end Shelfmark
