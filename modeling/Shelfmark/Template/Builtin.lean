import Shelfmark.Number.Numeral
import Shelfmark.Template.Value
import Shelfmark.Text.Alphabetic
import Shelfmark.Text.Case

/-!
# The stock functions of labels

A function takes a list of values. Used as a filter it finds the value so far at
the head of that list, so a filter and a call with one more argument are the
same thing. Surplus arguments are ignored.

The only function results that depend on anything but the arguments are those
that read the clock, which is passed in.
-/

namespace Shelfmark.Template

open Shelfmark.Text
open Shelfmark.Calendar

/-- Why a function has no result. -/
inductive FunctionFault where
  | arity (expected got : Nat)
  | notANumber (what shown : String)
  | notWhole (what shown : String)
  | tooLarge (what : String) (limit : Nat) (shown : String)
  | notANumeral (shown : String)
  | notADate (shown : String)
  | notAPattern (shown : String)
  | emptyFill
  | refused (message : String)
  deriving DecidableEq, Repr

/-- The wording of a cause. -/
def FunctionFault.message : FunctionFault → String
  | arity expected got =>
      "expected " ++ Nat.repr expected ++ " arguments, got " ++ Nat.repr got
  | notANumber what shown => what ++ " '" ++ shown ++ "' is not a number"
  | notWhole what shown => what ++ " must be a whole number, got " ++ shown
  | tooLarge what limit shown =>
      what ++ " must not exceed " ++ Nat.repr limit ++ ", got " ++ shown
  | notANumeral shown => "'" ++ shown ++ "' is not a number"
  | notADate shown => "'" ++ shown ++ "' is not a date"
  | notAPattern shown => "'" ++ shown ++ "' is not a date pattern"
  | emptyFill => "fill must not be empty"
  | refused message => message

/-- The result of a function. -/
abbrev FunctionResult := Except FunctionFault Value

/-- The head value, if there is one, in front of the arguments. -/
def withHead (head : Option Value) (args : List Value) : List Value := head.toList ++ args

/-- Fails unless at least `expected` arguments are present. -/
def need (args : List Value) (expected : Nat) : Except FunctionFault Unit :=
  if args.length < expected then .error (.arity expected args.length) else .ok ()

/-- The number that an argument stands for. -/
def numberArgument (v : Value) (what : String) : Except FunctionFault Binary64 :=
  match v.toNumber? with
  | some x => .ok x
  | none => .error (.notANumber what v.display)

/-- The moment that an argument stands for. -/
def dateArgument (v : Value) : Except FunctionFault Moment :=
  match v.toMoment? with
  | some m => .ok m
  | none => .error (.notADate v.display)

/-- The whole number from 0 to `limit` that an argument stands for. -/
def countArgument (v : Value) (what : String) (limit : Nat) : Except FunctionFault Nat := do
  let x ← numberArgument v what
  if x.isNegative || !x.isWhole then throw (.notWhole what v.display)
  if x.exceeds limit then throw (.tooLarge what limit v.display)
  return x.toInt64.toNat

/-- The widest padding. -/
def maxWidth : Nat := 4096

/-- The most digits after the point. -/
def maxDecimals : Nat := 64

/-- The most words of filler text. -/
def maxWords : Nat := 1000

/-! ## Text -/

/-- Capitals at the start of words, small letters elsewhere. Words end at blanks
and dashes; other characters that are neither letter nor digit do not end one. -/
def properFrom (wordStart : Bool) : List Char → List Char
  | [] => []
  | c :: cs =>
      if isAlphanumeric c then
        (if wordStart then upperChar c else lowerChar c) ++ properFrom false cs
      else c :: properFrom (isBlank c || c = '-') cs

/-- The pattern with the value in place of every `@`. -/
def wrapText (value pattern : String) : String :=
  String.ofList (pattern.toList.flatMap fun c => if c = '@' then value.toList else [c])

/-- The side of a text on which padding goes. -/
inductive Side where
  | left
  | right
  deriving DecidableEq, Repr

/-- A value padded to a width with the first character of the fill, a blank
unless given. -/
def padValue (side : Side) (args : List Value) : FunctionResult :=
  match args with
  | value :: width :: rest => do
      let shown := value.display
      let width ← countArgument width "width" maxWidth
      let fill ←
        match rest.head? with
        | none => .ok ' '
        | some fill =>
            match fill.display.toList.head? with
            | some c => .ok c
            | none => .error .emptyFill
      let padding := List.replicate (width - shown.toList.length) fill
      return .text (String.ofList
        (match side with
        | .left => padding ++ shown.toList
        | .right => shown.toList ++ padding))
  | _ => .error (.arity 2 args.length)

/-- The words of the filler text. -/
def fillerWords : List String :=
  ["lorem", "ipsum", "dolor", "sit", "amet", "consectetur", "adipiscing", "elit", "sed", "do",
    "eiusmod", "tempor", "incididunt", "ut", "labore", "et", "dolore", "magna", "aliqua"]

/-- That many words, over and over again. -/
def fillerText (words : Nat) : String :=
  " ".intercalate
    ((List.range words).map fun i => (fillerWords[i % fillerWords.length]?).getD "")

/-! ## Dates -/

/-- The tokens of simple date patterns and the directives they stand for, the
longer before the shorter. -/
def dateTokens : List (String × String) :=
  [("YYYY", "%Y"), ("YY", "%y"), ("MMMM", "%B"), ("MMM", "%b"), ("MM", "%m"), ("M", "%-m"),
    ("DD", "%d"), ("D", "%-d"), ("HH", "%H"), ("H", "%-H"), ("mm", "%M"), ("ss", "%S")]

/-- The first of the date tokens that the characters start with. -/
def dateTokenAt? (cs : List Char) : Option (String × String) :=
  dateTokens.find? fun token => token.1.toList.isPrefixOf cs

/-- Replaces date tokens from left to right; the first `skip` characters belong to
a token that has been replaced. -/
def replaceDateTokens : Nat → List Char → List Char
  | _, [] => []
  | skip + 1, _ :: cs => replaceDateTokens skip cs
  | 0, c :: cs =>
      match dateTokenAt? (c :: cs) with
      | some (token, directive) =>
          directive.toList ++ replaceDateTokens (token.toList.length - 1) cs
      | none => c :: replaceDateTokens 0 cs

/-- The pattern of directives that a pattern stands for: itself if it has a
percent sign, and otherwise what its date tokens say. -/
def directivePattern (pattern : String) : String :=
  if pattern.toList.contains '%' then pattern
  else String.ofList (replaceDateTokens 0 pattern.toList)

/-- A date laid out by a pattern of directives or of date tokens. -/
def formatDate (date pattern : Value) : FunctionResult := do
  let m ← dateArgument date
  let pattern := directivePattern pattern.display
  match m.format? pattern with
  | some s => return .text s
  | none => throw (.notAPattern pattern)

/-! ## Numbers -/

/-- The digits of a number argument: those of a text as they stand, those of a
number as it is shown. -/
def digitsOf (v : Value) : Except FunctionFault (List Char) :=
  match v with
  | .text s => .ok (trimChars s.toList)
  | v => do
      let x ← numberArgument v "value"
      return (Value.number x).display.toList

/-- A number rounded to a count of decimals, a half away from zero. -/
def formatNumber (value decimals : Value) : FunctionResult := do
  let places ← countArgument decimals "decimals" maxDecimals
  let digits ← digitsOf value
  match Numeral.read? digits with
  | some x => return .text (String.ofList (x.roundTo places).write)
  | none => throw (.notANumeral (String.ofList digits))

/-! ## The functions by name -/

/-- The stock functions. -/
inductive Builtin where
  | filler
  | add
  | fallback
  | formatDate
  | formatNumber
  | join
  | list
  | lowercase
  | now
  | padLeft
  | padRight
  | propercase
  | sub
  | trim
  | uppercase
  | utc
  | wrap
  deriving DecidableEq, Repr

namespace Builtin

/-- All stock functions, in the order of their names. -/
def all : List Builtin :=
  [filler, add, fallback, formatDate, formatNumber, join, list, lowercase, now, padLeft, padRight,
    propercase, sub, trim, uppercase, utc, wrap]

/-- The name by which a label calls the function. -/
def name : Builtin → String
  | filler => "_lorem"
  | add => "add"
  | fallback => "def"
  | formatDate => "format_date"
  | formatNumber => "format_num"
  | join => "join"
  | list => "list"
  | lowercase => "lowercase"
  | now => "now"
  | padLeft => "pad_left"
  | padRight => "pad_right"
  | propercase => "propercase"
  | sub => "sub"
  | trim => "trim"
  | uppercase => "uppercase"
  | utc => "utc"
  | wrap => "wrap"

/-- The function with a name, in lower case. -/
def ofName? (name : String) : Option Builtin := all.find? fun b => b.name = name

/-- Whether the function may read the clock. -/
def readsClock : Builtin → Bool
  | now => true
  | utc => true
  | _ => false

/-- The result of the function. The least number of arguments is checked first. -/
def call (clock : Moment) (args : List Value) : Builtin → FunctionResult
  | filler =>
      match args.getLast? with
      | none => .ok (.text (fillerText 8))
      | some words => (countArgument words "words" maxWords).map fun n => .text (fillerText n)
  | add =>
      match args with
      | a :: b :: _ => do
          let x ← numberArgument a "left operand"
          let y ← numberArgument b "right operand"
          return .number (x.add y)
      | _ => .error (.arity 2 args.length)
  | fallback =>
      match args with
      | a :: b :: _ => .ok (if a.isEmpty then b else a)
      | _ => .error (.arity 2 args.length)
  | formatDate =>
      match args with
      | a :: b :: _ => Template.formatDate a b
      | _ => .error (.arity 2 args.length)
  | formatNumber =>
      match args with
      | a :: b :: _ => Template.formatNumber a b
      | _ => .error (.arity 2 args.length)
  | join =>
      match args with
      | [] => .error (.arity 1 0)
      | v :: rest =>
          let separator := (rest.head?.map Value.display).getD defaultListSeparator
          match v with
          | .list items => .ok (.text (separator.intercalate (items.map Value.display)))
          | v => .ok (.text v.display)
  | list => .ok (.list args)
  | lowercase =>
      match args with
      | v :: _ => .ok (.text (Text.lowercase v.display))
      | [] => .error (.arity 1 0)
  | now => .ok (.date clock)
  | padLeft => padValue .left args
  | padRight => padValue .right args
  | propercase =>
      match args with
      | v :: _ => .ok (.text (String.ofList (properFrom true v.display.toList)))
      | [] => .error (.arity 1 0)
  | sub =>
      match args with
      | a :: b :: _ => do
          let x ← numberArgument a "left operand"
          let y ← numberArgument b "right operand"
          return .number (x.sub y)
      | _ => .error (.arity 2 args.length)
  | trim =>
      match args with
      | v :: _ => .ok (.text (Text.trim v.display))
      | [] => .error (.arity 1 0)
  | uppercase =>
      match args with
      | v :: _ => .ok (.text (Text.uppercase v.display))
      | [] => .error (.arity 1 0)
  | utc =>
      match args with
      | [] => .ok (.date clock.toUniversal)
      | v :: _ => (dateArgument v).map fun m => .date m.toUniversal
  | wrap =>
      match args with
      | value :: pattern :: _ => .ok (.text (wrapText value.display pattern.display))
      | _ => .error (.arity 2 args.length)

end Builtin

end Shelfmark.Template
