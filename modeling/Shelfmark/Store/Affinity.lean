import Shelfmark.Number.Binary64Text
import Shelfmark.Record.Field

/-!
# Conversion of values to the type of a column

A column of text stores a number as its text. A column of integers stores a text
that spells a number, and a double without fraction, as a number. Whatever cannot
be converted is stored as it is.
-/

namespace Shelfmark

open Shelfmark.Text

/-- What a column prefers to store. -/
inductive Affinity where
  | text
  | integer
  deriving DecidableEq, Repr

/-- What the column of a field prefers to store. -/
def FieldType.affinity : FieldType → Affinity
  | rowId => .integer
  | timestamp => .integer
  | integer _ _ => .integer
  | index => .integer
  | boolean => .integer
  | _ => .text

/-- Blanks that may stand around a number. -/
def isNumberSpace (c : Char) : Bool := c = ' ' || ('\t' ≤ c && c ≤ '\r')

/-- The characters left when the blanks at both ends are removed. -/
def trimNumber (cs : List Char) : List Char :=
  ((cs.dropWhile isNumberSpace).reverse.dropWhile isNumberSpace).reverse

/-- A double without fraction as an integer, other than the least and the greatest. -/
def integerOfReal? (x : Binary64) : Option Int64 :=
  match x.truncate? with
  | some i => if x.isWhole && Int64.minValue.toInt < i && i < Int64.maxValue.toInt then some (Int64.ofInt i) else none
  | none => none

/-- The number that a text spells. -/
def numberOfText? (s : String) : Option Cell :=
  let cs := trimNumber s.toList
  match readInt64? cs with
  | some i => some (.integer i)
  | none =>
      let (negative, body) := Binary64.splitSign cs
      match Binary64.readDecimal? negative body with
      | some x =>
          match integerOfReal? x with
          | some i => some (.integer i)
          | none => some (.real x)
      | none => none

/-- A double rounded to fifteen digits, a half upwards: the digits and the power of
ten of the first. -/
def fifteenDigits (m : Nat) (e : Int) : List Char × Int :=
  let first := Binary64.magnitude m e
  let scale := 15 - first
  let (num, den) : Nat × Nat := if 0 ≤ e then (m * twoPow e.toNat, 1) else (m, twoPow (-e).toNat)
  let (num, den) :=
    if 0 ≤ scale then (num * tenPow scale.toNat, den) else (num, den * tenPow (-scale).toNat)
  let digits := natDigits ((2 * num + den) / (2 * den))
  (digits, first - 1 + (digits.length - 15 : Int))

/-- Digits without the zeros at their end, at least one of them. -/
def dropTrailingZeros (digits : List Char) : List Char :=
  match (digits.reverse.dropWhile (· = '0')).reverse with
  | [] => ['0']
  | kept => kept

/-- A double as stored text: fifteen digits, always with a point, and an exponent
from `10 ^ 15` on and below `10 ^ -4`. -/
def textOfReal : Binary64 → String
  | .nan => ""
  | .infinite negative => if negative then "-Inf" else "Inf"
  | .finite s m e =>
      let sign := Binary64.signChars s
      if m = 0 then String.ofList (sign ++ "0.0".toList)
      else
        let (digits, exponent) := fifteenDigits m e
        let kept := dropTrailingZeros digits
        let body :=
          if exponent < -4 || 14 < exponent then
            let tail := if kept.tail.isEmpty then ['0'] else kept.tail
            kept.take 1 ++ '.' :: tail ++
              'e' :: (if exponent < 0 then '-' else '+') ::
                padStart '0' 2 (natDigits exponent.natAbs)
          else if exponent < 0 then
            '0' :: '.' :: List.replicate (-exponent - 1).toNat '0' ++ kept
          else
            let whole := exponent.toNat + 1
            let padded := kept ++ List.replicate (whole + 1 - kept.length) '0'
            padded.take whole ++ '.' :: padded.drop whole
        String.ofList (sign ++ body)

/-- The value that a column stores for another. -/
def Affinity.apply : Affinity → Cell → Cell
  | .text, .integer i => .text (writeInt64 i)
  | .text, .real x => .text (textOfReal x)
  | .integer, .text s => (numberOfText? s).getD (.text s)
  | .integer, .real x =>
      match integerOfReal? x with
      | some i => .integer i
      | none => .real x
  | _, cell => cell

/-- A value as it can be stored at all: what is no number is nothing. -/
def Cell.storable : Cell → Cell
  | .real .nan => .null
  | cell => cell

end Shelfmark
