import Shelfmark.Number.Power
import Shelfmark.Text.Digits

/-!
# Decimal numerals

A numeral is an exact decimal: an integer and the number of its digits that
stand after the point. Prices, indices and sizes that users type are rounded in
this form, so that no binary fraction gets in between.

Reading admits more than writing produces: underscores between digits, a plus
sign, a missing side of the point, and an exponent.
-/

namespace Shelfmark

/-- The decimal `coefficient * 10 ^ (-scale)`. -/
structure Numeral where
  coefficient : Int
  scale : Int
  deriving DecidableEq, Repr

namespace Numeral

open Shelfmark.Text

/-- The value of digits and underscores; the first character is a digit. -/
def readGrouped? : List Char → Option Nat
  | [] => none
  | '_' :: _ => none
  | cs =>
      let digits := cs.filter (· != '_')
      if digits.all Char.isDigit then some (Nat.ofDigitChars 10 digits 0) else none

/-- The value of grouped digits after an optional sign. -/
def readGroupedInt? : List Char → Option Int
  | '-' :: cs => (readGrouped? cs).map fun n => -(n : Int)
  | '+' :: cs => (readGrouped? cs).map fun n => (n : Int)
  | cs => (readGrouped? cs).map fun n => (n : Int)

/-- The coefficient as it is read once the point is taken out, so a sign may also
stand right behind a point that nothing precedes. -/
def readCoefficient? : List Char → Option Int
  | '-' :: '+' :: _ => none
  | cs => readGroupedInt? cs

/-- The numeral written in `cs`: a signed decimal and an optional exponent. -/
def read? (cs : List Char) : Option Numeral :=
  let isMark (c : Char) : Bool := c = 'e' || c = 'E'
  let base := cs.takeWhile (!isMark ·)
  let exponent :=
    match cs.dropWhile (!isMark ·) with
    | [] => some 0
    | _ :: after => readInt? after
  let whole := base.takeWhile (· != '.')
  let fraction := (base.dropWhile (· != '.')).drop 1
  match exponent, readCoefficient? (whole ++ fraction) with
  | some e, some c =>
      let scale : Int := (fraction.filter (· != '_')).length - e
      if fitsInt64 scale then some ⟨c, scale⟩ else none
  | _, _ => none

/-- `n / 10 ^ drop` rounded to the nearest integer, a half away from zero. A
number with fewer than `drop` digits is less than a tenth. -/
def dropDigits (n : Nat) (drop : Nat) : Nat :=
  if (natDigits n).length < drop then 0
  else (2 * n + tenPow drop) / (2 * tenPow drop)

/-- The numeral with exactly `places` digits after the point, rounded to the
nearest, a half away from zero. What is zero before rounding has no places. -/
def roundTo (x : Numeral) (places : Nat) : Numeral :=
  if x.coefficient = 0 then ⟨0, 0⟩
  else if x.scale ≤ places then
    ⟨x.coefficient * tenPow ((places : Int) - x.scale).toNat, places⟩
  else
    let magnitude := dropDigits x.coefficient.natAbs (x.scale - places).toNat
    ⟨if x.coefficient < 0 then -(magnitude : Int) else magnitude, places⟩

/-- Digits with a point after the first, and the exponent that moves it back. -/
def scientific (digits : List Char) (scale : Int) : List Char :=
  let mantissa :=
    match digits with
    | c :: c' :: cs => c :: '.' :: c' :: cs
    | cs => cs
  mantissa ++ 'E' :: intDigits (digits.length - 1 - scale)

/-- Digits of which the last `scale` stand after the point. -/
def plain (digits : List Char) (scale : Nat) : List Char :=
  if scale = 0 then digits
  else
    let padded := padStart '0' (scale + 1) digits
    padded.take (padded.length - scale) ++ '.' :: padded.drop (padded.length - scale)

/-- The numeral as text. It is written out with all its places, except that a
number with more than five zeros between the point and its first digit takes an
exponent. -/
def write (x : Numeral) : List Char :=
  let digits := natDigits x.coefficient.natAbs
  let sign := if x.coefficient < 0 then ['-'] else []
  if 5 < x.scale - digits.length then sign ++ scientific digits x.scale
  else if 0 ≤ x.scale then sign ++ plain digits x.scale.toNat
  else sign ++ digits ++ List.replicate (-x.scale).toNat '0'

end Numeral

end Shelfmark
