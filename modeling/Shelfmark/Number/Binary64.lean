import Shelfmark.Number.Power

/-!
# Double-precision numbers

Numbers of the label language are doubles. They are kept as exact data, a sign,
a mantissa and a power of two, and every operation is the exact rational result
rounded once, to the nearest double and in a tie to the even mantissa. So all
of this arithmetic is arithmetic of `Nat`, and nothing is left to the machine.

A finite number is in *canonical* form: its mantissa is below `2 ^ 53`, its
exponent is at least `-1074`, and one of the two is as tight as it can be. The
functions here build numbers through `ofRatio`, which yields that form.
-/

namespace Shelfmark

/-- A double: `finite s m e` is `m * 2 ^ e`, negated when `s` holds. -/
inductive Binary64 where
  | nan
  | infinite (negative : Bool)
  | finite (negative : Bool) (mantissa : Nat) (exponent : Int)
  deriving DecidableEq, Repr

namespace Binary64

/-- The least exponent of a double. -/
def minExponent : Int := -1074

/-- The largest exponent of a double. -/
def maxExponent : Int := 971

/-- `num / den` rounded to the nearest integer, in a tie to the even one. -/
def divNearest (num den : Nat) : Nat :=
  let q := num / den
  let r := num % den
  if 2 * r < den then q
  else if den < 2 * r then q + 1
  else if q % 2 = 0 then q else q + 1

/-- `num / den` divided by `2 ^ e`, as numerator and denominator. -/
def scaleDown (num den : Nat) (e : Int) : Nat × Nat :=
  if 0 ≤ e then (num, den * twoPow e.toNat) else (num * twoPow (-e).toNat, den)

/-- The double nearest to `num / den`, for a positive `den`. -/
def ofRatio (negative : Bool) (num den : Nat) : Binary64 :=
  if num = 0 then finite negative 0 minExponent
  else
    let e := max ((Nat.log2 num : Int) - (Nat.log2 den : Int) - 53) minExponent
    let (n, d) := scaleDown num den e
    let e := if twoPow 53 ≤ n / d then e + 1 else e
    let (n, d) := scaleDown num den e
    let m := divNearest n d
    let (m, e) := if m = twoPow 53 then (twoPow 52, e + 1) else (m, e)
    if maxExponent < e then infinite negative else finite negative m e

/-- The double nearest to `s * 2 ^ e`; zero takes the given sign. -/
def ofScaled (s : Int) (e : Int) (zeroSign : Bool) : Binary64 :=
  let negative := if s = 0 then zeroSign else s < 0
  if 0 ≤ e then ofRatio negative (s.natAbs * twoPow e.toNat) 1
  else ofRatio negative s.natAbs (twoPow (-e).toNat)

/-- The double nearest to an integer. -/
def ofInt (i : Int) : Binary64 := ofRatio (i < 0) i.natAbs 1

/-- The double nearest to `m * 10 ^ e`. Numerals far outside the range of the
doubles are settled by their number of digits. -/
def ofDecimal (negative : Bool) (m : Nat) (e : Int) : Binary64 :=
  let digits : Int := (Nat.toDigits 10 m).length
  if m = 0 then finite negative 0 minExponent
  else if 400 < digits + e then infinite negative
  else if digits + e < -400 then finite negative 0 minExponent
  else if 0 ≤ e then ofRatio negative (m * tenPow e.toNat) 1
  else ofRatio negative m (tenPow (-e).toNat)

/-- The number with the other sign. -/
def neg : Binary64 → Binary64
  | nan => nan
  | infinite s => infinite !s
  | finite s m e => finite (!s) m e

/-- The signed mantissa. -/
def signed (negative : Bool) (m : Nat) : Int := if negative then -(m : Int) else m

/-- The sum. Opposite infinities have none; a sum of zero is negative only when
both terms are. -/
def add : Binary64 → Binary64 → Binary64
  | nan, _ => nan
  | _, nan => nan
  | infinite s, infinite t => if s = t then infinite s else nan
  | infinite s, finite .. => infinite s
  | finite .., infinite t => infinite t
  | finite s m e, finite t n f =>
      let low := min e f
      let sum := signed s m * twoPow (e - low).toNat + signed t n * twoPow (f - low).toNat
      ofScaled sum low (s && t)

/-- The difference. -/
def sub (a b : Binary64) : Binary64 := add a (neg b)

/-- The quotient. Zero over zero and infinity over infinity have none. -/
def div : Binary64 → Binary64 → Binary64
  | nan, _ => nan
  | _, nan => nan
  | infinite _, infinite _ => nan
  | infinite s, finite t _ _ => infinite (s != t)
  | finite s _ _, infinite t => finite (s != t) 0 minExponent
  | finite s m e, finite t n f =>
      if n = 0 then (if m = 0 then nan else infinite (s != t))
      else if f ≤ e then ofRatio (s != t) (m * twoPow (e - f).toNat) n
      else ofRatio (s != t) m (n * twoPow (f - e).toNat)

/-- The integer part, or `none` of what is not finite. -/
def truncate? : Binary64 → Option Int
  | finite s m e =>
      let whole := if 0 ≤ e then m * twoPow e.toNat else m / twoPow (-e).toNat
      some (signed s whole)
  | _ => none

/-- The integer part as a signed word of 64 bits: the nearest word when it does
not fit, zero for what is not a number. -/
def toInt64 : Binary64 → Int
  | nan => 0
  | infinite s => (if s then Int64.minValue else Int64.maxValue).toInt
  | finite s m e =>
      let whole := if 0 ≤ e then m * twoPow e.toNat else m / twoPow (-e).toNat
      max Int64.minValue.toInt (min (signed s whole) Int64.maxValue.toInt)

/-- Whether the number is finite and has no fraction. -/
def isWhole : Binary64 → Bool
  | finite _ m e => 0 ≤ e || m % twoPow (-e).toNat == 0
  | _ => false

/-- Whether the number is less than zero; a negative zero is not. -/
def isNegative : Binary64 → Bool
  | nan => false
  | infinite s => s
  | finite s m _ => s && m != 0

/-- Whether the magnitude is less than `bound`. -/
def absBelow (bound : Nat) : Binary64 → Bool
  | finite _ m e =>
      if 0 ≤ e then m * twoPow e.toNat < bound else m < bound * twoPow (-e).toNat
  | _ => false

/-- Whether the number is greater than `bound`. -/
def exceeds (bound : Nat) : Binary64 → Bool
  | nan => false
  | infinite s => !s
  | finite s m e =>
      !s && (if 0 ≤ e then bound < m * twoPow e.toNat else bound * twoPow (-e).toNat < m)

/-- The order of two numbers, or `none` when one is no number. -/
def compare? : Binary64 → Binary64 → Option Ordering
  | nan, _ => none
  | _, nan => none
  | infinite s, infinite t => some (compare (!s).toNat (!t).toNat)
  | infinite s, finite .. => some (if s then .lt else .gt)
  | finite .., infinite t => some (if t then .gt else .lt)
  | finite s m e, finite t n f =>
      let low := min e f
      some (compare (signed s m * twoPow (e - low).toNat) (signed t n * twoPow (f - low).toNat))

/-- The word of 64 bits that encodes the number, or `none` for what is no number. -/
def toBits? : Binary64 → Option Nat
  | nan => none
  | infinite s => some (s.toNat * twoPow 63 + 2047 * twoPow 52)
  | finite s m e =>
      let sign := s.toNat * twoPow 63
      if m < twoPow 52 then some (sign + m)
      else some (sign + (e + 1075).toNat * twoPow 52 + (m - twoPow 52))

end Binary64

end Shelfmark
