import Shelfmark.Number.Binary64
import Shelfmark.Text.Digits

/-!
# Doubles as text

Reading takes a decimal numeral, with or without point and exponent, and the
words for infinity and for what is no number. Writing finds the *shortest*
decimal that reads back: among the decimals with the fewest digits inside the
interval that rounds to the number, the one nearest to it.

Two layouts of those digits are used. Labels show them in full, never with an
exponent; where two decimals are equally near, they take the upper one. Data
that is written out again as source takes the even one, switches to an exponent
for very large and very small numbers, and always shows that the number is a
fraction.
-/

namespace Shelfmark.Binary64

open Shelfmark.Text

/-- The sign in front of a numeral, and what follows it. -/
def splitSign : List Char → Bool × List Char
  | '-' :: cs => (true, cs)
  | '+' :: cs => (false, cs)
  | cs => (false, cs)

/-- The exponent after an `e`; zero when there is none, `none` when it is malformed. -/
def readExponent? : List Char → Option Int
  | [] => some 0
  | c :: cs => if c = 'e' || c = 'E' then readInt? cs else none

/-- The decimal numeral in `cs`: digits with at most one point, at least one
digit, and an optional exponent. -/
def readDecimal? (negative : Bool) (cs : List Char) : Option Binary64 :=
  let whole := cs.takeWhile Char.isDigit
  let rest := cs.dropWhile Char.isDigit
  let (fraction, rest) :=
    match rest with
    | '.' :: after => (after.takeWhile Char.isDigit, after.dropWhile Char.isDigit)
    | _ => ([], rest)
  if whole.isEmpty && fraction.isEmpty then none
  else
    (readExponent? rest).map fun e =>
      ofDecimal negative (Nat.ofDigitChars 10 (whole ++ fraction) 0) (e - fraction.length)

/-- The number written in `cs`. -/
def read? (cs : List Char) : Option Binary64 :=
  let (negative, body) := splitSign cs
  match String.ofList (body.map Char.toLower) with
  | "inf" | "infinity" => some (infinite negative)
  | "nan" => some nan
  | _ => readDecimal? negative body

/-- A positive decimal: `digits * 10 ^ exponent`. -/
structure Decimal where
  digits : Nat
  exponent : Int
  deriving DecidableEq, Repr

/-- Which of two equally near decimals is taken. -/
inductive Tie where
  | upper
  | even
  deriving DecidableEq, Repr

/-- `a * 10 ^ k ≤ n / d`, or strictly when `strict` holds. -/
def gridBelow (a : Nat) (k : Int) (n d : Nat) (strict : Bool) : Bool :=
  let (l, r) := if 0 ≤ k then (a * tenPow k.toNat * d, n) else (a * d, n * tenPow (-k).toNat)
  if strict then l < r else l ≤ r

/-- `n / d ≤ a * 10 ^ k`, or strictly when `strict` holds. -/
def gridAbove (a : Nat) (k : Int) (n d : Nat) (strict : Bool) : Bool :=
  let (l, r) := if 0 ≤ k then (a * tenPow k.toNat * d, n) else (a * d, n * tenPow (-k).toNat)
  if strict then r < l else r ≤ l

/-- The decimals around `m * 2 ^ e` on the grid of `10 ^ k` that round to it, the
nearer one first chosen. The bounds of the rounding interval belong to it when
`m` is even. -/
def onGrid? (tie : Tie) (m : Nat) (e : Int) (k : Int) : Option Decimal :=
  let (unitNum, unitDen) : Nat × Nat :=
    if 0 ≤ e - 2 then (twoPow (e - 2).toNat, 1) else (1, twoPow (2 - e).toNat)
  let lowQuarters := if m = twoPow 52 && minExponent < e then 4 * m - 1 else 4 * m - 2
  let strict := m % 2 != 0
  let value := 4 * m * unitNum
  let (num, den) :=
    if 0 ≤ k then (value, unitDen * tenPow k.toNat) else (value * tenPow (-k).toNat, unitDen)
  let below := num / den
  let above := below + 1
  let belowFits := gridAbove below k (lowQuarters * unitNum) unitDen strict && below != 0
  let aboveFits := gridBelow above k ((4 * m + 2) * unitNum) unitDen strict
  let past := 2 * (num - below * den)
  let nearerBelow := past < den || (past == den && tie == .even && below % 2 == 0)
  if num % den = 0 then (if below = 0 then none else some ⟨below, k⟩)
  else if belowFits && (nearerBelow || !aboveFits) then some ⟨below, k⟩
  else if aboveFits then some ⟨above, k⟩
  else none

/-- The first decimal found on the grids from `k` downwards. -/
def firstOnGrid (tie : Tie) (m : Nat) (e : Int) : Nat → Int → Decimal
  | 0, k => ⟨0, k⟩
  | fuel + 1, k =>
      match onGrid? tie m e k with
      | some d => d
      | none => firstOnGrid tie m e fuel (k - 1)

/-- Removes the zeros at the end of the digits, at most `fuel` of them. -/
def dropZeros : Nat → Decimal → Decimal
  | 0, d => d
  | fuel + 1, d =>
      if d.digits % 10 = 0 && d.digits != 0 then
        dropZeros fuel ⟨d.digits / 10, d.exponent + 1⟩
      else d

/-- The power of ten just above `m * 2 ^ e`: the position of its first digit. -/
def magnitude (m : Nat) (e : Int) : Int :=
  let shifted :=
    if 0 ≤ e then m * twoPow e.toNat * tenPow 340 else m * tenPow 340 / twoPow (-e).toNat
  ((Nat.toDigits 10 shifted).length : Int) - 340

/-- The shortest decimal that reads back as `m * 2 ^ e`, for a positive `m`.
Seventeen digits always suffice. -/
def shortest (tie : Tie) (m : Nat) (e : Int) : Decimal :=
  dropZeros 20 (firstOnGrid tie m e 20 (magnitude m e - 1))

/-- Digits with a point in front of the last `places` of them. -/
def withPoint (digits : List Char) (places : Nat) : List Char :=
  let padded := padStart '0' (places + 1) digits
  padded.take (padded.length - places) ++ '.' :: padded.drop (padded.length - places)

/-- A decimal in full, without exponent. -/
def Decimal.positional (d : Decimal) : List Char :=
  if 0 ≤ d.exponent then natDigits d.digits ++ List.replicate d.exponent.toNat '0'
  else withPoint (natDigits d.digits) (-d.exponent).toNat

/-- The text of a sign. -/
def signChars (negative : Bool) : List Char := if negative then ['-'] else []

/-- The number in full, with the fewest digits that read back. -/
def positional : Binary64 → List Char
  | nan => "NaN".toList
  | infinite s => signChars s ++ "inf".toList
  | finite s m e =>
      signChars s ++ (if m = 0 then ['0'] else (shortest .upper m e).positional)

/-- An exponent as source text: signed, with at least two digits. -/
def exponentChars (e : Int) : List Char :=
  'e' :: (if e < 0 then '-' else '+') :: padStart '0' 2 (natDigits e.natAbs)

/-- A decimal as source text: always with a point or an exponent. The exponent
appears when the first digit stands at `10 ^ 16` or above, or below `10 ^ -5`. -/
def Decimal.literal (d : Decimal) : List Char :=
  let digits := natDigits d.digits
  let first : Int := digits.length + d.exponent
  if 0 ≤ d.exponent && first ≤ 16 then d.positional ++ ['.', '0']
  else if -5 < first && first ≤ 16 then d.positional
  else
    let mantissa :=
      match digits with
      | c :: c' :: cs => c :: '.' :: c' :: cs
      | cs => cs
    mantissa ++ exponentChars (first - 1)

/-- The number as source text; what is not finite has none. -/
def literal? : Binary64 → Option (List Char)
  | finite s m e =>
      some (signChars s ++ (if m = 0 then "0.0".toList else (shortest .even m e).literal))
  | _ => none

end Shelfmark.Binary64
