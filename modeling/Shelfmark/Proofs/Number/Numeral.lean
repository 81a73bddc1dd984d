import Mathlib.Algebra.Order.Field.Basic
import Mathlib.Algebra.Order.Ring.Rat
import Mathlib.Tactic.FieldSimp
import Mathlib.Tactic.Linarith
import Mathlib.Tactic.Positivity
import Mathlib.Tactic.Ring
import Shelfmark.Number.Numeral
import Shelfmark.Proofs.Text.Digits

/-!
# Numerals as numbers and as text

A numeral stands for a rational number, and rounding it works on its digits. Here rounding is
described by the numbers alone, as the nearest multiple of a power of ten, so that what the
digits do can be measured against it.

A numeral has two written forms, the digits with a point among them and the digits with an
exponent. Both are read back as the same numeral, so neither loses anything, but only the
first shows the places.

## Main results

* `Numeral.roundTo_isRounding` — dropping digits rounds the number, a half away from zero.
* `Numeral.read?_write` — what is written is read as the numeral it was written for.
* `Numeral.isPlain_write_iff` — the written form has an exponent just when more than five
  zeros stand behind the point.
-/

namespace Shelfmark

open Shelfmark.Text

/-! ## Rounding -/

/-- `r` is the multiple of `10 ^ (-places)` nearest to `q`, and of two that are equally near
the one further away from zero. -/
structure IsRounding (places : Nat) (q r : ℚ) : Prop where
  multiple : ∃ c : ℤ, r = c / 10 ^ places
  nearest : ∀ c : ℤ, |q - r| ≤ |q - c / 10 ^ places|
  away : ∀ c : ℤ, |q - c / 10 ^ places| = |q - r| → |(c / 10 ^ places : ℚ)| ≤ |r|

theorem IsRounding.self {places : Nat} {q : ℚ} (h : ∃ c : ℤ, q = c / 10 ^ places) :
    IsRounding places q q where
  multiple := h
  nearest c := by simp
  away c hSame := by
    rw [sub_self, abs_zero, abs_eq_zero, sub_eq_zero] at hSame
    rw [hSame]

theorem IsRounding.neg {places : Nat} {q r : ℚ} (h : IsRounding places q r) :
    IsRounding places (-q) (-r) := by
  have hMirror : ∀ c : ℤ, |-q - c / 10 ^ places| = |q - (-c : ℤ) / 10 ^ places| := by
    intro c
    rw [← abs_neg]
    congr 1
    push_cast
    ring
  have hSame : |-q - -r| = |q - r| := by
    rw [← abs_neg]
    congr 1
    ring
  obtain ⟨c, hc⟩ := h.multiple
  refine ⟨⟨-c, by rw [hc]; push_cast; ring⟩, fun c => ?_, fun c hTie => ?_⟩
  · rw [hSame, hMirror]
    exact h.nearest (-c)
  · rw [hSame, hMirror] at hTie
    have hAway := h.away (-c) hTie
    rw [abs_neg r, ← abs_neg]
    convert hAway using 2
    push_cast
    ring

/-- A number of steps at most half a step above `x`, and less than half a step below, is
nearer to it than every other number of steps. -/
theorem abs_sub_le_of_bounds {x : ℚ} {m : ℤ} (hx : 0 ≤ x) (hLow : m - 1 / 2 ≤ x)
    (hHigh : x < m + 1 / 2) (c : ℤ) :
    |x - m| ≤ |x - c| ∧ (|x - c| = |x - m| → |(c : ℚ)| ≤ |(m : ℚ)|) := by
  have hNear : |x - m| ≤ 1 / 2 := abs_le.2 ⟨by linarith, by linarith⟩
  rcases lt_trichotomy c m with hBelow | rfl | hAbove
  · have hStep : (c : ℚ) + 1 ≤ m := by exact_mod_cast hBelow
    have hFar : |x - c| = x - c := abs_of_nonneg (by linarith)
    refine ⟨by rw [hFar]; linarith, fun hTie => ?_⟩
    -- a tie leaves `c` half a step below `x`, so it is not negative
    have hLower : (-1 : ℚ) < c := by
      rw [hFar] at hTie
      linarith
    have hNonneg : 0 ≤ c := by
      have hInt : (-1 : ℤ) < c := by exact_mod_cast hLower
      omega
    have hc : (0 : ℚ) ≤ c := by exact_mod_cast hNonneg
    rw [abs_of_nonneg hc]
    exact le_trans (by linarith) (le_abs_self _)
  · exact ⟨le_rfl, fun _ => le_rfl⟩
  · have hStep : (m : ℚ) + 1 ≤ c := by exact_mod_cast hAbove
    have hFar : |x - c| = c - x := by
      rw [abs_sub_comm]
      exact abs_of_nonneg (by linarith)
    refine ⟨by rw [hFar]; linarith, fun hTie => ?_⟩
    rw [hFar] at hTie
    linarith

/-- What lies less than half a step above a whole number of steps, or at most half a step
below, is rounded to it. -/
theorem IsRounding.of_bounds {x : ℚ} {m : ℤ} (hx : 0 ≤ x) (hLow : m - 1 / 2 ≤ x)
    (hHigh : x < m + 1 / 2) (places : Nat) :
    IsRounding places (x / 10 ^ places) (m / 10 ^ places) := by
  have hPos : (0 : ℚ) < 10 ^ places := by positivity
  have hScaled : ∀ y : ℚ, |x / 10 ^ places - y / 10 ^ places| = |x - y| / 10 ^ places := by
    intro y
    rw [← sub_div, abs_div, abs_of_pos hPos]
  refine ⟨⟨m, rfl⟩, fun c => ?_, fun c hTie => ?_⟩
  · rw [hScaled, hScaled]
    exact div_le_div_of_nonneg_right (abs_sub_le_of_bounds hx hLow hHigh c).1 hPos.le
  · rw [hScaled, hScaled, div_left_inj' hPos.ne'] at hTie
    rw [abs_div, abs_div, abs_of_pos hPos]
    exact div_le_div_of_nonneg_right ((abs_sub_le_of_bounds hx hLow hHigh c).2 hTie) hPos.le

/-! ## Numerals -/

namespace Numeral

/-- The number that a numeral stands for. -/
def value (x : Numeral) : ℚ := x.coefficient * (10 : ℚ) ^ (-x.scale)

theorem value_natScale (c : ℤ) (places : Nat) : value ⟨c, places⟩ = c / 10 ^ places := by
  rw [value, zpow_neg, zpow_natCast, ← div_eq_mul_inv]

theorem tenPow_eq (k : Nat) : tenPow k = 10 ^ k := rfl

/-- More places, filled with zeros, leave the number as it is. -/
theorem value_addPlaces (c scale : ℤ) (k : Nat) :
    value ⟨c * tenPow k, scale + k⟩ = value ⟨c, scale⟩ := by
  have hTen : (10 : ℚ) ≠ 0 := by norm_num
  have hPow : ((tenPow k : ℤ) : ℚ) = 10 ^ k := by
    rw [tenPow_eq]
    push_cast
    rfl
  simp only [value]
  rw [Int.cast_mul, hPow, neg_add, zpow_add₀ hTen, zpow_neg _ (k : ℤ), zpow_natCast]
  field_simp

theorem value_dropPlaces (c : ℤ) (places k : Nat) :
    value ⟨c, places + k⟩ = c / 10 ^ k / 10 ^ places := by
  have hScale : (places + k : ℤ) = (places + k : Nat) := by push_cast; rfl
  rw [hScale, value_natScale, pow_add, div_div, mul_comm]

/-- Numbers with too few digits are rounded like all others. -/
theorem dropDigits_eq (n drop : Nat) :
    dropDigits n drop = (2 * n + 10 ^ drop) / (2 * 10 ^ drop) := by
  unfold dropDigits
  split
  · rename_i hShort
    have hSome := length_natDigits_pos n
    obtain ⟨k, rfl⟩ : ∃ k, drop = k + 1 := ⟨drop - 1, by omega⟩
    have hSmall : n < 10 ^ k := (length_natDigits_le_iff (by omega)).1 (by omega)
    symm
    rw [Nat.div_eq_zero_iff, pow_succ]
    omega
  · rfl

/-- Dropping digits rounds to the nearest, and upwards in a tie. -/
theorem dropDigits_bounds (n drop : Nat) :
    (dropDigits n drop - 1 / 2 : ℚ) ≤ n / 10 ^ drop ∧
      (n / 10 ^ drop : ℚ) < dropDigits n drop + 1 / 2 := by
  have hPos : (0 : ℚ) < 10 ^ drop := by positivity
  have hStep : 0 < 2 * 10 ^ drop := by positivity
  rw [dropDigits_eq, le_div_iff₀ hPos, div_lt_iff₀ hPos]
  have hFloor := Nat.div_mul_le_self (2 * n + 10 ^ drop) (2 * 10 ^ drop)
  have hNext := Nat.lt_div_mul_add (a := 2 * n + 10 ^ drop) hStep
  generalize (2 * n + 10 ^ drop) / (2 * 10 ^ drop) = m at hFloor hNext ⊢
  have hFloorQ : (m : ℚ) * (2 * 10 ^ drop) ≤ 2 * n + 10 ^ drop := by exact_mod_cast hFloor
  have hNextQ : (2 * n + 10 ^ drop : ℚ) < m * (2 * 10 ^ drop) + 2 * 10 ^ drop := by
    exact_mod_cast hNext
  constructor <;> linarith

theorem roundTo_isRounding (x : Numeral) (places : Nat) :
    IsRounding places x.value (x.roundTo places).value := by
  obtain ⟨c, scale⟩ := x
  unfold roundTo
  dsimp only
  by_cases hZero : c = 0
  · rw [if_pos hZero, hZero]
    have hValue : ∀ e, value ⟨0, e⟩ = 0 := fun e => by simp [value]
    rw [hValue, hValue]
    exact .self ⟨0, by simp⟩
  · rw [if_neg hZero]
    by_cases hFew : scale ≤ places
    · -- more places are made by a power of ten, so the number stays
      rw [if_pos hFew]
      obtain ⟨k, rfl⟩ : ∃ k : Nat, scale = places - k := ⟨(places - scale).toNat, by omega⟩
      have hPlaces : ((places : ℤ) - (places - k)).toNat = k := by omega
      have hSame := value_addPlaces c (places - k) k
      rw [sub_add_cancel] at hSame
      rw [hPlaces, hSame]
      exact .self ⟨_, hSame.symm.trans (value_natScale _ _)⟩
    · rw [if_neg hFew]
      obtain ⟨k, rfl⟩ : ∃ k : Nat, scale = places + k := ⟨(scale - places).toNat, by omega⟩
      have hDrop : ((places : ℤ) + k - places).toNat = k := by omega
      rw [hDrop, value_dropPlaces, value_natScale]
      obtain ⟨hLow, hHigh⟩ := dropDigits_bounds c.natAbs k
      have hRounded : IsRounding places (c.natAbs / 10 ^ k / 10 ^ places)
          ((dropDigits c.natAbs k : ℤ) / 10 ^ places) :=
        .of_bounds (by positivity) (by exact_mod_cast hLow) (by exact_mod_cast hHigh) places
      by_cases hNeg : c < 0
      · have hAbs : (c : ℚ) = -(c.natAbs : ℚ) := by
          exact_mod_cast show c = -(c.natAbs : ℤ) by omega
        rw [if_pos hNeg, hAbs]
        convert hRounded.neg using 1
        · ring
        · push_cast
          ring
      · have hAbs : (c : ℚ) = (c.natAbs : ℚ) := by
          rw [← Int.cast_natCast, show (c.natAbs : ℤ) = c by omega]
        rw [if_neg hNeg, hAbs]
        exact hRounded

/-- A rounded numeral has the places asked for, except that zero has none. -/
theorem exists_roundTo_eq (x : Numeral) (places : Nat) :
    ∃ c : ℤ, x.roundTo places = ⟨c, (if x.coefficient = 0 then 0 else places : Nat)⟩ := by
  unfold roundTo
  by_cases hZero : x.coefficient = 0
  · exact ⟨0, by rw [if_pos hZero, if_pos hZero]; rfl⟩
  · rw [if_neg hZero, if_neg hZero]
    split
    · exact ⟨_, rfl⟩
    · exact ⟨_, rfl⟩

end Numeral

/-! ## Plain decimals -/

/-- A decimal as it is written out: a minus sign if it is negative, at least one digit, and a
point with more digits if there are any. -/
structure PlainDecimal where
  negative : Bool
  whole : List Char
  fraction : List Char
  whole_ne_nil : whole ≠ []
  isDigit : ∀ c ∈ whole ++ fraction, c.isDigit = true

namespace PlainDecimal

/-- The sign of a decimal. -/
def sign (p : PlainDecimal) : List Char := if p.negative then ['-'] else []

/-- The text of a decimal. -/
def chars (p : PlainDecimal) : List Char :=
  p.sign ++ p.whole ++ if p.fraction = [] then [] else '.' :: p.fraction

/-- The integer that the digits of a decimal spell without the point. -/
def coefficient (p : PlainDecimal) : ℤ :=
  let magnitude := Nat.ofDigitChars 10 (p.whole ++ p.fraction) 0
  if p.negative then -(magnitude : ℤ) else magnitude

/-- The number that a decimal stands for. -/
def value (p : PlainDecimal) : ℚ := p.coefficient / 10 ^ p.fraction.length

end PlainDecimal

/-- Characters that are a decimal written out with so many places, and its value. -/
def IsPlain (cs : List Char) (places : Nat) (q : ℚ) : Prop :=
  ∃ p : PlainDecimal, p.chars = cs ∧ p.fraction.length = places ∧ p.value = q

namespace PlainDecimal

/-- Characters that stand in decimals. -/
def IsMark (c : Char) : Prop := c.isDigit = true ∨ c = '-' ∨ c = '.'

theorem isMark_of_mem {p : PlainDecimal} {c : Char} (h : c ∈ p.chars) : IsMark c := by
  have hSign : c ∈ p.sign → c = '-' := by
    unfold sign
    split <;> simp
  have hPoint : c ∈ (if p.fraction = [] then [] else '.' :: p.fraction) →
      c = '.' ∨ c ∈ p.fraction := by
    split <;> simp
  rcases List.mem_append.1 h with h | h
  · rcases List.mem_append.1 h with h | h
    · exact Or.inr (Or.inl (hSign h))
    · exact Or.inl (p.isDigit c (List.mem_append_left _ h))
  · rcases hPoint h with h | h
    · exact Or.inr (Or.inr h)
    · exact Or.inl (p.isDigit c (List.mem_append_right _ h))

/-- The sign and the digits before the point hold no point. -/
private theorem ne_point (p : PlainDecimal) : ∀ c ∈ p.sign ++ p.whole, (c != '.') = true := by
  intro c hc
  rw [bne_iff_ne]
  rintro rfl
  rcases List.mem_append.1 hc with hSign | hWhole
  · unfold sign at hSign
    split at hSign <;> simp at hSign
  · exact absurd (p.isDigit '.' (List.mem_append_left _ hWhole)) (by decide)

theorem takeWhile_chars (p : PlainDecimal) : p.chars.takeWhile (· != '.') = p.sign ++ p.whole := by
  unfold chars
  rw [List.takeWhile_append_of_pos p.ne_point]
  split <;> simp

theorem dropWhile_chars (p : PlainDecimal) :
    (p.chars.dropWhile (· != '.')).drop 1 = p.fraction := by
  unfold chars
  rw [List.dropWhile_append_of_pos p.ne_point]
  split <;> simp_all

/-- Digits are read as what they spell. -/
private theorem readGrouped?_of_isDigit {cs : List Char} (hNe : cs ≠ [])
    (hDigit : ∀ c ∈ cs, c.isDigit = true) :
    Numeral.readGrouped? cs = some (Nat.ofDigitChars 10 cs 0) := by
  have hNoGroup : cs.filter (· != '_') = cs := by
    refine List.filter_eq_self.2 fun c hc => bne_iff_ne.2 ?_
    rintro rfl
    exact absurd (hDigit '_' hc) (by decide)
  unfold Numeral.readGrouped?
  split
  · exact absurd rfl hNe
  · exact absurd (hDigit '_' (by simp)) (by decide)
  · simp [hNoGroup, List.all_eq_true.2 hDigit]

/-- Without its point a decimal is read as its coefficient. -/
theorem readCoefficient?_eq (p : PlainDecimal) :
    Numeral.readCoefficient? (p.sign ++ p.whole ++ p.fraction) = some p.coefficient := by
  have hNe : p.whole ++ p.fraction ≠ [] := by simp [p.whole_ne_nil]
  obtain ⟨c, cs, hCons⟩ := List.exists_cons_of_ne_nil hNe
  have hFirst : c.isDigit = true := p.isDigit c (hCons ▸ List.mem_cons_self)
  have hMinus : c ≠ '-' := by
    rintro rfl
    exact absurd hFirst (by decide)
  have hPlus : c ≠ '+' := by
    rintro rfl
    exact absurd hFirst (by decide)
  have hRead := readGrouped?_of_isDigit hNe p.isDigit
  rw [List.append_assoc]
  unfold sign coefficient
  rw [hCons] at hRead ⊢
  split
  · simp [Numeral.readCoefficient?, Numeral.readGroupedInt?, hPlus, hRead]
  · simp [Numeral.readCoefficient?, Numeral.readGroupedInt?, hPlus, hMinus, hRead]

/-- A decimal is read as what it stands for, also with an exponent behind it. -/
theorem read?_append (p : PlainDecimal) {after : List Char} {e : ℤ}
    (hAfter : after = [] ∧ e = 0 ∨ after = 'E' :: intDigits e)
    (hFits : fitsInt64 (p.fraction.length - e) = true) :
    Numeral.read? (p.chars ++ after) = some ⟨p.coefficient, p.fraction.length - e⟩ := by
  unfold Numeral.read?
  extract_lets isMark base exponent whole fraction
  have hPlain : ∀ c ∈ p.chars, (!isMark c) = true := by
    intro c hc
    rw [Bool.not_eq_true', Bool.eq_false_iff]
    intro hMark
    have hE : c = 'e' ∨ c = 'E' := by simpa [isMark] using hMark
    rcases isMark_of_mem hc with hDigit | rfl | rfl
    · rcases hE with rfl | rfl
      · exact absurd hDigit (by decide)
      · exact absurd hDigit (by decide)
    · exact absurd hE (by decide)
    · exact absurd hE (by decide)
  have hBase : base = p.chars := by
    unfold base
    rw [List.takeWhile_append_of_pos hPlain]
    rcases hAfter with ⟨rfl, rfl⟩ | rfl
    · simp
    · simp [isMark]
  have hExponent : exponent = some e := by
    unfold exponent
    rw [List.dropWhile_append_of_pos hPlain]
    rcases hAfter with ⟨rfl, rfl⟩ | rfl
    · rfl
    · simp [isMark, readInt?_intDigits]
  have hWhole : whole = p.sign ++ p.whole := by
    rw [← takeWhile_chars, ← hBase]
  have hFraction : fraction = p.fraction := by
    rw [← dropWhile_chars, ← hBase]
  have hNoGroup : p.fraction.filter (· != '_') = p.fraction := by
    refine List.filter_eq_self.2 fun c hc => bne_iff_ne.2 ?_
    rintro rfl
    exact absurd (p.isDigit '_' (List.mem_append_right _ hc)) (by decide)
  rw [hExponent, hWhole, hFraction, readCoefficient?_eq]
  simp only [hNoGroup, hFits, if_true]

end PlainDecimal

/-! ## Numerals as text -/

namespace Numeral

/-- Whether more than five zeros stand between the point of a numeral and its first digit. -/
def IsSlight (x : Numeral) : Prop := 5 < x.scale - (natDigits x.coefficient.natAbs).length

instance (x : Numeral) : Decidable x.IsSlight := by
  unfold IsSlight
  infer_instance

/-- A decimal of the digits of an integer has that integer as its coefficient, whatever
zeros stand in front. -/
private theorem coefficient_of_digits {c : ℤ} {k : Nat} {p : PlainDecimal}
    (hNegative : p.negative = decide (c < 0))
    (hDigits : p.whole ++ p.fraction = List.replicate k '0' ++ natDigits c.natAbs) :
    p.coefficient = c := by
  have hValue : Nat.ofDigitChars 10 (p.whole ++ p.fraction) 0 = c.natAbs := by
    rw [hDigits, Nat.ofDigitChars_append, Nat.ofDigitChars_replicate_zero, Nat.mul_zero]
    exact Nat.ofDigitChars_ten_toDigits
  unfold PlainDecimal.coefficient
  rw [hValue, hNegative]
  dsimp only
  by_cases hc : c < 0
  · rw [if_pos (decide_eq_true hc)]
    omega
  · rw [if_neg (by simp [hc])]
    omega

/-- A numeral with few zeros behind the point is written out, with all its places. -/
theorem write_of_not_isSlight {c : ℤ} {places : Nat} (h : ¬ IsSlight ⟨c, places⟩) :
    ∃ p : PlainDecimal, write ⟨c, places⟩ = p.chars ∧ p.fraction.length = places ∧
      p.coefficient = c := by
  have hDigits : ∀ d ∈ natDigits c.natAbs, d.isDigit = true := fun d hd =>
    isDigit_of_mem_natDigits hd
  unfold IsSlight at h
  unfold write plain
  rw [if_neg h, if_pos (Int.natCast_nonneg _)]
  dsimp only [Int.toNat_natCast]
  by_cases hWhole : places = 0
  · subst hWhole
    refine ⟨⟨decide (c < 0), natDigits c.natAbs, [], natDigits_ne_nil _, by simpa using hDigits⟩,
      ?_, rfl, coefficient_of_digits (k := 0) rfl (by simp)⟩
    simp [PlainDecimal.chars, PlainDecimal.sign]
  · rw [if_neg hWhole]
    obtain ⟨padded, hPadded⟩ : ∃ cs, cs = padStart '0' (places + 1) (natDigits c.natAbs) :=
      ⟨_, rfl⟩
    have hLength : places < padded.length := by
      rw [hPadded, padStart]
      simp
      omega
    have hAll : ∀ d ∈ padded, d.isDigit = true := by
      intro d hd
      rw [hPadded, padStart, List.mem_append, List.mem_replicate] at hd
      rcases hd with ⟨-, rfl⟩ | hd
      · decide
      · exact hDigits d hd
    have hWholeNe : padded.take (padded.length - places) ≠ [] := by
      rw [Ne, List.take_eq_nil_iff, ← List.length_eq_zero_iff]
      omega
    have hFractionNe : padded.drop (padded.length - places) ≠ [] := by
      rw [Ne, List.drop_eq_nil_iff]
      omega
    rw [← hPadded]
    refine ⟨⟨decide (c < 0), padded.take (padded.length - places),
      padded.drop (padded.length - places), hWholeNe, by simpa using hAll⟩, ?_, ?_,
      coefficient_of_digits rfl ((List.take_append_drop _ _).trans hPadded)⟩
    · simp only [PlainDecimal.chars, PlainDecimal.sign, decide_eq_true_eq]
      rw [if_neg hFractionNe, List.append_assoc]
    · rw [List.length_drop]
      omega

/-- Any other numeral is written with the point behind its first digit, and an exponent that
moves the point back. -/
theorem write_of_isSlight {c : ℤ} {places : Nat} (h : IsSlight ⟨c, places⟩) :
    ∃ (p : PlainDecimal) (e : ℤ), write ⟨c, places⟩ = p.chars ++ 'E' :: intDigits e ∧
      p.fraction.length - e = places ∧ p.coefficient = c := by
  obtain ⟨d, ds, hDigits⟩ := List.exists_cons_of_ne_nil (natDigits_ne_nil c.natAbs)
  have hAll : ∀ x ∈ [d] ++ ds, x.isDigit = true := fun x hx =>
    isDigit_of_mem_natDigits (n := c.natAbs) (hDigits ▸ hx)
  refine ⟨⟨decide (c < 0), [d], ds, by simp, hAll⟩, ds.length - places, ?_, by dsimp only; omega,
    coefficient_of_digits (k := 0) rfl (by simp [hDigits])⟩
  unfold IsSlight at h
  unfold write
  rw [if_pos h]
  dsimp only
  rw [hDigits]
  unfold scientific PlainDecimal.chars PlainDecimal.sign
  cases ds <;> simp

/-- Only a number below a millionth has so many zeros, and seven places are needed to tell. -/
theorem isSlight_iff {c : ℤ} {places : Nat} :
    IsSlight ⟨c, places⟩ ↔ 6 < places ∧ |value ⟨c, places⟩| < 1 / 10 ^ 6 := by
  have hSome := length_natDigits_pos c.natAbs
  unfold IsSlight
  dsimp only
  by_cases hFew : places ≤ 6
  · constructor <;> omega
  · obtain ⟨k, rfl⟩ : ∃ k, places = k + 6 := ⟨places - 6, by omega⟩
    have hPos : (0 : ℚ) < 10 ^ (k + 6) := by positivity
    have hValue : |value ⟨c, (k + 6 : Nat)⟩| = (c.natAbs : ℚ) / 10 ^ (k + 6) := by
      rw [value_natScale, abs_div, abs_of_pos hPos, Nat.cast_natAbs, Int.cast_abs]
    have hMillionth : (1 / 10 ^ 6 : ℚ) = ((10 ^ k : Nat) : ℚ) / 10 ^ (k + 6) := by
      push_cast
      field_simp
      ring
    have hDigits : (natDigits c.natAbs).length ≤ k ↔ c.natAbs < 10 ^ k :=
      length_natDigits_le_iff (by omega)
    rw [hValue, hMillionth, div_lt_div_iff_of_pos_right hPos, Nat.cast_lt, ← hDigits]
    omega

private theorem fits_places {places : Nat} (h : places < 2 ^ 63) :
    fitsInt64 (places : ℤ) = true := by
  simp only [fitsInt64, Int64.toInt_minValue, Int64.toInt_maxValue, Bool.and_eq_true,
    decide_eq_true_eq]
  omega

/-- A numeral is read as itself, whichever way it is written. -/
theorem read?_write {c : ℤ} {places : Nat} (h : places < 2 ^ 63) :
    read? (write ⟨c, places⟩) = some ⟨c, places⟩ := by
  by_cases hSlight : IsSlight ⟨c, places⟩
  · obtain ⟨p, e, hWrite, hPlaces, rfl⟩ := write_of_isSlight hSlight
    have hRead := p.read?_append (Or.inr rfl) (e := e) (by rw [hPlaces]; exact fits_places h)
    rw [hWrite, hRead, hPlaces]
  · obtain ⟨p, hWrite, rfl, rfl⟩ := write_of_not_isSlight hSlight
    have hRead := p.read?_append (Or.inl ⟨rfl, rfl⟩) (by rw [sub_zero]; exact fits_places h)
    rw [List.append_nil, sub_zero] at hRead
    rw [hWrite, hRead]

/-- A decimal is read as a numeral with the same places and the same value. -/
theorem exists_read?_of_isPlain {cs : List Char} {places : Nat} {q : ℚ} (h : IsPlain cs places q)
    (hPlaces : places < 2 ^ 63) : ∃ c, read? cs = some ⟨c, places⟩ ∧ value ⟨c, places⟩ = q := by
  obtain ⟨p, rfl, rfl, rfl⟩ := h
  have hRead := p.read?_append (Or.inl ⟨rfl, rfl⟩) (by rw [sub_zero]; exact fits_places hPlaces)
  rw [List.append_nil, sub_zero] at hRead
  exact ⟨_, hRead, value_natScale _ _⟩

/-- A numeral is written out with its own places or not at all. -/
theorem isPlain_write_iff {c : ℤ} {places k : Nat} {q : ℚ} (hPlaces : places < 2 ^ 63)
    (hk : k < 2 ^ 63) :
    IsPlain (write ⟨c, places⟩) k q ↔
      k = places ∧ q = value ⟨c, places⟩ ∧ ¬ IsSlight ⟨c, places⟩ := by
  constructor
  · intro hPlain
    obtain ⟨c', hRead, rfl⟩ := exists_read?_of_isPlain hPlain hk
    rw [read?_write hPlaces, Option.some.injEq, mk.injEq] at hRead
    obtain ⟨rfl, hScale⟩ := hRead
    obtain rfl : places = k := by exact_mod_cast hScale
    refine ⟨rfl, rfl, fun hSlight => ?_⟩
    -- the exponent would have to be a digit, a sign or a point
    obtain ⟨p, e, hWrite, -, -⟩ := write_of_isSlight hSlight
    obtain ⟨p', hChars, -, -⟩ := hPlain
    have hE : PlainDecimal.IsMark 'E' := p'.isMark_of_mem (by rw [hChars, hWrite]; simp)
    exact absurd hE (by unfold PlainDecimal.IsMark; decide)
  · rintro ⟨rfl, rfl, hSlight⟩
    obtain ⟨p, hWrite, hLength, hCoefficient⟩ := write_of_not_isSlight hSlight
    refine ⟨p, hWrite.symm, hLength, ?_⟩
    rw [PlainDecimal.value, hLength, hCoefficient, value_natScale]

end Numeral

end Shelfmark
