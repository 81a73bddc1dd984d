import Mathlib.Algebra.Order.Field.Basic
import Mathlib.Algebra.Order.Field.Power
import Mathlib.Algebra.Order.Ring.Rat
import Mathlib.Tactic.FieldSimp
import Mathlib.Tactic.Linarith
import Mathlib.Tactic.NormNum
import Mathlib.Tactic.Positivity
import Mathlib.Tactic.Ring
import Shelfmark.Number.Binary64Text

/-!
# The doubles of integers

An integer becomes a double by scaling, dividing and sometimes carrying. Seen from the double
this is an interval, the numbers that round to it, and an integer becomes the double just when
it lies there. The interval is not symmetric at a power of two, below which the doubles lie
closer together; those are the doubles that are reached with and without a carry, and the two
ways have to meet.

The ends of an interval belong to it when the mantissa is even. `AtMost` carries this
condition, so that open and closed ends are treated alike.

## Main results

* `ofRatio_one` — how an integer is rounded, with the scaling taken out.
* `ofRatio_one_iff`, `ofInt_eq_finite_iff` — just the integers in its interval become a double.
* `exists_ofRatio_one` — the double of an integer of 64 bits is an integer again.
-/

namespace Shelfmark.Binary64

/-- At most, and less unless `m` is even: how close a number may come to the bound of an
interval whose ends belong to it when `m` is even. -/
def AtMost (m : ℕ) (x y : ℚ) : Prop := x < y ∨ x = y ∧ m % 2 = 0

/-- `m` is the integer nearest to `x`, and the even one of two. -/
def IsNearest (m : ℕ) (x : ℚ) : Prop := AtMost m (m - 1 / 2) x ∧ AtMost m x (m + 1 / 2)

theorem AtMost.le {m : ℕ} {x y : ℚ} (h : AtMost m x y) : x ≤ y := by
  rcases h with h | ⟨rfl, -⟩
  · exact h.le
  · exact le_rfl

theorem AtMost.of_le {m : ℕ} {x y : ℚ} (hEven : m % 2 = 0) (h : x ≤ y) : AtMost m x y := by
  rcases h.lt_or_eq with h | h
  · exact Or.inl h
  · exact Or.inr ⟨h, hEven⟩

theorem AtMost.trans_le {m : ℕ} {x y z : ℚ} (h : AtMost m x y) (hz : y ≤ z) : AtMost m x z := by
  rcases h with h | ⟨rfl, hEven⟩
  · exact Or.inl (h.trans_le hz)
  · rcases hz.lt_or_eq with hLess | rfl
    · exact Or.inl hLess
    · exact Or.inr ⟨rfl, hEven⟩

theorem AtMost.le_trans {m : ℕ} {x y z : ℚ} (hx : x ≤ y) (h : AtMost m y z) : AtMost m x z := by
  rcases h with h | ⟨rfl, hEven⟩
  · exact Or.inl (hx.trans_lt h)
  · rcases hx.lt_or_eq with hLess | rfl
    · exact Or.inl hLess
    · exact Or.inr ⟨rfl, hEven⟩

theorem atMost_div_iff {m : ℕ} {x y c : ℚ} (hc : 0 < c) :
    AtMost m (x / c) (y / c) ↔ AtMost m x y := by
  unfold AtMost
  rw [div_lt_div_iff_of_pos_right hc, div_left_inj' hc.ne']

theorem twoPow_eq (k : ℕ) : twoPow k = 2 ^ k := rfl

theorem cast_twoPow (k : ℕ) : (twoPow k : ℚ) = 2 ^ k := by
  rw [twoPow_eq]
  push_cast
  rfl

theorem IsNearest.unique {m n : ℕ} {x : ℚ} (hm : IsNearest m x) (hn : IsNearest n x) : m = n := by
  have hOrdered : ∀ {a b : ℕ}, IsNearest a x → IsNearest b x → a ≤ b := by
    intro a b ha hb
    by_contra hLess
    have hStep : (b : ℚ) + 1 ≤ a := by exact_mod_cast Nat.lt_of_not_le hLess
    -- both are half a step away, so both are even and yet they are neighbours
    rcases ha.1 with hFar | ⟨hHalf, hEven⟩
    · rcases hb.2 with h | ⟨h, -⟩ <;> linarith
    · rcases hb.2 with h | ⟨h, hEven'⟩
      · linarith
      · have hNext : a = b + 1 := by
          have : (a : ℚ) = b + 1 := by linarith
          exact_mod_cast this
        omega
  exact le_antisymm (hOrdered hm hn) (hOrdered hn hm)

theorem isNearest_natCast (n : ℕ) : IsNearest n n :=
  ⟨Or.inl (by linarith), Or.inl (by linarith)⟩

/-- A quotient is its integer part and what the remainder contributes. -/
theorem div_eq_floor_add (num : ℕ) {den : ℕ} (hDen : 0 < den) :
    (num / den : ℚ) = (num / den : ℕ) + (num % den : ℕ) / (den : ℚ) := by
  have hPos : (0 : ℚ) < den := by exact_mod_cast hDen
  have hSplit : ((den * (num / den) + num % den : ℕ) : ℚ) = num := by rw [Nat.div_add_mod]
  rw [eq_comm, eq_div_iff hPos.ne', add_mul, div_mul_cancel₀ _ hPos.ne', ← hSplit]
  push_cast
  ring

theorem divNearest_isNearest (num : ℕ) {den : ℕ} (hDen : 0 < den) :
    IsNearest (divNearest num den) (num / den) := by
  have hPos : (0 : ℚ) < den := by exact_mod_cast hDen
  have hLess := Nat.mod_lt num hDen
  rw [div_eq_floor_add num hDen]
  unfold divNearest
  dsimp only
  generalize num / den = q
  generalize num % den = r at hLess ⊢
  have hNonneg : (0 : ℚ) ≤ r / den := by positivity
  have hBelow : (r : ℚ) / den < 1 := (div_lt_one hPos).2 (by exact_mod_cast hLess)
  have hLow : 2 * r < den ↔ (r : ℚ) / den < 1 / 2 := by
    rw [div_lt_iff₀ hPos, one_div, inv_mul_eq_div, lt_div_iff₀ two_pos, mul_comm]
    exact_mod_cast Iff.rfl
  have hHigh : den < 2 * r ↔ (1 / 2 : ℚ) < r / den := by
    rw [lt_div_iff₀ hPos, one_div, inv_mul_eq_div, div_lt_iff₀ two_pos, mul_comm (r : ℚ)]
    exact_mod_cast Iff.rfl
  split
  · rename_i h
    rw [hLow] at h
    exact ⟨Or.inl (by linarith), Or.inl (by linarith)⟩
  · rename_i hNotLow
    rw [hLow, not_lt] at hNotLow
    split
    · rename_i h
      rw [hHigh] at h
      exact ⟨Or.inl (by push_cast; linarith), Or.inl (by push_cast; linarith)⟩
    · rename_i hNotHigh
      rw [hHigh, not_lt] at hNotHigh
      have hTie : (r : ℚ) / den = 1 / 2 := le_antisymm hNotHigh hNotLow
      rw [hTie]
      split
      · rename_i hEven
        exact ⟨Or.inl (by linarith), Or.inr ⟨rfl, hEven⟩⟩
      · rename_i hOdd
        exact ⟨Or.inr ⟨by push_cast; ring, by omega⟩, Or.inl (by push_cast; linarith)⟩

/-- Scaling divides by the power of two. -/
theorem scaleDown_spec (num : ℕ) (e : ℤ) :
    ((scaleDown num 1 e).1 / (scaleDown num 1 e).2 : ℚ) = num / 2 ^ e ∧
      0 < (scaleDown num 1 e).2 := by
  unfold scaleDown
  by_cases h : 0 ≤ e
  · obtain ⟨k, rfl⟩ := Int.eq_ofNat_of_zero_le h
    rw [if_pos h]
    simp [twoPow_eq]
  · obtain ⟨k, hk⟩ : ∃ k : ℕ, e = -k := ⟨(-e).toNat, by omega⟩
    subst hk
    rw [if_neg h]
    simp [twoPow_eq, zpow_neg]

/-- The exponent at which an integer has a mantissa of 53 bits. -/
def binade (w : ℕ) : ℤ := (Nat.log2 w : ℤ) - 52

theorem zpow_binade_le {w : ℕ} (hw : 0 < w) : (2 : ℚ) ^ (52 + binade w) ≤ w := by
  have h := Nat.log2_self_le hw.ne'
  rw [binade, add_sub_cancel, zpow_natCast]
  exact_mod_cast h

theorem lt_zpow_binade (w : ℕ) : (w : ℚ) < 2 ^ (53 + binade w) := by
  have h := Nat.lt_log2_self (n := w)
  have hExp : 53 + binade w = ((Nat.log2 w + 1 : ℕ) : ℤ) := by
    unfold binade
    push_cast
    ring
  rw [hExp, zpow_natCast]
  exact_mod_cast h

theorem binade_eq {w : ℕ} (hw : 0 < w) {e : ℤ} (hLow : (2 : ℚ) ^ (52 + e) ≤ w)
    (hHigh : (w : ℚ) < 2 ^ (53 + e)) : binade w = e := by
  have hTwo : (1 : ℚ) < 2 := by norm_num
  have hBelow := (zpow_lt_zpow_iff_right₀ hTwo).1 (lt_of_le_of_lt hLow (lt_zpow_binade w))
  have hAbove := (zpow_lt_zpow_iff_right₀ hTwo).1 (lt_of_le_of_lt (zpow_binade_le hw) hHigh)
  omega

/-- In units of its exponent an integer is a number of 53 bits. -/
theorem mantissa_bounds {w : ℕ} (hw : 0 < w) :
    (2 : ℚ) ^ 52 ≤ w / 2 ^ binade w ∧ (w : ℚ) / 2 ^ binade w < 2 ^ 53 := by
  have hPos : (0 : ℚ) < 2 ^ binade w := by positivity
  rw [le_div_iff₀ hPos, div_lt_iff₀ hPos]
  have hLow := zpow_binade_le hw
  have hHigh := lt_zpow_binade w
  rw [zpow_add₀ two_ne_zero] at hLow hHigh
  exact ⟨by exact_mod_cast hLow, by exact_mod_cast hHigh⟩

/-- `w` rounds to `m * 2 ^ e`: the mantissa is the nearest integer with 53 bits, or that has
one bit more, which is carried. -/
def RoundsTo (w m : ℕ) (e : ℤ) : Prop :=
  m < twoPow 53 ∧ IsNearest m (w / 2 ^ binade w) ∧ e = binade w ∨
    m = twoPow 52 ∧ IsNearest (twoPow 53) (w / 2 ^ binade w) ∧ e = binade w + 1

theorem RoundsTo.unique {w m m' : ℕ} {e e' : ℤ} (h : RoundsTo w m e) (h' : RoundsTo w m' e') :
    m = m' ∧ e = e' := by
  rcases h with ⟨hFits, hNearest, rfl⟩ | ⟨rfl, hNearest, rfl⟩
  · rcases h' with ⟨-, hNearest', rfl⟩ | ⟨-, hNearest', -⟩
    · exact ⟨hNearest.unique hNearest', rfl⟩
    · exact absurd (hNearest.unique hNearest') hFits.ne
  · rcases h' with ⟨hFits, hNearest', -⟩ | ⟨rfl, -, rfl⟩
    · exact absurd (hNearest'.unique hNearest) hFits.ne
    · exact ⟨rfl, rfl⟩

theorem nearest_bounds {w n : ℕ} (hw : 0 < w) (h : IsNearest n (w / 2 ^ binade w)) :
    twoPow 52 ≤ n ∧ n ≤ twoPow 53 := by
  obtain ⟨hLow, hHigh⟩ := mantissa_bounds hw
  constructor
  · by_contra hLess
    have hStep : (n : ℚ) + 1 ≤ 2 ^ 52 := by
      rw [← cast_twoPow]
      exact_mod_cast Nat.lt_of_not_le hLess
    linarith [h.2.le]
  · by_contra hMore
    have hStep : (2 : ℚ) ^ 53 + 1 ≤ n := by
      rw [← cast_twoPow]
      exact_mod_cast Nat.lt_of_not_le hMore
    linarith [h.1.le]

theorem RoundsTo.bounds {w m : ℕ} {e : ℤ} (hw : 0 < w) (h : RoundsTo w m e) :
    twoPow 52 ≤ m ∧ m < twoPow 53 := by
  rcases h with ⟨hFits, hNearest, -⟩ | ⟨rfl, -, -⟩
  · exact ⟨(nearest_bounds hw hNearest).1, hFits⟩
  · exact ⟨le_rfl, by decide⟩

/-- The double of a positive integer. -/
theorem ofRatio_one (s : Bool) {w : ℕ} (hw : 0 < w) :
    ∃ m e, RoundsTo w m e ∧
      ofRatio s w 1 = if maxExponent < e then infinite s else finite s m e := by
  obtain ⟨hScaled, hDen⟩ := scaleDown_spec w (binade w)
  have hNearest := hScaled ▸ divNearest_isNearest (scaleDown w 1 (binade w)).1 hDen
  have hExponent : max ((Nat.log2 w : ℤ) - (Nat.log2 1 : ℤ) - 53) minExponent = binade w - 1 := by
    have hOne : Nat.log2 1 = 0 := by decide
    unfold binade minExponent
    rw [hOne]
    omega
  obtain ⟨hScaled', hDen'⟩ := scaleDown_spec w (binade w - 1)
  have hLong : twoPow 53 ≤ (scaleDown w 1 (binade w - 1)).1 / (scaleDown w 1 (binade w - 1)).2 := by
    have hPos : (0 : ℚ) < (scaleDown w 1 (binade w - 1)).2 := by exact_mod_cast hDen'
    have hExp : ((53 : ℕ) : ℤ) + (binade w - 1) = 52 + binade w := by
      push_cast
      ring
    have hLow : (2 : ℚ) ^ 53 ≤ w / 2 ^ (binade w - 1) := by
      rw [le_div_iff₀ (by positivity), ← zpow_natCast, ← zpow_add₀ two_ne_zero, hExp]
      exact zpow_binade_le hw
    rw [← hScaled', le_div_iff₀ hPos] at hLow
    rw [Nat.le_div_iff_mul_le hDen']
    exact_mod_cast hLow
  unfold ofRatio
  rw [if_neg hw.ne', hExponent]
  dsimp only
  rw [if_pos hLong, sub_add_cancel]
  by_cases hCarry : divNearest (scaleDown w 1 (binade w)).1 (scaleDown w 1 (binade w)).2 = twoPow 53
  · rw [if_pos hCarry]
    exact ⟨_, _, Or.inr ⟨rfl, hCarry ▸ hNearest, rfl⟩, rfl⟩
  · rw [if_neg hCarry]
    exact ⟨_, _, Or.inl ⟨lt_of_le_of_ne (nearest_bounds hw hNearest).2 hCarry, hNearest, rfl⟩, rfl⟩

/-! ## The interval of a double -/

/-- The lower end of the interval of numbers that round to `m * 2 ^ e`, in quarters of a
unit. Below a power of two the doubles lie closer together. -/
def lowQuarters (m : ℕ) (e : ℤ) : ℕ :=
  if m = twoPow 52 && minExponent < e then 4 * m - 1 else 4 * m - 2

/-- `x` lies in the interval of numbers that round to `m * 2 ^ e`. -/
def InInterval (m : ℕ) (e : ℤ) (x : ℚ) : Prop :=
  AtMost m (lowQuarters m e * 2 ^ (e - 2)) x ∧ AtMost m x ((4 * m + 2 : ℕ) * 2 ^ (e - 2))

/-- A double that no rounding has to carry: its mantissa has all 53 bits. -/
structure IsNormal (m : ℕ) (e : ℤ) : Prop where
  low : twoPow 52 ≤ m
  high : m < twoPow 53
  exponent_low : minExponent < e
  exponent_high : e ≤ maxExponent

/-- How far below `m` the interval reaches, in units of the last bit. -/
def lowGap (m : ℕ) : ℚ := if m = twoPow 52 then 1 / 4 else 1 / 2

theorem lowGap_bounds (m : ℕ) : 1 / 4 ≤ lowGap m ∧ lowGap m ≤ 1 / 2 := by
  unfold lowGap
  split <;> norm_num

theorem zpow_sub_two (e : ℤ) : (2 : ℚ) ^ (e - 2) = 2 ^ e / 4 := by
  rw [zpow_sub₀ two_ne_zero]
  norm_num

theorem lowEnd_eq {m : ℕ} {e : ℤ} (h : IsNormal m e) :
    lowQuarters m e * (2 : ℚ) ^ (e - 2) = (m - lowGap m) * 2 ^ e := by
  have hSome : 4 ≤ 4 * m := by
    have := h.low
    rw [twoPow_eq] at this
    omega
  rw [zpow_sub_two]
  unfold lowQuarters lowGap
  rw [decide_eq_true h.exponent_low, Bool.and_true]
  by_cases hPower : m = twoPow 52
  · rw [if_pos (decide_eq_true hPower), if_pos hPower, Nat.cast_sub (by omega)]
    push_cast
    ring
  · rw [if_neg (by simp [hPower]), if_neg hPower, Nat.cast_sub (by omega)]
    push_cast
    ring

theorem highEnd_eq (m : ℕ) (e : ℤ) :
    ((4 * m + 2 : ℕ) : ℚ) * 2 ^ (e - 2) = (m + 1 / 2) * 2 ^ e := by
  rw [zpow_sub_two]
  push_cast
  ring

/-- The interval in units of the last bit. -/
theorem inInterval_iff {m : ℕ} {e : ℤ} (h : IsNormal m e) (x : ℚ) :
    InInterval m e x ↔ AtMost m (m - lowGap m) (x / 2 ^ e) ∧ AtMost m (x / 2 ^ e) (m + 1 / 2) := by
  have hPos : (0 : ℚ) < 2 ^ e := by positivity
  unfold InInterval
  rw [lowEnd_eq h, highEnd_eq, ← atMost_div_iff (y := x) hPos, ← atMost_div_iff (x := x) hPos,
    mul_div_cancel_right₀ _ hPos.ne', mul_div_cancel_right₀ _ hPos.ne']

theorem IsNormal.cast_low {m : ℕ} {e : ℤ} (h : IsNormal m e) : (2 : ℚ) ^ 52 ≤ m := by
  rw [← cast_twoPow]
  exact_mod_cast h.low

theorem IsNormal.cast_high {m : ℕ} {e : ℤ} (h : IsNormal m e) : (m : ℚ) + 1 ≤ 2 ^ 53 := by
  rw [← cast_twoPow]
  exact_mod_cast h.high

theorem lowEnd_lt {m : ℕ} {e : ℤ} (h : IsNormal m e) :
    lowQuarters m e * (2 : ℚ) ^ (e - 2) < m * 2 ^ e := by
  rw [lowEnd_eq h]
  have hGap := (lowGap_bounds m).1
  exact mul_lt_mul_of_pos_right (by linarith) (by positivity)

theorem lt_highEnd (m : ℕ) (e : ℤ) : (m * 2 ^ e : ℚ) < (4 * m + 2 : ℕ) * 2 ^ (e - 2) := by
  rw [highEnd_eq]
  exact mul_lt_mul_of_pos_right (by linarith) (by positivity)

theorem lowEnd_pos {m : ℕ} {e : ℤ} (h : IsNormal m e) :
    (0 : ℚ) < lowQuarters m e * 2 ^ (e - 2) := by
  have hGap := (lowGap_bounds m).2
  have hm := h.cast_low
  rw [lowEnd_eq h]
  exact mul_pos (by linarith) (by positivity)

/-- What lies in the interval of a double is at most half a unit away from it. -/
theorem abs_sub_le_of_inInterval {m : ℕ} {e : ℤ} (h : IsNormal m e) {x : ℚ}
    (hx : InInterval m e x) : |x - m * 2 ^ e| ≤ 2 ^ e / 2 := by
  have hLow := hx.1.le
  have hHigh := hx.2.le
  rw [lowEnd_eq h] at hLow
  rw [highEnd_eq] at hHigh
  have hGap := mul_le_mul_of_nonneg_right (lowGap_bounds m).2 (by positivity : (0 : ℚ) ≤ 2 ^ e)
  rw [abs_le]
  constructor <;> linarith

theorem InInterval.of_between {m : ℕ} {e : ℤ} {x y z : ℚ} (hx : InInterval m e x)
    (hz : InInterval m e z) (hxy : x ≤ y) (hyz : y ≤ z) : InInterval m e y :=
  ⟨hx.1.trans_le hxy, hz.2.le_trans hyz⟩

theorem inInterval_value {m : ℕ} {e : ℤ} (h : IsNormal m e) : InInterval m e (m * 2 ^ e) :=
  ⟨Or.inl (lowEnd_lt h), Or.inl (lt_highEnd m e)⟩

theorem pos_of_inInterval {m w : ℕ} {e : ℤ} (h : IsNormal m e) (hIn : InInterval m e w) :
    0 < w := by
  have hPos := (lowEnd_pos h).trans_le hIn.1.le
  exact_mod_cast hPos

/-! ## Integers that become a double -/

/-- What is rounded lies in the interval. -/
theorem RoundsTo.inInterval {w m : ℕ} {e : ℤ} (hw : 0 < w) (hRounds : RoundsTo w m e)
    (h : IsNormal m e) : InInterval m e w := by
  obtain ⟨hLow, hHigh⟩ := mantissa_bounds hw
  rw [inInterval_iff h]
  rcases hRounds with ⟨-, hNearest, rfl⟩ | ⟨rfl, hNearest, rfl⟩
  · refine ⟨?_, hNearest.2⟩
    by_cases hPower : m = twoPow 52
    · refine Or.inl ?_
      rw [lowGap, if_pos hPower, hPower, cast_twoPow]
      linarith
    · rw [lowGap, if_neg hPower]
      exact hNearest.1
  · -- what is carried lies just below a power of two
    have hHalf : (w : ℚ) / 2 ^ (binade w + 1) = w / 2 ^ binade w / 2 := by
      rw [zpow_add_one₀ two_ne_zero, div_div]
    have hClose := hNearest.1.le
    rw [cast_twoPow] at hClose
    rw [lowGap, if_pos rfl, hHalf, cast_twoPow]
    exact ⟨.of_le (by decide) (by linarith), Or.inl (by linarith)⟩

/-- What lies in the interval with all its bits rounds to the double. -/
theorem InInterval.roundsTo_of_le {w m : ℕ} {e : ℤ} (hw : 0 < w) (h : IsNormal m e)
    (hIn : InInterval m e w) (hAbove : (2 : ℚ) ^ 52 ≤ w / 2 ^ e) : RoundsTo w m e := by
  obtain ⟨hLow, hHigh⟩ := (inInterval_iff h _).1 hIn
  have hPos : (0 : ℚ) < 2 ^ e := by positivity
  have hSame : binade w = e := by
    refine binade_eq hw ?_ ?_
    · rw [zpow_add₀ two_ne_zero, ← le_div_iff₀ hPos]
      exact_mod_cast hAbove
    · have hFits := h.cast_high
      have hLess := hHigh.le
      rw [zpow_add₀ two_ne_zero, ← div_lt_iff₀ hPos]
      norm_num at hFits hLess ⊢
      linarith
  have hLow' : AtMost m (m - 1 / 2) (w / 2 ^ e) := by
    by_cases hPower : m = twoPow 52
    · rw [lowGap, if_pos hPower] at hLow
      exact Or.inl (by linarith [hLow.le])
    · rwa [lowGap, if_neg hPower] at hLow
  exact Or.inl ⟨h.high, hSame ▸ ⟨hLow', hHigh⟩, hSame.symm⟩

/-- What lies in the interval and has a bit less is below a power of two, and carried. -/
theorem InInterval.roundsTo_of_lt {w m : ℕ} {e : ℤ} (hw : 0 < w) (h : IsNormal m e)
    (hIn : InInterval m e w) (hBelow : (w : ℚ) / 2 ^ e < 2 ^ 52) : RoundsTo w m e := by
  obtain ⟨hLow, -⟩ := (inInterval_iff h _).1 hIn
  have hPos : (0 : ℚ) < 2 ^ e := by positivity
  have hHalf : (2 : ℚ) ^ (e - 1) = 2 ^ e / 2 := by
    rw [zpow_sub_one₀ two_ne_zero]
    rfl
  have hPower : m = twoPow 52 := by
    by_contra hOther
    rw [lowGap, if_neg hOther] at hLow
    have hNext : (twoPow 52 : ℚ) + 1 ≤ m := by
      exact_mod_cast lt_of_le_of_ne h.low (Ne.symm hOther)
    rw [cast_twoPow] at hNext
    linarith [hLow.le]
  rw [lowGap, if_pos hPower, hPower, cast_twoPow] at hLow
  have hClose := hLow.le
  have hExponent : binade w = e - 1 := by
    rw [le_div_iff₀ hPos] at hClose
    rw [div_lt_iff₀ hPos] at hBelow
    refine binade_eq hw ?_ ?_
    · rw [zpow_add₀ two_ne_zero, hHalf]
      norm_num at hClose ⊢
      linarith
    · rw [zpow_add₀ two_ne_zero, hHalf]
      norm_num at hBelow ⊢
      linarith
  have hDouble : (w : ℚ) / 2 ^ binade w = 2 * (w / 2 ^ e) := by
    rw [hExponent, hHalf]
    field_simp
  refine Or.inr ⟨hPower, ?_, by omega⟩
  rw [hDouble]
  unfold IsNearest
  rw [cast_twoPow]
  exact ⟨.of_le (by decide) (by linarith), Or.inl (by linarith)⟩

theorem roundsTo_iff {w m : ℕ} {e : ℤ} (hw : 0 < w) (h : IsNormal m e) :
    RoundsTo w m e ↔ InInterval m e w := by
  refine ⟨fun hRounds => hRounds.inInterval hw h, fun hIn => ?_⟩
  rcases le_or_gt ((2 : ℚ) ^ 52) (w / 2 ^ e) with hAbove | hBelow
  · exact hIn.roundsTo_of_le hw h hAbove
  · exact hIn.roundsTo_of_lt hw h hBelow

/-- Just the integers in its interval become a double. -/
theorem ofRatio_one_iff {s s' : Bool} {w m : ℕ} {e : ℤ} (hw : 0 < w) (h : IsNormal m e) :
    ofRatio s w 1 = finite s' m e ↔ s = s' ∧ InInterval m e w := by
  obtain ⟨n, f, hRounds, hRatio⟩ := ofRatio_one s hw
  rw [hRatio, ← roundsTo_iff hw h]
  constructor
  · intro hEq
    split at hEq
    · cases hEq
    · cases hEq
      exact ⟨rfl, hRounds⟩
  · rintro ⟨rfl, hRounds'⟩
    obtain ⟨rfl, rfl⟩ := hRounds.unique hRounds'
    rw [if_neg (not_lt.2 h.exponent_high)]

/-- An integer rounds to an integer: either no bit is lost, or the last one that is kept
stands before the point. -/
theorem RoundsTo.exists_natCast {w m : ℕ} {e : ℤ} (hw : 0 < w) (hBound : w < 2 ^ 64)
    (h : RoundsTo w m e) : ∃ v : ℕ, (v : ℚ) = m * 2 ^ e ∧ v ≤ 2 ^ 64 := by
  obtain ⟨n, hNearest, hSame⟩ :
      ∃ n, IsNearest n (w / 2 ^ binade w) ∧ (m * 2 ^ e : ℚ) = n * 2 ^ binade w := by
    rcases h with ⟨-, hNearest, rfl⟩ | ⟨rfl, hNearest, rfl⟩
    · exact ⟨m, hNearest, rfl⟩
    · refine ⟨_, hNearest, ?_⟩
      rw [cast_twoPow, cast_twoPow, zpow_add_one₀ two_ne_zero]
      ring
  rw [hSame]
  by_cases hLarge : 0 ≤ binade w
  · obtain ⟨k, hk⟩ := Int.eq_ofNat_of_zero_le hLarge
    have hLog : k ≤ 11 := by
      have := (Nat.log2_lt hw.ne').2 hBound
      unfold binade at hk
      omega
    refine ⟨n * 2 ^ k, by rw [hk, zpow_natCast]; push_cast; rfl, ?_⟩
    calc n * 2 ^ k ≤ 2 ^ 53 * 2 ^ 11 :=
          Nat.mul_le_mul (nearest_bounds hw hNearest).2 (Nat.pow_le_pow_right two_pos hLog)
      _ = 2 ^ 64 := by norm_num
  · obtain ⟨k, hk⟩ : ∃ k : ℕ, binade w = -k := ⟨(-binade w).toNat, by omega⟩
    have hWhole : (w : ℚ) / 2 ^ binade w = (w * 2 ^ k : ℕ) := by
      rw [hk, zpow_neg, zpow_natCast, div_inv_eq_mul]
      push_cast
      rfl
    rw [hWhole] at hNearest
    obtain rfl := hNearest.unique (isNearest_natCast _)
    refine ⟨w, ?_, hBound.le⟩
    rw [← hWhole, div_mul_cancel₀ _ (by positivity)]

/-- A positive integer of 64 bits becomes a normal double, which is again an integer. -/
theorem exists_ofRatio_one (s : Bool) {w : ℕ} (hw : 0 < w) (hBound : w < 2 ^ 64) :
    ∃ m e, ofRatio s w 1 = finite s m e ∧ IsNormal m e ∧
      ∃ v : ℕ, (v : ℚ) = m * 2 ^ e ∧ v ≤ 2 ^ 64 := by
  obtain ⟨m, e, hRounds, hRatio⟩ := ofRatio_one s hw
  have hExponent : minExponent < e ∧ e ≤ maxExponent := by
    have hLog := (Nat.log2_lt hw.ne').2 hBound
    unfold minExponent maxExponent
    rcases hRounds with ⟨-, -, rfl⟩ | ⟨-, -, rfl⟩
    · unfold binade
      omega
    · unfold binade
      omega
  obtain ⟨hLow, hHigh⟩ := hRounds.bounds hw
  rw [if_neg (not_lt.2 hExponent.2)] at hRatio
  exact ⟨m, e, hRatio, ⟨hLow, hHigh, hExponent.1, hExponent.2⟩, hRounds.exists_natCast hw hBound⟩

@[simp] theorem natAbs_signed (s : Bool) (w : ℕ) : (signed s w).natAbs = w := by
  cases s <;> simp [signed]

/-- A double is that of an integer just when the integer has its sign and lies in its
interval. -/
theorem ofInt_eq_finite_iff {s : Bool} {m : ℕ} {e : ℤ} (h : IsNormal m e) {b : ℤ} :
    ofInt b = finite s m e ↔ ∃ w : ℕ, InInterval m e w ∧ b = signed s w := by
  constructor
  · intro hEq
    have hSome : 0 < b.natAbs := by
      rw [Int.natAbs_pos]
      rintro rfl
      cases hEq
      exact absurd h.low (by decide)
    obtain ⟨rfl, hIn⟩ := (ofRatio_one_iff hSome h).1 hEq
    refine ⟨b.natAbs, hIn, ?_⟩
    by_cases hNegative : b < 0
    · rw [signed, if_pos (decide_eq_true hNegative)]
      omega
    · rw [signed, if_neg (by simp [hNegative])]
      omega
  · rintro ⟨w, hIn, rfl⟩
    have hSome := pos_of_inInterval h hIn
    have hSign : decide (signed s w < 0) = s := by
      cases s <;> simp [signed, hSome]
    unfold ofInt
    rw [hSign, natAbs_signed]
    exact (ofRatio_one_iff hSome h).2 ⟨rfl, hIn⟩

/-- Only zero becomes zero. -/
theorem eq_zero_of_ofInt_eq {b : ℤ} (h : ofInt b = ofInt 0) : b = 0 := by
  by_contra hOther
  have hSome : 0 < b.natAbs := Int.natAbs_pos.2 hOther
  have hZero : ofInt 0 = finite false 0 minExponent := rfl
  obtain ⟨m, e, hRounds, hRatio⟩ := ofRatio_one (decide (b < 0)) hSome
  unfold ofInt at h hZero
  rw [hRatio, hZero] at h
  split at h
  · cases h
  · obtain ⟨-, rfl, -⟩ := finite.inj h
    exact absurd (hRounds.bounds hSome).1 (by decide)

theorem ofRatio_one_sign {s s' : Bool} {w w' : ℕ} (hw : 0 < w) (hw' : 0 < w')
    (h : ofRatio s w 1 = ofRatio s' w' 1) : s = s' := by
  obtain ⟨m, e, -, hRatio⟩ := ofRatio_one s hw
  obtain ⟨m', e', -, hRatio'⟩ := ofRatio_one s' hw'
  rw [hRatio, hRatio'] at h
  split at h <;> split at h <;> cases h <;> rfl

end Shelfmark.Binary64
