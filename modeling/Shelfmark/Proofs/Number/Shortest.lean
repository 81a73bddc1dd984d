import Shelfmark.Proofs.Number.Rounding
import Shelfmark.Proofs.Text.Digits

/-!
# The integers that doubles are shown as

A large double is shown by its shortest digits, and the zeros that are missing are filled in;
so a double that is an integer is shown as an integer, but not always as itself. The digits
are found by trying the grids of the powers of ten one after another, the coarsest first, and
on each only the two multiples around the double. That the two suffice is because the
interval of a double has no gaps, and that no coarser grid need be tried is because the
interval is narrow.

What is found is described here without any of this, by the integers that become the double:
`Shows` asks for the one with the most zeros at its end, then for the nearest, and then for
the one further away from zero.

## Main results

* `onGrid?_spec` — on one grid the best number is found if there is any.
* `shortest_spec` — the shortest digits, filled with zeros, are those of the best integer.
* `Shows.unique`, `IsShortest.shows` — this integer stands for the double, and no other does.
-/

namespace Shelfmark.Binary64

open Shelfmark.Text

/-! ## Decimals on one grid -/

theorem inInterval_of_le {m : ℕ} {e : ℤ} {x : ℚ} (hx : x ≤ m * 2 ^ e) :
    InInterval m e x ↔ AtMost m (lowQuarters m e * 2 ^ (e - 2)) x :=
  ⟨fun h => h.1, fun h => ⟨h, Or.inl (hx.trans_lt (lt_highEnd m e))⟩⟩

theorem inInterval_of_ge {m : ℕ} {e : ℤ} (h : IsNormal m e) {x : ℚ} (hx : m * 2 ^ e ≤ x) :
    InInterval m e x ↔ AtMost m x ((4 * m + 2 : ℕ) * 2 ^ (e - 2)) :=
  ⟨fun h => h.2, fun hHigh => ⟨Or.inl ((lowEnd_lt h).trans_le hx), hHigh⟩⟩

/-- The unit of the interval's ends as a fraction. -/
theorem exists_unit (e : ℤ) :
    ∃ unitNum unitDen : ℕ,
      (if 0 ≤ e - 2 then (twoPow (e - 2).toNat, 1) else (1, twoPow (2 - e).toNat)) =
        (unitNum, unitDen) ∧
      0 < unitDen ∧ (unitNum / unitDen : ℚ) = 2 ^ (e - 2) := by
  by_cases h : 0 ≤ e - 2
  · obtain ⟨k, hk⟩ := Int.eq_ofNat_of_zero_le h
    refine ⟨_, _, if_pos h, one_pos, ?_⟩
    rw [hk, Int.toNat_natCast, cast_twoPow, zpow_natCast]
    simp
  · obtain ⟨k, hk⟩ : ∃ k : ℕ, e - 2 = -k := ⟨(2 - e).toNat, by omega⟩
    refine ⟨_, _, if_neg h, twoPow_pos _, ?_⟩
    rw [show 2 - e = k by omega, hk, Int.toNat_natCast, cast_twoPow, zpow_neg, zpow_natCast]
    simp

theorem cast_tenPow (k : ℕ) : (tenPow k : ℚ) = 10 ^ k := by
  rw [show tenPow k = 10 ^ k from rfl]
  push_cast
  rfl

/-- Between integers the bound is decided by a comparison that `m` makes strict or not. -/
theorem atMost_natCast_iff {m x y : ℕ} :
    AtMost m x y ↔ (if m % 2 != 0 then decide (x < y) else decide (x ≤ y)) = true := by
  unfold AtMost
  rw [Nat.cast_lt, Nat.cast_inj]
  rcases Nat.mod_two_eq_zero_or_one m with h | h
  · simp [h, Nat.le_iff_lt_or_eq]
  · simp [h]

theorem gridAbove_iff {m a k n d : ℕ} (hd : 0 < d) :
    gridAbove a k n d (m % 2 != 0) = true ↔ AtMost m (n / d) (a * 10 ^ k) := by
  have hPos : (0 : ℚ) < d := by exact_mod_cast hd
  have hScaled : (a * 10 ^ k : ℚ) = (a * tenPow k * d : ℕ) / d := by
    push_cast [cast_tenPow]
    rw [mul_div_cancel_right₀ _ hPos.ne']
  rw [hScaled, atMost_div_iff hPos, atMost_natCast_iff]
  unfold gridAbove
  rw [if_pos (Int.natCast_nonneg k)]
  rfl

theorem gridBelow_iff {m a k n d : ℕ} (hd : 0 < d) :
    gridBelow a k n d (m % 2 != 0) = true ↔ AtMost m (a * 10 ^ k) (n / d) := by
  have hPos : (0 : ℚ) < d := by exact_mod_cast hd
  have hScaled : (a * 10 ^ k : ℚ) = (a * tenPow k * d : ℕ) / d := by
    push_cast [cast_tenPow]
    rw [mul_div_cancel_right₀ _ hPos.ne']
  rw [hScaled, atMost_div_iff hPos, atMost_natCast_iff]
  unfold gridBelow
  rw [if_pos (Int.natCast_nonneg k)]
  rfl

instance (m : ℕ) (x y : ℚ) : Decidable (AtMost m x y) := by
  unfold AtMost
  infer_instance

instance (m : ℕ) (e : ℤ) (x : ℚ) : Decidable (InInterval m e x) := by
  unfold InInterval
  infer_instance

/-- The last multiple of `10 ^ k` up to `v`. -/
def gridFloor (k v : ℕ) : ℕ := v / 10 ^ k * 10 ^ k

/-- The first multiple of `10 ^ k` above `v`. -/
def gridNext (k v : ℕ) : ℕ := (v / 10 ^ k + 1) * 10 ^ k

theorem gridFloor_add_mod (k v : ℕ) : gridFloor k v + v % 10 ^ k = v := by
  rw [gridFloor, Nat.mul_comm]
  exact Nat.div_add_mod v (10 ^ k)

theorem gridNext_eq (k v : ℕ) : gridNext k v = gridFloor k v + 10 ^ k := Nat.succ_mul _ _

theorem mod_tenPow_lt (k v : ℕ) : v % 10 ^ k < 10 ^ k := Nat.mod_lt v (tenPow_pos k)

theorem le_gridFloor_or_gridNext_le {k v b : ℕ} (hb : 10 ^ k ∣ b) :
    b ≤ gridFloor k v ∨ gridNext k v ≤ b := by
  obtain ⟨c, rfl⟩ := hb
  rw [gridFloor, gridNext, Nat.mul_comm _ c]
  rcases Nat.lt_or_ge (v / 10 ^ k) c with hMore | hLess
  · exact Or.inr (Nat.mul_le_mul_right _ hMore)
  · exact Or.inl (Nat.mul_le_mul_right _ hLess)

/-- The test of the lower multiple: that it is not zero follows from the rest. -/
private theorem belowFits_eq {m v unitNum unitDen : ℕ} {e : ℤ} (h : IsNormal m e)
    (hv : (v : ℚ) = m * 2 ^ e) (hDen : 0 < unitDen)
    (hUnit : (unitNum / unitDen : ℚ) = 2 ^ (e - 2)) (k : ℕ) :
    (gridAbove (v / 10 ^ k) k (lowQuarters m e * unitNum) unitDen (m % 2 != 0) &&
      v / 10 ^ k != 0) = decide (InInterval m e (gridFloor k v)) := by
  have hLess : (gridFloor k v : ℚ) ≤ m * 2 ^ e := by
    rw [← hv]
    exact_mod_cast Nat.div_mul_le_self v (10 ^ k)
  have hEnd : ((lowQuarters m e * unitNum : ℕ) : ℚ) / unitDen = lowQuarters m e * 2 ^ (e - 2) := by
    rw [← hUnit]
    push_cast
    ring
  have hGrid : ((v / 10 ^ k : ℕ) * 10 ^ k : ℚ) = gridFloor k v := by
    rw [gridFloor]
    push_cast
    rfl
  rw [Bool.eq_iff_iff, Bool.and_eq_true, gridAbove_iff hDen, hEnd, decide_eq_true_eq,
    inInterval_of_le hLess, bne_iff_ne, hGrid, and_iff_left_of_imp]
  intro hAtMost hZero
  have hLow := (lowEnd_pos h).trans_le hAtMost.le
  rw [gridFloor, hZero] at hLow
  simp at hLow

private theorem aboveFits_eq {m v unitNum unitDen : ℕ} {e : ℤ} (h : IsNormal m e)
    (hv : (v : ℚ) = m * 2 ^ e) (hDen : 0 < unitDen)
    (hUnit : (unitNum / unitDen : ℚ) = 2 ^ (e - 2)) (k : ℕ) :
    gridBelow (v / 10 ^ k + 1) k ((4 * m + 2) * unitNum) unitDen (m % 2 != 0) =
      decide (InInterval m e (gridNext k v)) := by
  have hMore : (m * 2 ^ e : ℚ) ≤ gridNext k v := by
    rw [← hv, gridNext, Nat.mul_comm]
    exact_mod_cast (Nat.lt_mul_div_succ v (tenPow_pos k)).le
  have hEnd : (((4 * m + 2) * unitNum : ℕ) : ℚ) / unitDen = (4 * m + 2 : ℕ) * 2 ^ (e - 2) := by
    rw [← hUnit]
    push_cast
    ring
  have hGrid : ((v / 10 ^ k + 1 : ℕ) * 10 ^ k : ℚ) = gridNext k v := by
    rw [gridNext]
    push_cast
    rfl
  rw [Bool.eq_iff_iff, gridBelow_iff hDen, hEnd, decide_eq_true_eq, inInterval_of_ge h hMore, hGrid]

/-- On the grid of a power of ten the two multiples around the double are tried. -/
theorem onGrid?_eq {m v : ℕ} {e : ℤ} (h : IsNormal m e) (hv : (v : ℚ) = m * 2 ^ e) (k : ℕ) :
    onGrid? .upper m e k =
      if v % 10 ^ k = 0 then some ⟨v / 10 ^ k, k⟩
      else if InInterval m e (gridFloor k v) ∧
          (2 * (v % 10 ^ k) < 10 ^ k ∨ ¬ InInterval m e (gridNext k v)) then
        some ⟨v / 10 ^ k, k⟩
      else if InInterval m e (gridNext k v) then some ⟨v / 10 ^ k + 1, k⟩
      else none := by
  obtain ⟨unitNum, unitDen, hUnit, hDen, hUnitValue⟩ := exists_unit e
  have hDenPos : (0 : ℚ) < unitDen := by exact_mod_cast hDen
  have hValue : 4 * m * unitNum = unitDen * v := by
    have hNum : (unitNum : ℚ) = 2 ^ (e - 2) * unitDen := (div_eq_iff hDenPos.ne').1 hUnitValue
    have hQuarters : (4 * m * unitNum : ℚ) = unitDen * v := by
      rw [hNum, hv, zpow_sub_two]
      ring
    exact_mod_cast hQuarters
  have hQuotient : 4 * m * unitNum / (unitDen * tenPow k) = v / 10 ^ k := by
    rw [hValue]
    exact Nat.mul_div_mul_left _ _ hDen
  have hRemainder : 4 * m * unitNum % (unitDen * tenPow k) = unitDen * (v % 10 ^ k) := by
    rw [hValue]
    exact Nat.mul_mod_mul_left _ _ _
  have hPast : 4 * m * unitNum - v / 10 ^ k * (unitDen * tenPow k) = unitDen * (v % 10 ^ k) := by
    rw [← hRemainder, ← hQuotient, Nat.mod_eq_sub_mul_div, Nat.mul_comm (_ / _)]
  have hNearer : 2 * (unitDen * (v % 10 ^ k)) < unitDen * tenPow k ↔ 2 * (v % 10 ^ k) < 10 ^ k := by
    rw [Nat.mul_left_comm]
    exact Nat.mul_lt_mul_left hDen
  unfold onGrid?
  rw [hUnit]
  dsimp only
  rw [if_pos (Int.natCast_nonneg k)]
  dsimp only
  rw [Int.toNat_natCast, hQuotient, hRemainder, hPast, aboveFits_eq h hv hDen hUnitValue]
  change (if _ then _ else
    if ((gridAbove (v / 10 ^ k) k (lowQuarters m e * unitNum) unitDen _ && _) && _) = true then _
    else _) = _
  rw [belowFits_eq h hv hDen hUnitValue]
  by_cases hExact : v % 10 ^ k = 0
  · have hSome : v / 10 ^ k ≠ 0 := by
      intro hNone
      have hWhole := Nat.div_add_mod v (10 ^ k)
      rw [hNone, hExact] at hWhole
      have hPos := pos_of_inInterval h (hv ▸ inInterval_value h : InInterval m e v)
      omega
    rw [if_pos (by rw [hExact, Nat.mul_zero]), if_neg hSome, if_pos hExact]
  · rw [if_neg (Nat.mul_ne_zero hDen.ne' hExact), if_neg hExact]
    simp only [hNearer, show (Tie.upper == Tie.even) = false from rfl, Bool.and_false,
      Bool.false_and, Bool.or_false, Bool.and_eq_true, Bool.or_eq_true, decide_eq_true_eq,
      Bool.not_eq_true', decide_eq_false_iff_not]

/-- How far apart two numbers are. -/
def gap (v w : ℕ) : ℕ := ((v : ℤ) - w).natAbs

/-- `w` is a multiple of the power of ten that rounds to the double `v`, the nearest of them,
and the upper one of two. -/
structure IsBest (m : ℕ) (e : ℤ) (v k w : ℕ) : Prop where
  dvd : 10 ^ k ∣ w
  inInterval : InInterval m e w
  nearest : ∀ b : ℕ, 10 ^ k ∣ b → InInterval m e b → gap v w ≤ gap v b
  upper : ∀ b : ℕ, 10 ^ k ∣ b → InInterval m e b → gap v b = gap v w → b ≤ w

section Neighbours

variable {m v b : ℕ} {e : ℤ} (hSelf : InInterval m e v) (k : ℕ)
include hSelf

/-- Between a multiple below the double that rounds to it and the double lies the last one. -/
theorem inInterval_gridFloor (hIn : InInterval m e b) (hb : b ≤ gridFloor k v) :
    InInterval m e (gridFloor k v) := by
  have hSplit := gridFloor_add_mod k v
  exact hIn.of_between hSelf (by exact_mod_cast hb) (by exact_mod_cast (by omega))

theorem inInterval_gridNext (hIn : InInterval m e b) (hb : gridNext k v ≤ b) :
    InInterval m e (gridNext k v) := by
  have hSplit := gridFloor_add_mod k v
  have hNext := gridNext_eq k v
  have hLess := mod_tenPow_lt k v
  exact hSelf.of_between hIn (by exact_mod_cast (by omega)) (by exact_mod_cast hb)

theorem isBest_gridFloor (hIn : InInterval m e (gridFloor k v))
    (hNear : InInterval m e (gridNext k v) → 2 * (v % 10 ^ k) < 10 ^ k) :
    IsBest m e v k (gridFloor k v) := by
  have hSplit := gridFloor_add_mod k v
  have hNext := gridNext_eq k v
  refine ⟨Nat.dvd_mul_left _ _, hIn, fun b hb hInB => ?_, fun b hb hInB hTie => ?_⟩
  · rcases le_gridFloor_or_gridNext_le (v := v) hb with hBelow | hAbove
    · unfold gap
      omega
    · have hHalf := hNear (inInterval_gridNext hSelf k hInB hAbove)
      unfold gap
      omega
  · rcases le_gridFloor_or_gridNext_le (v := v) hb with hBelow | hAbove
    · exact hBelow
    · have hHalf := hNear (inInterval_gridNext hSelf k hInB hAbove)
      unfold gap at hTie
      omega

theorem isBest_gridNext (hIn : InInterval m e (gridNext k v))
    (hNear : InInterval m e (gridFloor k v) → 10 ^ k ≤ 2 * (v % 10 ^ k)) :
    IsBest m e v k (gridNext k v) := by
  have hSplit := gridFloor_add_mod k v
  have hNext := gridNext_eq k v
  have hLess := mod_tenPow_lt k v
  refine ⟨Nat.dvd_mul_left _ _, hIn, fun b hb hInB => ?_, fun b hb hInB hTie => ?_⟩
  · rcases le_gridFloor_or_gridNext_le (v := v) hb with hBelow | hAbove
    · have hHalf := hNear (inInterval_gridFloor hSelf k hInB hBelow)
      unfold gap
      omega
    · unfold gap
      omega
  · rcases le_gridFloor_or_gridNext_le (v := v) hb with hBelow | hAbove
    · omega
    · unfold gap at hTie
      omega

end Neighbours

/-- The grid is searched right: what is found is the best, and nothing is missed. -/
theorem onGrid?_spec {m v : ℕ} {e : ℤ} (h : IsNormal m e) (hv : (v : ℚ) = m * 2 ^ e) (k : ℕ) :
    match onGrid? .upper m e k with
    | some d => d.exponent = k ∧ IsBest m e v k (d.digits * 10 ^ k)
    | none => ∀ w : ℕ, 10 ^ k ∣ w → ¬ InInterval m e w := by
  have hSelf : InInterval m e v := hv ▸ inInterval_value h
  rw [onGrid?_eq h hv]
  by_cases hExact : v % 10 ^ k = 0
  · rw [if_pos hExact]
    have hFloor : gridFloor k v = v := by
      have hSplit := gridFloor_add_mod k v
      omega
    exact ⟨rfl, isBest_gridFloor hSelf k (hFloor.symm ▸ hSelf) fun _ => hExact ▸ tenPow_pos k⟩
  · rw [if_neg hExact]
    by_cases hBelow : InInterval m e (gridFloor k v) ∧
        (2 * (v % 10 ^ k) < 10 ^ k ∨ ¬ InInterval m e (gridNext k v))
    · rw [if_pos hBelow]
      exact ⟨rfl, isBest_gridFloor hSelf k hBelow.1 fun hIn =>
        hBelow.2.resolve_right (not_not.2 hIn)⟩
    · rw [if_neg hBelow]
      by_cases hAbove : InInterval m e (gridNext k v)
      · rw [if_pos hAbove]
        refine ⟨rfl, isBest_gridNext hSelf k hAbove fun hIn => ?_⟩
        by_contra hNear
        exact hBelow ⟨hIn, Or.inl (not_le.1 hNear)⟩
      · rw [if_neg hAbove]
        intro w hw hIn
        rcases le_gridFloor_or_gridNext_le (v := v) hw with hLess | hMore
        · exact hBelow ⟨inInterval_gridFloor hSelf k hIn hLess, Or.inr hAbove⟩
        · exact hAbove (inInterval_gridNext hSelf k hIn hMore)

/-- A double that is an integer has zeros behind its mantissa, or its mantissa ends in zeros. -/
theorem whole_cases {m v : ℕ} {e : ℤ} (hv : (v : ℚ) = m * 2 ^ e) :
    (∃ k : ℕ, e = k ∧ v = m * twoPow k) ∨ ∃ k : ℕ, 0 < k ∧ e = -k ∧ m = v * twoPow k := by
  rcases le_or_gt 0 e with hNonneg | hNegative
  · obtain ⟨k, rfl⟩ := Int.eq_ofNat_of_zero_le hNonneg
    rw [zpow_natCast, ← cast_twoPow] at hv
    exact Or.inl ⟨k, rfl, by exact_mod_cast hv⟩
  · obtain ⟨k, rfl⟩ : ∃ k : ℕ, e = -k := ⟨(-e).toNat, by omega⟩
    rw [zpow_neg, zpow_natCast, ← div_eq_mul_inv, eq_div_iff (by positivity),
      ← cast_twoPow] at hv
    exact Or.inr ⟨k, by omega, rfl, by exact_mod_cast hv.symm⟩

/-- The integer part of a double that is an integer. -/
theorem whole_eq {m v : ℕ} {e : ℤ} (hv : (v : ℚ) = m * 2 ^ e) :
    (if 0 ≤ e then m * twoPow e.toNat else m / twoPow (-e).toNat) = v := by
  rcases whole_cases hv with ⟨k, rfl, rfl⟩ | ⟨k, hk, rfl, rfl⟩
  · rw [if_pos (Int.natCast_nonneg k)]
    rfl
  · rw [if_neg (by omega), neg_neg, Int.toNat_natCast]
    exact Nat.mul_div_cancel _ (twoPow_pos k)

theorem absBelow_iff {s : Bool} {m v bound : ℕ} {e : ℤ} (hv : (v : ℚ) = m * 2 ^ e) :
    absBelow bound (finite s m e) = true ↔ v < bound := by
  unfold absBelow
  dsimp only
  rcases whole_cases hv with ⟨k, rfl, rfl⟩ | ⟨k, hk, rfl, rfl⟩
  · rw [if_pos (Int.natCast_nonneg k), decide_eq_true_eq]
    rfl
  · rw [if_neg (by omega), neg_neg, Int.toNat_natCast, decide_eq_true_eq]
    exact Nat.mul_lt_mul_right (twoPow_pos k)

/-! ## The search through the grids -/

/-- The search ends on the coarsest grid that holds a number of the interval. -/
theorem firstOnGrid_spec {m v : ℕ} {e : ℤ} (h : IsNormal m e) (hv : (v : ℚ) = m * 2 ^ e)
    {fuel k : ℕ} (hFuel : k < fuel) :
    ∃ c j : ℕ, firstOnGrid .upper m e fuel k = ⟨c, j⟩ ∧ IsBest m e v j (c * 10 ^ j) ∧
      ∀ i, j < i → i ≤ k → ∀ w : ℕ, 10 ^ i ∣ w → ¬ InInterval m e w := by
  induction fuel generalizing k with
  | zero => omega
  | succ fuel ih =>
      have hGrid := onGrid?_spec h hv k
      unfold firstOnGrid
      cases hFound : onGrid? .upper m e k with
      | some d =>
          rw [hFound] at hGrid
          obtain ⟨c, j⟩ := d
          obtain ⟨rfl, hBest⟩ := hGrid
          exact ⟨c, k, rfl, hBest, fun i hi hik => by omega⟩
      | none =>
          rw [hFound] at hGrid
          dsimp only
          cases k with
          | zero =>
              -- on the grid of all integers the double finds itself
              exact absurd (hv ▸ inInterval_value h) (hGrid v (one_dvd v))
          | succ k =>
              obtain ⟨c, j, hFirst, hBest, hNone⟩ := ih (Nat.lt_of_succ_lt_succ hFuel)
              refine ⟨c, j, ?_, hBest, fun i hi hik => ?_⟩
              · rw [← hFirst]
                congr 1
                push_cast
                ring
              · rcases Nat.lt_or_ge k i with hLast | hEarlier
                · obtain rfl : i = k + 1 := by omega
                  exact hGrid
                · exact hNone i hi hEarlier

/-- Zeros at the end of the digits go over to the exponent. -/
theorem dropZeros_spec (fuel : ℕ) {c j : ℕ} (hc : c ≠ 0) :
    ∃ c' j' : ℕ, dropZeros fuel ⟨c, j⟩ = ⟨c', j'⟩ ∧ c' ≠ 0 ∧ c' * 10 ^ j' = c * 10 ^ j := by
  induction fuel generalizing c j with
  | zero => exact ⟨c, j, rfl, hc, rfl⟩
  | succ fuel ih =>
      unfold dropZeros
      dsimp only
      split
      · rename_i hZero
        simp only [Bool.and_eq_true, decide_eq_true_eq] at hZero
        obtain ⟨c', j', hDrop, hc', hSame⟩ := ih (c := c / 10) (j := j + 1) (by omega)
        refine ⟨c', j', hDrop, hc', ?_⟩
        rw [hSame, pow_succ', ← Nat.mul_assoc, Nat.div_mul_cancel (Nat.dvd_of_mod_eq_zero hZero.1)]
      · exact ⟨c, j, rfl, hc, rfl⟩

theorem natDigits_mul_tenPow {c : ℕ} (hc : c ≠ 0) (k : ℕ) :
    natDigits (c * tenPow k) = natDigits c ++ List.replicate k '0' := by
  induction k with
  | zero => simp [tenPow_zero]
  | succ k ih =>
      have hPos : 0 < c * tenPow k := Nat.mul_pos (Nat.pos_of_ne_zero hc) (tenPow_pos k)
      have hStep := Nat.toDigits_append_toDigits (b := 10) (n := c * tenPow k) (d := 0)
        (by decide) hPos (by decide)
      rw [List.replicate_succ', ← List.append_assoc, ← ih, tenPow_succ, ← Nat.mul_assoc,
        Nat.mul_comm _ 10]
      exact hStep.symm

theorem positional_natExponent {c : ℕ} (hc : c ≠ 0) (j : ℕ) :
    (⟨c, j⟩ : Decimal).positional = natDigits (c * tenPow j) := by
  unfold Decimal.positional
  rw [if_pos (Int.natCast_nonneg j), natDigits_mul_tenPow hc]
  rfl

/-- The position of the first digit is the number of digits of an integer. -/
theorem magnitude_eq {m v : ℕ} {e : ℤ} (h : IsNormal m e) (hv : (v : ℚ) = m * 2 ^ e) :
    magnitude m e = (natDigits v).length := by
  have hSome : v ≠ 0 := (pos_of_inInterval h (hv ▸ inInterval_value h)).ne'
  have hShifted : (if 0 ≤ e then m * twoPow e.toNat * tenPow 340
      else m * tenPow 340 / twoPow (-e).toNat) = v * tenPow 340 := by
    rcases whole_cases hv with ⟨k, rfl, rfl⟩ | ⟨k, hk, rfl, rfl⟩
    · rw [if_pos (Int.natCast_nonneg k)]
      rfl
    · rw [if_neg (by omega), neg_neg, Int.toNat_natCast, Nat.mul_right_comm]
      exact Nat.mul_div_cancel _ (twoPow_pos k)
  unfold magnitude
  rw [hShifted]
  change (((natDigits (v * tenPow 340)).length : ℤ) - 340) = _
  rw [natDigits_mul_tenPow hSome, List.length_append, List.length_replicate]
  push_cast
  ring

/-- The integer that is shown for the double `v`: of those that round to it the one with the
most zeros at its end, then the nearest, and then the upper. -/
structure IsShortest (m : ℕ) (e : ℤ) (v w : ℕ) : Prop where
  inInterval : InInterval m e w
  roundest : ∀ b : ℕ, InInterval m e b → ∀ k, 10 ^ k ∣ b → 10 ^ k ∣ w
  nearest : ∀ b : ℕ, InInterval m e b → (∀ k, 10 ^ k ∣ w → 10 ^ k ∣ b) → gap v w ≤ gap v b
  upper : ∀ b : ℕ, InInterval m e b → (∀ k, 10 ^ k ∣ w → 10 ^ k ∣ b) → gap v b = gap v w → b ≤ w

/-- On a grid as coarse as the double's first digit at most one number rounds to it. -/
theorem eq_of_dvd_of_inInterval {m v k : ℕ} {e : ℤ} (h : IsNormal m e)
    (hv : (v : ℚ) = m * 2 ^ e) (hk : v < 10 ^ (k + 1)) {b b' : ℕ} (hb : 10 ^ k ∣ b)
    (hb' : 10 ^ k ∣ b') (hIn : InInterval m e b) (hIn' : InInterval m e b') : b = b' := by
  have hWide : (2 : ℚ) ^ e < 10 ^ k := by
    have hLess : (v : ℚ) < 10 ^ (k + 1) := by exact_mod_cast hk
    have hLow := mul_le_mul_of_nonneg_right h.cast_low (by positivity : (0 : ℚ) ≤ 2 ^ e)
    rw [hv, pow_succ] at hLess
    norm_num at hLow
    linarith [show (0 : ℚ) < 2 ^ e by positivity]
  have hApart : |(b - b' : ℚ)| < 10 ^ k := by
    have hNear := abs_sub_le_of_inInterval h hIn
    have hNear' := abs_sub_le_of_inInterval h hIn'
    rw [abs_sub_comm] at hNear'
    calc |(b - b' : ℚ)| ≤ |(b - m * 2 ^ e : ℚ)| + |(m * 2 ^ e - b' : ℚ)| := abs_sub_le _ _ _
      _ ≤ 2 ^ e / 2 + 2 ^ e / 2 := add_le_add hNear hNear'
      _ < 10 ^ k := by rwa [add_halves]
  have hDvd : (10 : ℤ) ^ k ∣ b - b' :=
    dvd_sub (by exact_mod_cast hb) (by exact_mod_cast hb')
  have hZero : (b - b' : ℤ) = 0 := Int.eq_zero_of_abs_lt_dvd hDvd (by exact_mod_cast hApart)
  omega

theorem shortest_spec {m v : ℕ} {e : ℤ} (h : IsNormal m e) (hv : (v : ℚ) = m * 2 ^ e)
    (hBound : v < 10 ^ 20) :
    ∃ w, (shortest .upper m e).positional = natDigits w ∧ IsShortest m e v w := by
  obtain ⟨k, hk⟩ : ∃ k, (natDigits v).length = k + 1 :=
    ⟨(natDigits v).length - 1, by have := length_natDigits_pos v; omega⟩
  have hLess : v < 10 ^ (k + 1) := (length_natDigits_le_iff (by omega)).1 hk.le
  have hFuel : k < 20 := by
    have := (length_natDigits_le_iff (by decide)).2 hBound
    omega
  obtain ⟨c, j, hFirst, hBest, hNone⟩ := firstOnGrid_spec h hv hFuel
  have hSome : c ≠ 0 := by
    rintro rfl
    have hPos := pos_of_inInterval h hBest.inInterval
    omega
  obtain ⟨c', j', hDrop, hSome', hSame⟩ := dropZeros_spec 20 (j := j) hSome
  refine ⟨c * 10 ^ j, ?_, hBest.inInterval, fun b hIn i hi => ?_, fun b hIn hRound => ?_,
    fun b hIn hRound => ?_⟩
  · unfold shortest
    rw [magnitude_eq h hv, hk, Nat.cast_add, Nat.cast_one, add_sub_cancel_right, hFirst, hDrop,
      positional_natExponent hSome', ← hSame]
    rfl
  · rcases Nat.lt_or_ge j i with hCoarse | hFine
    · rcases Nat.lt_or_ge k i with hBeyond | hTried
      · have hLast : 10 ^ k ∣ b := (pow_dvd_pow 10 hBeyond.le).trans hi
        rcases Nat.lt_or_ge j k with hLater | hSoon
        · exact absurd hIn (hNone k hLater le_rfl b hLast)
        · -- found at once, so it is the only one there
          have hFound : 10 ^ k ∣ c * 10 ^ j := (pow_dvd_pow 10 hSoon).trans hBest.dvd
          rwa [eq_of_dvd_of_inInterval h hv hLess hFound hLast hBest.inInterval hIn]
      · exact absurd hIn (hNone i hCoarse hTried b hi)
    · exact (pow_dvd_pow 10 hFine).trans hBest.dvd
  · exact hBest.nearest b (hRound j hBest.dvd) hIn
  · exact hBest.upper b (hRound j hBest.dvd) hIn

/-! ## The integer that stands for a double -/

/-- The number that a double is. -/
def toRat : Binary64 → ℚ
  | finite s m e => signed s m * 2 ^ e
  | _ => 0

/-- The integer that stands for a double when it is shown: of the integers that become this
double one with the most zeros at its end, among those a nearest, and among those the one
further away from zero. -/
structure Shows (x : Binary64) (w : ℤ) : Prop where
  same : ofInt w = x
  roundest : ∀ b : ℤ, ofInt b = x → ∀ k : ℕ, (10 : ℤ) ^ k ∣ b → (10 : ℤ) ^ k ∣ w
  nearest : ∀ b : ℤ, ofInt b = x → (∀ k : ℕ, (10 : ℤ) ^ k ∣ w → (10 : ℤ) ^ k ∣ b) →
    |x.toRat - w| ≤ |x.toRat - b|
  outer : ∀ b : ℤ, ofInt b = x → (∀ k : ℕ, (10 : ℤ) ^ k ∣ w → (10 : ℤ) ^ k ∣ b) →
    |x.toRat - b| = |x.toRat - w| → |b| ≤ |w|

/-- No double is shown as two integers. -/
theorem Shows.unique {x : Binary64} {w w' : ℤ} (h : Shows x w) (h' : Shows x w') : w = w' := by
  have hRound := h.roundest w' h'.same
  have hRound' := h'.roundest w h.same
  have hNear := le_antisymm (h.nearest w' h'.same hRound') (h'.nearest w h.same hRound)
  have hAbs := le_antisymm (h'.outer w h.same hRound hNear) (h.outer w' h'.same hRound' hNear.symm)
  rcases abs_eq_abs.1 hAbs with hSame | hOpposite
  · exact hSame
  · by_cases hZero : w' = 0
    · omega
    · have hSign := ofRatio_one_sign (by omega) (by omega) (h.same.trans h'.same.symm)
      have hBoth : w < 0 ↔ w' < 0 := decide_eq_decide.1 hSign
      omega

/-- A sign and the digits behind it are those of an integer. -/
theorem signChars_append_natDigits (s : Bool) {w : ℕ} (hw : 0 < w) :
    signChars s ++ natDigits w = intDigits (signed s w) := by
  obtain ⟨k, rfl⟩ : ∃ k, w = k + 1 := ⟨w - 1, by omega⟩
  cases s <;> rfl

theorem tenPow_dvd_signed_iff (s : Bool) (k w : ℕ) : (10 : ℤ) ^ k ∣ signed s w ↔ 10 ^ k ∣ w := by
  have hCast : (10 : ℤ) ^ k ∣ w ↔ 10 ^ k ∣ w := by exact_mod_cast Int.natCast_dvd_natCast
  cases s
  · exact hCast
  · exact (Int.dvd_neg).trans hCast

theorem abs_toRat_sub_signed {s : Bool} {m v : ℕ} {e : ℤ} (hv : (v : ℚ) = m * 2 ^ e) (w : ℕ) :
    |(finite s m e).toRat - (signed s w : ℤ)| = gap v w := by
  have hGap : (gap v w : ℚ) = |(v - w : ℚ)| := by
    unfold gap
    rw [Nat.cast_natAbs]
    push_cast
    rfl
  rw [hGap, hv]
  unfold toRat
  cases s
  · rfl
  · rw [← abs_neg]
    congr 1
    simp only [signed, if_true]
    push_cast
    ring

theorem IsShortest.shows {s : Bool} {m v w : ℕ} {e : ℤ} (hNormal : IsNormal m e)
    (hv : (v : ℚ) = m * 2 ^ e) (h : IsShortest m e v w) :
    Shows (finite s m e) (signed s w) where
  same := (ofInt_eq_finite_iff hNormal).2 ⟨w, h.inInterval, rfl⟩
  roundest b hb k hDvd := by
    obtain ⟨b, hIn, rfl⟩ := (ofInt_eq_finite_iff hNormal).1 hb
    rw [tenPow_dvd_signed_iff] at hDvd ⊢
    exact h.roundest b hIn k hDvd
  nearest b hb hRound := by
    obtain ⟨b, hIn, rfl⟩ := (ofInt_eq_finite_iff hNormal).1 hb
    simp only [tenPow_dvd_signed_iff] at hRound
    rw [abs_toRat_sub_signed hv, abs_toRat_sub_signed hv]
    exact_mod_cast h.nearest b hIn hRound
  outer b hb hRound hTie := by
    obtain ⟨b, hIn, rfl⟩ := (ofInt_eq_finite_iff hNormal).1 hb
    simp only [tenPow_dvd_signed_iff] at hRound
    rw [abs_toRat_sub_signed hv, abs_toRat_sub_signed hv] at hTie
    rw [Int.abs_eq_natAbs, Int.abs_eq_natAbs, natAbs_signed, natAbs_signed]
    exact_mod_cast h.upper b hIn hRound (by exact_mod_cast hTie)

/-- Where the doubles lie no further apart than the integers, one integer becomes each. -/
theorem eq_of_exponent_nonpos {m v w : ℕ} {e : ℤ} (h : IsNormal m e)
    (hv : (v : ℚ) = m * 2 ^ e) (he : e ≤ 0) (hIn : InInterval m e w) : w = v := by
  have hNear := abs_sub_le_of_inInterval h hIn
  have hUnit : (2 : ℚ) ^ e ≤ 1 := zpow_le_one_of_nonpos₀ one_le_two he
  have hClose : |(w - v : ℚ)| < 1 := by
    rw [hv]
    linarith
  have hZero : |(w - v : ℤ)| < 1 := by exact_mod_cast hClose
  rw [Int.abs_lt_one_iff] at hZero
  omega

theorem isShortest_of_exponent_nonpos {m v : ℕ} {e : ℤ} (h : IsNormal m e)
    (hv : (v : ℚ) = m * 2 ^ e) (he : e ≤ 0) : IsShortest m e v v where
  inInterval := hv ▸ inInterval_value h
  roundest b hIn k hDvd := eq_of_exponent_nonpos h hv he hIn ▸ hDvd
  nearest b hIn _ := by rw [eq_of_exponent_nonpos h hv he hIn]
  upper b hIn _ _ := (eq_of_exponent_nonpos h hv he hIn).le

/-- No integer of 53 bits lies in the interval of a double that is too large for them. -/
theorem exponent_nonpos_of_lt {m w : ℕ} {e : ℤ} (h : IsNormal m e) (hIn : InInterval m e w)
    (hw : w < 2 ^ 53) : e ≤ 0 := by
  by_contra hLarge
  have hUnit : (2 : ℚ) ^ (1 : ℤ) ≤ 2 ^ e := zpow_le_zpow_right₀ one_le_two (by omega)
  have hLow := hIn.1.le
  rw [lowEnd_eq h] at hLow
  have hLeast : (2 : ℚ) ^ 52 - 1 / 4 ≤ m - lowGap m := by
    by_cases hPower : m = twoPow 52
    · rw [lowGap, if_pos hPower, hPower, cast_twoPow]
    · have hNext : (twoPow 52 : ℚ) + 1 ≤ m := by
        exact_mod_cast lt_of_le_of_ne h.low (Ne.symm hPower)
      rw [cast_twoPow] at hNext
      rw [lowGap, if_neg hPower]
      linarith
  have hFits : (w : ℚ) + 1 ≤ 2 ^ 53 := by exact_mod_cast hw
  have hProduct := mul_le_mul hLeast hUnit (by positivity) (by linarith)
  norm_num at hProduct hFits
  linarith

end Shelfmark.Binary64
