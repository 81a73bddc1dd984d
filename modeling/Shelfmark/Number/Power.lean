/-!
# Powers of two and ten

A double is an integer scaled by a power of two, and a decimal one scaled by a
power of ten. All arithmetic on them is done on natural numbers, so these powers
have natural exponents, and a negative one divides.
-/

namespace Shelfmark

/-- A power of two. -/
def twoPow (k : Nat) : Nat := Nat.pow 2 k

/-- A power of ten. -/
def tenPow (k : Nat) : Nat := Nat.pow 10 k

theorem twoPow_succ (k : Nat) : twoPow (k + 1) = twoPow k * 2 := rfl

theorem tenPow_zero : tenPow 0 = 1 := rfl

theorem tenPow_succ (k : Nat) : tenPow (k + 1) = tenPow k * 10 := rfl

theorem twoPow_pos (k : Nat) : 0 < twoPow k := by
  induction k with
  | zero => exact Nat.one_pos
  | succ k ih =>
      have h := twoPow_succ k
      omega

theorem tenPow_pos (k : Nat) : 0 < tenPow k := by
  induction k with
  | zero => exact Nat.one_pos
  | succ k ih =>
      have h := tenPow_succ k
      omega

end Shelfmark
