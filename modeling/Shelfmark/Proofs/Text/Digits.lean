import Shelfmark.Number.Power
import Shelfmark.Text.Digits

/-!
# Writing and reading integers

An integer is written as digits behind a minus sign if it has one, and what is written
is read back as that integer. The words of 64 bits are the integers that fit them, so
the same holds of them.
-/

namespace Shelfmark.Text

theorem isDigit_of_mem_natDigits {n : Nat} {c : Char} (h : c ∈ natDigits n) :
    c.isDigit = true :=
  Nat.isDigit_of_mem_toDigits (by decide) (by decide) h

theorem length_natDigits_pos (n : Nat) : 0 < (natDigits n).length := Nat.length_toDigits_pos

theorem length_natDigits_le_iff {n k : Nat} (hk : 0 < k) :
    (natDigits n).length ≤ k ↔ n < tenPow k :=
  Nat.length_toDigits_le_iff (by decide) hk

/-- A written integer is a digit or a minus sign with digits behind it. -/
theorem intDigits_eq_cons (i : Int) :
    ∃ c ds, intDigits i = c :: ds ∧ (c.isDigit = true ∨ c = '-' ∧ ds ≠ []) ∧
      ∀ d ∈ ds, d.isDigit = true := by
  cases i with
  | ofNat n =>
      obtain ⟨c, ds, hDigits⟩ := List.exists_cons_of_ne_nil (natDigits_ne_nil n)
      have hAll : ∀ d ∈ c :: ds, d.isDigit = true := fun d hd =>
        isDigit_of_mem_natDigits (n := n) (hDigits ▸ hd)
      exact ⟨c, ds, hDigits, Or.inl (hAll c (by simp)), fun d hd => hAll d (by simp [hd])⟩
  | negSucc n =>
      exact ⟨'-', _, rfl, Or.inr ⟨rfl, natDigits_ne_nil _⟩, fun d => isDigit_of_mem_natDigits⟩

theorem readInt?_intDigits (i : Int) : readInt? (intDigits i) = some i := by
  cases i with
  | ofNat n =>
      have hDigit : ∀ c ds, natDigits n = c :: ds → c.isDigit = true := fun c ds h =>
        isDigit_of_mem_natDigits (n := n) (by simp [h])
      unfold intDigits readInt?
      split
      · exact absurd (hDigit '-' _ ‹_›) (by decide)
      · exact absurd (hDigit '+' _ ‹_›) (by decide)
      · simp [readNat?_natDigits]
  | negSucc n =>
      simp only [intDigits, readInt?, readNat?_natDigits]
      rfl

theorem fitsInt64_toInt (v : Int64) : fitsInt64 v.toInt = true := by
  have hLow := v.le_toInt
  have hHigh := v.toInt_lt
  simp only [fitsInt64, Int64.toInt_minValue, Int64.toInt_maxValue, Bool.and_eq_true,
    decide_eq_true_eq]
  omega

theorem readInt64?_intDigits (v : Int64) : readInt64? (intDigits v.toInt) = some v := by
  simp [readInt64?, readInt?_intDigits, fitsInt64_toInt]

end Shelfmark.Text
