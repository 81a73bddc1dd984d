import Shelfmark.Proofs.Number.Numeral
import Shelfmark.Proofs.Text.Normal
import Shelfmark.Template.Builtin

/-!
# Numbers laid out with decimals

`format_num` takes a decimal and a count of places. What it answers is always a numeral of
exactly the decimal rounded to that many places, a half away from zero, because no double
gets in between. It is not always the decimal one would write: zero keeps no places, and
a result with more than five zeros behind its point is written with an exponent.

## Main results

* `formatNumber_rounds` — the answer is the rounded decimal, and when it is written out with
  just the places that were asked for.
-/

namespace Shelfmark.Template

open Shelfmark.Calendar
open Shelfmark.Text

/-- A count of decimals is taken as it stands. -/
theorem countArgument_ofInt {d : Nat} (hd : d ≤ maxDecimals) {v : Value} (what : String)
    (hv : v.toNumber? = some (Binary64.ofInt d)) : countArgument v what maxDecimals = .ok d := by
  have hCounts : ∀ n < maxDecimals + 1, (Binary64.ofInt n).isNegative = false ∧
      (Binary64.ofInt n).isWhole = true ∧ (Binary64.ofInt n).exceeds maxDecimals = false ∧
      (Binary64.ofInt n).toInt64.toNat = n := by
    decide +kernel
  obtain ⟨hSign, hWhole, hBelow, hSame⟩ := hCounts d (by omega)
  have hNumber : numberArgument v what = .ok (Binary64.ofInt d) := by rw [numberArgument, hv]
  unfold countArgument
  rw [hNumber]
  change (if (_ || !_) = true then _ else _) = _
  simp only [hSign, hWhole, hBelow, hSame]
  rfl

/-- A decimal has no blanks around it. -/
theorem trimmed_chars (p : PlainDecimal) : Trimmed p.chars := by
  have hBlank : ∀ c ∈ p.chars, isBlank c = false := by
    intro c hc
    rcases PlainDecimal.isMark_of_mem hc with hDigit | rfl | rfl
    · simp only [Char.isDigit, Bool.and_eq_true, decide_eq_true_eq] at hDigit
      have hLow : 48 ≤ c.toNat := hDigit.1
      have hHigh : c.toNat ≤ 57 := hDigit.2
      refine Bool.eq_false_iff.2 fun h => ?_
      simp only [isBlank, Bool.or_eq_true, Bool.and_eq_true, decide_eq_true_eq, beq_iff_eq] at h
      omega
    · rfl
    · rfl
  exact ⟨fun c hc => hBlank c (List.mem_of_mem_head? hc), fun c hc =>
    hBlank c (List.mem_of_mem_getLast? hc)⟩

/-- A rounded numeral is written out with the places asked for, but zero keeps none and
what is below a millionth takes an exponent once there are seven. -/
theorem isPlain_write_roundTo_iff {c : ℤ} {places d : Nat} (hd : d < 2 ^ 63) {x : Numeral}
    (hx : x = ⟨c, places⟩) :
    IsPlain (x.roundTo d).write d (x.roundTo d).value ↔
      d = 0 ∨ x.value ≠ 0 ∧ (d ≤ 6 ∨ 1 / 10 ^ 6 ≤ |(x.roundTo d).value|) := by
  have hValue : x.value = 0 ↔ x.coefficient = 0 := by
    rw [hx, Numeral.value_natScale, div_eq_zero_iff]
    simp
  obtain ⟨c', hRound⟩ := x.exists_roundTo_eq d
  by_cases hZero : x.coefficient = 0
  · rw [if_pos hZero] at hRound
    rw [hRound, Numeral.isPlain_write_iff (by decide) hd, Numeral.isSlight_iff]
    simp [hValue, hZero]
  · rw [if_neg hZero] at hRound
    have hNonzero : x.value ≠ 0 := mt hValue.1 hZero
    rw [hRound, Numeral.isPlain_write_iff hd hd, Numeral.isSlight_iff]
    simp only [true_and, not_and_or, not_lt, hNonzero, ne_eq, not_false_eq_true]
    constructor
    · exact Or.inr
    · rintro (rfl | hRest)
      · exact Or.inl (Nat.zero_le 6)
      · exact hRest

/-- **Numbers are rounded exactly**, a half away from zero, and laid out with the places asked
for unless the number is zero or the result is below a millionth and has seven places or more. -/
theorem formatNumber_rounds {s : String} {places d : Nat} {q : ℚ} {decimals : Value}
    (clock : Moment) (hs : IsPlain s.toList places q) (hPlaces : places < 2 ^ 63)
    (hd : d ≤ maxDecimals) (hDecimals : decimals.toNumber? = some (Binary64.ofInt d)) :
    ∃ (t : String) (r : ℚ),
      Builtin.formatNumber.call clock [.text s, decimals] = .ok (.text t) ∧
      IsRounding d q r ∧
      (∃ y, Numeral.read? t.toList = some y ∧ y.value = r) ∧
      (IsPlain t.toList d r ↔ d = 0 ∨ q ≠ 0 ∧ (d ≤ 6 ∨ 1 / 10 ^ 6 ≤ |r|)) := by
  have hSmall : d < 2 ^ 63 := lt_of_le_of_lt hd (by decide)
  have hTrim : trimChars s.toList = s.toList := by
    obtain ⟨p, hChars, -, -⟩ := hs
    rw [← hChars]
    exact trimChars_of_trimmed (trimmed_chars p)
  obtain ⟨c, hRead, rfl⟩ := Numeral.exists_read?_of_isPlain hs hPlaces
  obtain ⟨x, hx⟩ : ∃ x : Numeral, x = ⟨c, places⟩ := ⟨_, rfl⟩
  rw [← hx] at hRead ⊢
  have hCall : Builtin.formatNumber.call clock [.text s, decimals] =
      .ok (.text (String.ofList (x.roundTo d).write)) := by
    have hDigits : digitsOf (.text s) = .ok s.toList := by rw [digitsOf, hTrim]
    change formatNumber (.text s) decimals = _
    unfold formatNumber
    rw [countArgument_ofInt hd "decimals" hDecimals, hDigits]
    simp only [bind, Except.bind, hRead]
    rfl
  have hBack : Numeral.read? (x.roundTo d).write = some (x.roundTo d) := by
    obtain ⟨c', hRound⟩ := x.exists_roundTo_eq d
    rw [hRound]
    exact Numeral.read?_write (by split <;> omega)
  refine ⟨_, (x.roundTo d).value, hCall, x.roundTo_isRounding d, ?_, ?_⟩
  · rw [String.toList_ofList]
    exact ⟨_, hBack, rfl⟩
  · rw [String.toList_ofList]
    exact isPlain_write_roundTo_iff hSmall hx

theorem formatNumber_rounds_sample :
    IsPlain "-9.995".toList 3 (-9995 / 10 ^ 3) ∧
      ∃ (t : String) (r : ℚ),
        Builtin.formatNumber.call
            ⟨0, 0, 0⟩ [.text "-9.995", .number (Binary64.ofInt (2 : Nat))] = .ok (.text t) ∧
        IsRounding 2 (-9995 / 10 ^ 3) r ∧
        (∃ y, Numeral.read? t.toList = some y ∧ y.value = r) ∧
        (IsPlain t.toList 2 r ↔
          2 = 0 ∨ (-9995 / 10 ^ 3 : ℚ) ≠ 0 ∧ (2 ≤ 6 ∨ 1 / 10 ^ 6 ≤ |r|)) := by
  have hPlain : IsPlain "-9.995".toList 3 (-9995 / 10 ^ 3) :=
    ⟨⟨true, ['9'], ['9', '9', '5'], by decide, List.all_eq_true.1 rfl⟩, by decide, rfl, by
      change ((-9995 : ℤ) / 10 ^ 3 : ℚ) = _
      norm_num⟩
  exact ⟨hPlain, formatNumber_rounds _ hPlain (by decide) (by decide) rfl⟩

/-- Zero with three places is not written with three places. -/
theorem formatNumber_not_always_plain :
    IsPlain "0".toList 0 0 ∧
      ∃ t : String,
        Builtin.formatNumber.call
            ⟨0, 0, 0⟩ [.text "0", .number (Binary64.ofInt (3 : Nat))] = .ok (.text t) ∧
        ∀ r : ℚ, ¬ IsPlain t.toList 3 r := by
  refine ⟨⟨⟨false, ['0'], [], by decide, List.all_eq_true.1 rfl⟩, by decide, rfl, ?_⟩, "0",
    rfl, ?_⟩
  · change ((0 : ℤ) / 10 ^ 0 : ℚ) = 0
    norm_num
  · intro r hPlain
    obtain ⟨c, hRead, -⟩ := Numeral.exists_read?_of_isPlain hPlain (by decide)
    have hZero : Numeral.read? "0".toList = some ⟨0, 0⟩ := by decide +kernel
    rw [hZero] at hRead
    simp at hRead

end Shelfmark.Template
