import Mathlib.Algebra.Group.Nat.Defs
import Shelfmark.Calendar.Pattern
import Shelfmark.Proofs.Text.Digits

/-!
# The fields of a moment as they are shown

A moment is shown in two ways, and each has its own digits. Timestamps pad the decimal digits
of a number with zeros. Patterns compute two characters from a number, which is the same only
below a hundred; a day with a month 100 would be shown as no number at all. So it matters that
the calendar never has such a field: a month counts to 12 and a day to 31 on every date that is
computed from days, whatever their number.

Only the second has a bound that is not the calendar's: a leap second counts by the nanoseconds
of the second before it, so there must be less than two thousand million of them. A moment that is
read from a timestamp has no more.

## Main results

* `Date.month_ofDays`, `Date.day_ofDays` — the months and the days of the calendar.
* `Moment.nanos_of_readRfc3339?` — the nanoseconds of a timestamp.
* `PatternItem.twoDigits_zero`, `PatternItem.twoDigits_none`, `PatternItem.yearDigits_zero` —
  patterns write the numbers that timestamps write.
-/

namespace Shelfmark.Calendar

open Shelfmark.Text

/-! ## Dates from days -/

namespace Date

/-- A month of 31 and one of 30 days alternate but for one place, and the rounding of 153 days
in five months takes that into account. -/
theorem day_ofDays (days : Int) : 1 ≤ (ofDays days).day ∧ (ofDays days).day ≤ 31 := by
  unfold ofDays
  dsimp only
  omega

/-- The day of a year that starts in March, from the day of the cycle of 400 years. -/
private theorem dayOfYear_bounds {d y : Int} (hLow : 0 ≤ d) (hHigh : d ≤ 146096)
    (hYear : (d - d / 1460 + d / 36524 - d / 146096) / 365 = y) :
    0 ≤ d - (365 * y + y / 4 - y / 100) ∧ d - (365 * y + y / 4 - y / 100) ≤ 365 := by
  by_cases hLast : d = 146096
  · subst hLast
    omega
  · -- before the last day of the cycle the year is known by its century and its leap day
    have hCycle : d / 146096 = 0 := by omega
    obtain ⟨c, hc⟩ : ∃ c, d / 36524 = c := ⟨_, rfl⟩
    have hCenturies : 0 ≤ c ∧ c ≤ 3 := by omega
    have hLeaps : c ≤ d / 1460 ∧ d / 1460 ≤ 25 * c + 25 := by omega
    have hCentury : y / 100 = c := by omega
    have hQuarter : y / 4 ≤ d / 1460 ∧ d / 1460 ≤ y / 4 + 1 := by omega
    omega

theorem month_ofDays (days : Int) : 1 ≤ (ofDays days).month ∧ (ofDays days).month ≤ 12 := by
  unfold ofDays
  dsimp only
  generalize hd : days + marchEpoch - (days + marchEpoch) / 146097 * 146097 = d
  obtain ⟨hLow, hHigh⟩ := dayOfYear_bounds (d := d) (by omega) (by omega) rfl
  generalize d - (365 * _ + _ / 4 - _ / 100) = n at hLow hHigh ⊢
  split <;> omega

end Date

/-! ## Moments -/

namespace Moment

variable (m : Moment)

theorem hour_lt : m.hour < 24 := by
  unfold hour secondOfDay
  omega

theorem minute_lt : m.minute < 60 := by
  unfold minute
  omega

/-- A leap second is the sixtieth of its minute. -/
theorem second_le {m : Moment} (h : m.nanos < 2000000000) : m.second ≤ 60 := by
  unfold second
  omega

/-! ## Nanoseconds of a timestamp -/

private theorem digitValue_lt {c : Char} (h : c.isDigit = true) : c.toNat - '0'.toNat < 10 := by
  simp only [Char.isDigit, ge_iff_le, Bool.and_eq_true, decide_eq_true_eq, UInt32.le_iff_toNat_le,
    Char.reduceVal] at h
  have hHigh : c.toNat ≤ 57 := h.2
  have hZero : '0'.toNat = 48 := rfl
  omega

/-- What is read so far is the number `k`, and it grows tenfold with each digit. -/
private theorem ofDigitChars_lt (cs : List Char) (k : Nat) (hDigits : ∀ c ∈ cs, c.isDigit = true) :
    Nat.ofDigitChars 10 cs k < (k + 1) * 10 ^ cs.length := by
  induction cs generalizing k with
  | nil => simp
  | cons c cs ih =>
    have hDigit := digitValue_lt (hDigits c (.head _))
    rw [Nat.ofDigitChars_cons, List.length_cons, Nat.pow_succ']
    calc Nat.ofDigitChars 10 cs (10 * k + (c.toNat - '0'.toNat))
        < (10 * k + (c.toNat - '0'.toNat) + 1) * 10 ^ cs.length :=
          ih _ fun d hd => hDigits d (.tail _ hd)
      _ ≤ ((k + 1) * 10) * 10 ^ cs.length := Nat.mul_le_mul_right _ (by omega)
      _ = (k + 1) * (10 * 10 ^ cs.length) := Nat.mul_assoc ..

theorem nanosOf_lt {digits : List Char} (hDigits : ∀ c ∈ digits, c.isDigit = true) :
    nanosOf digits < 1000000000 := by
  have hLength : (digits.take 9 ++ List.replicate (9 - (digits.take 9).length) '0').length = 9 := by
    rw [List.length_append, List.length_replicate, List.length_take]
    omega
  have hAll : ∀ c ∈ digits.take 9 ++ List.replicate (9 - (digits.take 9).length) '0',
      c.isDigit = true := by
    intro c hc
    rcases List.mem_append.1 hc with hc | hc
    · exact hDigits c (List.mem_of_mem_take hc)
    · rw [List.eq_of_mem_replicate hc]
      rfl
  have hBound := ofDigitChars_lt _ 0 hAll
  rw [hLength] at hBound
  exact hBound

theorem nanos_of_readFraction? {cs rest : List Char} {nanos : Nat}
    (h : readFraction? cs = some (nanos, rest)) : nanos < 1000000000 := by
  unfold readFraction? at h
  split at h
  · simp only [Option.ite_none_left_eq_some, Option.some.injEq, Prod.mk.injEq] at h
    obtain ⟨_, rfl, _⟩ := h
    exact nanosOf_lt (List.all_eq_true.1 List.all_takeWhile)
  · injection h with h
    injection h with h _
    omega

/-- A fraction is less than a second, and a leap second adds one. -/
theorem nanos_of_readRfc3339? {cs : List Char} {m : Moment} (h : readRfc3339? cs = some m) :
    m.nanos < 2000000000 := by
  unfold readRfc3339? at h
  -- Eleven fields and marks stand in front of the fraction, and the offset stands behind it.
  iterate 11
    replace h := Option.bind_eq_some_iff.1 h
    obtain ⟨_, -, h⟩ := h
  obtain ⟨⟨nanos, _⟩, hNanos, h⟩ := Option.bind_eq_some_iff.1 h
  obtain ⟨_, -, h⟩ := Option.bind_eq_some_iff.1 h
  obtain ⟨-, h⟩ := Option.ite_none_right_eq_some.1 h
  obtain rfl := Option.some.inj h
  have hFraction := nanos_of_readFraction? hNanos
  dsimp only
  split <;> omega

/-- A moment that is counted in seconds has no nanoseconds. -/
theorem nanos_of_ofSeconds? {seconds : Int} {m : Moment} (h : ofSeconds? seconds = some m) :
    m.nanos = 0 := by
  simp only [ofSeconds?, Option.ite_none_right_eq_some, Option.some.injEq] at h
  rw [← h.2]

end Moment

/-! ## Digits -/

theorem zeroPadded_of_length {width n : Nat} (h : width ≤ (natDigits n).length) :
    zeroPadded width n = natDigits n := by
  have hNone : width - (natDigits n).length = 0 := by omega
  rw [zeroPadded, padStart, hNone, List.replicate_zero, List.nil_append]

namespace PatternItem

theorem twoDigits_zero {n : Nat} (h : n < 100) : twoDigits .zero n = zeroPadded 2 n := by
  revert n
  decide

theorem twoDigits_none {n : Nat} (h : n < 100) : twoDigits .none n = natDigits n := by
  revert n
  decide

/-- Patterns and timestamps write the same years. -/
theorem yearDigits_zero (year : Int) : yearDigits .zero year = yearChars year := by
  unfold yearDigits yearChars signedDigits
  simp only [Bool.and_eq_true, decide_eq_true_eq]
  by_cases hFour : 1000 ≤ year ∧ year ≤ 9999
  · have hPlain : 0 ≤ year ∧ year ≤ 9999 := by omega
    have hLength : 4 ≤ (natDigits year.toNat).length := by
      refine Nat.le_of_not_lt fun hShort => ?_
      have hSmall : year.toNat < 1000 :=
        (length_natDigits_le_iff (k := 3) (by decide)).1 (Nat.le_of_lt_succ hShort)
      omega
    rw [if_pos hFour, if_pos hPlain, zeroPadded_of_length hLength]
  · rw [if_neg hFour]
    by_cases hPlain : 0 ≤ year ∧ year ≤ 9999
    · have hSign : ¬ year < 0 := by omega
      have hDigits : year.natAbs = year.toNat := by omega
      rw [if_pos hPlain, if_pos hPlain, if_neg hSign, hDigits]
      rfl
    · rw [if_neg hPlain, if_neg hPlain]
      split <;> rfl

end PatternItem

end Shelfmark.Calendar
