/-!
# Ascending ranges of code points

Properties of characters are kept as tables of closed ranges in ascending
order. Looking a character up stops at the first range that starts above it,
so common characters, which stand at the front of every table, cost little.
-/

namespace Shelfmark.Text

/-- Whether `n` lies in one of the ascending ranges. -/
def inRanges : List (Nat × Nat) → Nat → Bool
  | [], _ => false
  | (first, last) :: rest, n =>
      if n < first then false
      else if n ≤ last then true
      else inRanges rest n

/-- A character found in a table lies in one of its ranges. -/
theorem exists_range_of_inRanges {ranges : List (Nat × Nat)} {n : Nat}
    (h : inRanges ranges n = true) :
    ∃ r ∈ ranges, r.1 ≤ n ∧ n ≤ r.2 := by
  induction ranges with
  | nil => simp [inRanges] at h
  | cons r rest ih =>
      obtain ⟨first, last⟩ := r
      unfold inRanges at h
      split at h
      · simp at h
      · split at h
        · exact ⟨(first, last), by simp, by omega, by assumption⟩
        · obtain ⟨r, hMem, hIn⟩ := ih h
          exact ⟨r, by simp [hMem], hIn⟩

end Shelfmark.Text
