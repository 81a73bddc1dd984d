import Mathlib
import Shelfmark.Proofs.Store.Sound

/-!
# Rows in the order of their identifiers

A new row gets an identifier above all others of its kind and stands at the end. No change
gives a row another identifier, and removals keep the order of what is left. So the rows of
a kind stay in the strict order of their identifiers, all of which are positive:
`Tables.Numbered`. The order in which rows were added is then the order of a column, and
there are fewer rows than identifiers.
-/

namespace Shelfmark

namespace Tables

/-- Whether the rows of every kind ascend strictly in their identifiers, from 1 on. -/
structure Numbered (t : Tables) : Prop where
  ascending : ∀ kind, (t.rows kind).Pairwise fun a b => a.id.toInt < b.id.toInt
  positive : ∀ kind, ∀ row ∈ t.rows kind, 0 < row.id.toInt

/-! ## The next identifier -/

private theorem le_greatest (rows : List Row) (least : Int64) :
    least.toInt ≤ (rows.foldl (fun greatest row => if greatest < row.id then row.id else greatest)
      least).toInt ∧
    ∀ row ∈ rows, row.id.toInt ≤
      (rows.foldl (fun greatest row => if greatest < row.id then row.id else greatest)
        least).toInt := by
  induction rows generalizing least with
  | nil => simp
  | cons row rows ih =>
      rw [List.foldl_cons]
      obtain ⟨hFirst, hRest⟩ := ih (if least < row.id then row.id else least)
      have hBoth : least.toInt ≤ (if least < row.id then row.id else least).toInt ∧
          row.id.toInt ≤ (if least < row.id then row.id else least).toInt := by
        split <;> rename_i hLess <;> rw [Int64.lt_iff_toInt_lt] at hLess <;> omega
      refine ⟨Int.le_trans hBoth.1 hFirst, fun other hOther => ?_⟩
      rcases List.mem_cons.1 hOther with rfl | hIn
      · exact Int.le_trans hBoth.2 hFirst
      · exact hRest other hIn

private theorem toInt_succ {i : Int64} (h : i ≠ Int64.maxValue) : (i + 1).toInt = i.toInt + 1 := by
  have hLess := Int64.toInt_lt i
  have hLeast := Int64.le_toInt i
  have hNe : i.toInt ≠ 2 ^ 63 - 1 := fun hEq => h (Int64.toInt_inj.1 hEq)
  rw [Int64.toInt_add, Int64.toInt_one, Int.bmod_eq_of_le] <;> omega

/-- The next identifier comes after one that is neither below those in use nor, where a
sequence is kept, below that. -/
private theorem exists_last {t : Tables} {kind : Kind} {id : Int64}
    (h : t.nextId? kind = some id) :
    ∃ last : Int64, id.toInt = last.toInt + 1 ∧ (t.greatestId kind).toInt ≤ last.toInt ∧
      (kind = .objectRelation → t.objectSequence.toInt ≤ last.toInt) := by
  unfold nextId? at h
  dsimp only at h
  generalize hLast : (if (decide (kind = .objectRelation) &&
    decide (t.greatestId kind < t.objectSequence)) = true
      then t.objectSequence else t.greatestId kind) = last at h
  split at h
  · cases h
  · rename_i hMore
    cases h
    simp only [Bool.and_eq_true, decide_eq_true_eq, Int64.lt_iff_toInt_lt] at hLast
    refine ⟨last, toInt_succ hMore, ?_, fun hKind => ?_⟩
    · rw [← hLast]
      split <;> omega
    · rw [← hLast]
      split
      · exact Int.le_refl _
      · rename_i hSequence
        have hAbove : ¬(t.greatestId kind).toInt < t.objectSequence.toInt := fun hLess =>
          hSequence ⟨hKind, hLess⟩
        omega

/-- The next identifier is above all that are in use. -/
theorem lt_of_nextId? {t : Tables} {kind : Kind} {id : Int64} (h : t.nextId? kind = some id) :
    0 < id.toInt ∧ ∀ row ∈ t.rows kind, row.id.toInt < id.toInt := by
  obtain ⟨hZero, hRows⟩ := le_greatest (t.rows kind) 0
  change (0 : Int) ≤ (t.greatestId kind).toInt at hZero
  obtain ⟨last, hNext, hAbove, -⟩ := exists_last h
  refine ⟨by omega, fun row hRow => ?_⟩
  have hBelow : row.id.toInt ≤ (t.greatestId kind).toInt := hRows row hRow
  omega

/-- The next identifier of an object is above the last one that was given out. -/
theorem sequence_lt_of_nextId? {t : Tables} {id : Int64}
    (h : t.nextId? .objectRelation = some id) : t.objectSequence.toInt < id.toInt := by
  obtain ⟨last, hNext, -, hSequence⟩ := exists_last h
  have hAbove := hSequence rfl
  omega

/-! ## What changes keep -/

theorem Numbered.inserted {t t' : Tables} {kind : Kind} {row : Row} (h : t.Numbered)
    (hInserted : t.Inserted kind row t') : t'.Numbered := by
  obtain ⟨hPositive, hAbove⟩ := lt_of_nextId? hInserted.next
  constructor
  · intro other
    rw [hInserted.result, rows_append]
    split
    · refine List.pairwise_append.2 ⟨h.ascending kind, by simp, ?_⟩
      intro a ha b hb
      rw [List.mem_singleton.1 hb]
      exact hAbove a ha
    · exact h.ascending other
  · intro other r hr
    rw [hInserted.result, rows_append] at hr
    split at hr
    · rcases List.mem_append.1 hr with hOld | hNew
      · exact h.positive kind r hOld
      · rw [List.mem_singleton.1 hNew]
        exact hPositive
    · exact h.positive other r hr

theorem Numbered.replaced {t t' : Tables} {kind : Kind} {old new : Row} (h : t.Numbered)
    (hId : new.id = old.id) (hReplaced : t.Replaced kind old new t') : t'.Numbered := by
  have hSame : ∀ r : Row, (if r.id = old.id then new else r).id = r.id := by
    intro r
    split
    · rename_i hEq
      rw [hId, hEq]
    · rfl
  constructor
  · intro other
    rw [hReplaced.rows_eq]
    split
    · refine List.pairwise_map.2 ((h.ascending kind).imp fun hLess => ?_)
      rw [hSame, hSame]
      exact hLess
    · exact h.ascending other
  · intro other r hr
    rw [hReplaced.rows_eq] at hr
    split at hr
    · obtain ⟨x, hx, rfl⟩ := List.mem_map.1 hr
      rw [hSame]
      exact h.positive kind x hx
    · exact h.positive other r hr

theorem Numbered.sublist {t t' : Tables} (h : t.Numbered)
    (hSub : ∀ kind, (t'.rows kind).Sublist (t.rows kind)) : t'.Numbered :=
  ⟨fun kind => (h.ascending kind).sublist (hSub kind),
    fun kind row hRow => h.positive kind row ((hSub kind).subset hRow)⟩

/-! ## How many rows there are -/

private theorem length_le_of_ascending {rows : List Row} {least : Int}
    (hAscending : rows.Pairwise fun a b => a.id.toInt < b.id.toInt)
    (hAbove : ∀ row ∈ rows, least < row.id.toInt) (hLeast : least < 2 ^ 63) :
    (rows.length : Int) < 2 ^ 63 - least := by
  induction rows generalizing least with
  | nil => simpa using hLeast
  | cons row rows ih =>
      obtain ⟨hFirst, hRest⟩ := List.pairwise_cons.1 hAscending
      have hRow := hAbove row (by simp)
      have hTail := ih hRest hFirst (Int64.toInt_lt row.id)
      rw [List.length_cons]
      omega

/-- Every kind has fewer rows than there are positive identifiers. -/
theorem Numbered.length_lt {t : Tables} (h : t.Numbered) (kind : Kind) :
    (t.rows kind).length < 2 ^ 63 := by
  have hLength := length_le_of_ascending (h.ascending kind) (h.positive kind) (by decide)
  omega

end Tables

end Shelfmark
