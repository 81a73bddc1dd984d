import Shelfmark.Proofs.Store.Row

/-!
# What a successful change does

Adding, setting and removing rows are each described once, by everything that a
successful change tells: the new tables, and the rules that were tested on the way.
The rules of one row are collected in `Tables.Admits`.

Later modules derive what every change keeps from these descriptions and do not open
the changes again.
-/

namespace Shelfmark

namespace Tables

/-! ## The rules of one row -/

/-- The rules that a row of a kind obeys beside other rows of the kind. -/
structure Admits (t : Tables) (kind : Kind) (others : List Row) (row : Row) : Prop where
  complete : ∀ f ∈ kind.givenFields, f.nullable = false →
    (row.cell kind f.column).isNull = false
  rated : kind = .resource → (row.cell kind "rating").isRating = true
  fresh : ∀ r ∈ others, r.id ≠ row.id
  unique : ∀ columns ∈ kind.uniqueColumns, ∀ r ∈ others, kind.agree columns r row = false
  leads : ∀ r ∈ kind.references, t.hasRow r.target "uuid" (row.cell kind r.column) = true

private theorem missingValue?_eq_none {kind : Kind} {row : Row} :
    missingValue? kind row = none ↔
      ∀ f ∈ kind.givenFields, f.nullable = false → (row.cell kind f.column).isNull = false := by
  simp [missingValue?]

private theorem badRating?_eq_none {kind : Kind} {row : Row} :
    badRating? kind row = none ↔
      (kind = .resource → (row.cell kind "rating").isRating = true) := by
  unfold badRating?
  by_cases hKind : kind = .resource
  · simp [hKind]
  · simp [hKind]

private theorem clash?_eq_none {kind : Kind} {others : List Row} {row : Row} :
    clash? kind others row = none ↔
      (∀ r ∈ others, r.id ≠ row.id) ∧
        ∀ columns ∈ kind.uniqueColumns, ∀ r ∈ others, kind.agree columns r row = false := by
  unfold clash?
  by_cases hId : ∃ r ∈ others, r.id = row.id
  · have hAny : (others.any fun r => decide (r.id = row.id)) = true := by simpa using hId
    simp only [hAny, if_true, reduceCtorEq, false_iff]
    rintro ⟨hFresh, _⟩
    obtain ⟨r, hr, hEq⟩ := hId
    exact hFresh r hr hEq
  · have hAny : (others.any fun r => decide (r.id = row.id)) = false := by simpa using hId
    have hFresh : ∀ r ∈ others, r.id ≠ row.id := fun r hr hEq => hId ⟨r, hr, hEq⟩
    simp only [hAny, Bool.false_eq_true, if_false]
    simpa using fun _ => hFresh

private theorem dangling?_eq_none {t : Tables} {kind : Kind} {row : Row} :
    t.dangling? kind row = none ↔
      ∀ r ∈ kind.references, t.hasRow r.target "uuid" (row.cell kind r.column) = true := by
  simp [dangling?]

/-- No rule is broken exactly when the row is admitted. -/
theorem violation?_eq_none_iff {t : Tables} {kind : Kind} {others : List Row} {row : Row} :
    t.violation? kind others row = none ↔ t.Admits kind others row := by
  simp only [violation?, Option.or_eq_none_iff, missingValue?_eq_none, badRating?_eq_none,
    clash?_eq_none, dangling?_eq_none]
  constructor
  · rintro ⟨hComplete, hRated, ⟨hFresh, hUnique⟩, hLeads⟩
    exact ⟨hComplete, hRated, hFresh, hUnique, hLeads⟩
  · rintro ⟨hComplete, hRated, hFresh, hUnique, hLeads⟩
    exact ⟨hComplete, hRated, ⟨hFresh, hUnique⟩, hLeads⟩

/-- A permitted change met no fault. -/
theorem permit_eq_ok_iff {α : Type} {value result : α} {fault : Option Fault} :
    permit value fault = .ok result ↔ fault = none ∧ value = result := by
  cases fault <;> simp [permit]

/-! ## Adding a row -/

/-- The tables after an insertion, and the rules that the new row obeys. -/
structure Inserted (t : Tables) (kind : Kind) (row : Row) (t' : Tables) : Prop where
  next : t.nextId? kind = some row.id
  result : t' = t.append kind row
  admits : t.Admits kind (t.rows kind) row
  unheld : kind = .groupRelation → t.exclusiveTypeHeld? row = none

private theorem converted_eq {fields : List Field} {cells : List Cell}
    (h : List.Forall₂ Field.Stores fields cells) :
    ((fields.zip cells).map fun p => p.1.convert p.2) = cells := by
  induction h with
  | nil => rfl
  | cons hStores _ ih => simp [hStores.convert, ih]

theorem inserted_of_insert {t t' : Tables} {kind : Kind} {cells : List Cell} {id : Int64}
    (hCells : List.Forall₂ Field.Stores kind.givenFields cells)
    (h : t.insert kind cells = .ok (t', id)) : t.Inserted kind ⟨id, cells⟩ t' := by
  unfold insert at h
  rw [converted_eq hCells] at h
  dsimp only at h
  split at h
  · cases h
  · rename_i next hNext
    obtain ⟨hNone, hResult⟩ := permit_eq_ok_iff.1 h
    rw [Option.or_eq_none_iff, violation?_eq_none_iff] at hNone
    cases hResult
    refine ⟨hNext, rfl, hNone.2, ?_⟩
    intro hKind
    have hHeld := hNone.1
    rw [if_pos hKind] at hHeld
    exact hHeld

/-- A row that obeys the rules is inserted. -/
theorem insert_of_inserted {t t' : Tables} {kind : Kind} {cells : List Cell} {id : Int64}
    (hCells : List.Forall₂ Field.Stores kind.givenFields cells)
    (h : t.Inserted kind ⟨id, cells⟩ t') : t.insert kind cells = .ok (t', id) := by
  unfold insert
  rw [converted_eq hCells, h.next]
  refine permit_eq_ok_iff.2 ⟨?_, by rw [h.result]⟩
  rw [Option.or_eq_none_iff, violation?_eq_none_iff]
  refine ⟨?_, h.admits⟩
  split
  · rename_i hKind
    exact h.unheld hKind
  · rfl

/-! ## Changing a row -/

/-- The tables after a row is replaced, and the rules that the change obeys. -/
structure Replaced (t : Tables) (kind : Kind) (old new : Row) (t' : Tables) : Prop where
  result : t' = t.withRows kind ((t.rows kind).map fun r => if r.id = old.id then new else r)
  placed : t.misplaced? kind old new = none
  admits : t.Admits kind ((t.rows kind).filter fun r => r.id != old.id) new
  referred : t.orphans? kind old new = none

theorem replaced_of_update {t t' : Tables} {kind : Kind} {key : Cell}
    {set : List (Field × Cell)} {n : Nat} (hSet : Row.Settable kind set)
    (h : t.update kind key set = .ok (t', n)) :
    (t.find? kind key = none ∧ t' = t ∧ n = 0) ∨
      ∃ old, t.find? kind key = some old ∧ n = 1 ∧
        t.Replaced kind old (old.assign kind set) t' := by
  unfold update at h
  cases hFind : t.find? kind key with
  | none =>
      simp only [hFind] at h
      cases h
      exact Or.inl ⟨rfl, rfl, rfl⟩
  | some old =>
      simp only [hFind, assignCells_eq hSet] at h
      obtain ⟨hNone, hResult⟩ := permit_eq_ok_iff.1 h
      rw [Option.or_eq_none_iff, Option.or_eq_none_iff, violation?_eq_none_iff] at hNone
      cases hResult
      refine Or.inr ⟨old, rfl, rfl, ?_, hNone.1, hNone.2.1, hNone.2.2⟩
      rw [replaceRow, if_pos (Row.assign_id kind old set)]

/-- A row is changed when the rules allow it. -/
theorem update_of_replaced {t t' : Tables} {kind : Kind} {key : Cell}
    {set : List (Field × Cell)} {old : Row} (hSet : Row.Settable kind set)
    (hFind : t.find? kind key = some old) (h : t.Replaced kind old (old.assign kind set) t') :
    t.update kind key set = .ok (t', 1) := by
  unfold update
  simp only [hFind, assignCells_eq hSet]
  refine permit_eq_ok_iff.2 ⟨?_, ?_⟩
  · rw [Option.or_eq_none_iff, Option.or_eq_none_iff, violation?_eq_none_iff]
    exact ⟨h.placed, h.admits, h.referred⟩
  · rw [h.result, replaceRow, if_pos (Row.assign_id kind old set)]

/-! ## Removing rows -/

/-- Kinds that others refer to are not dependent, and no kind refers to itself. -/
theorem target_of_reference {kind : Kind} {r : Reference} (h : r ∈ kind.references) :
    r.target.isDependent = false ∧ r.target ≠ kind ∧ r.target.keyColumn = "uuid" := by
  revert r
  cases kind <;> decide

/-- Whether a row of a dependent kind refers to an identifier of a kind. -/
def dependsOn (child kind : Kind) (uuid : Cell) (row : Row) : Bool :=
  child.references.any fun r => r.target = kind && (row.cell child r.column).same uuid

theorem rows_without (t : Tables) (kind other : Kind) (doomed : Row → Bool) :
    (t.without kind doomed).rows other =
      if other = kind then (t.rows kind).filter fun row => !doomed row else t.rows other := by
  unfold without
  split
  · rename_i hEq
    rw [hEq, rows_withRows_self]
  · rename_i hNe
    exact rows_withRows_of_ne t _ hNe

theorem without_sublist (t : Tables) (kind : Kind) (doomed : Row → Bool) (other : Kind) :
    ((t.without kind doomed).rows other).Sublist (t.rows other) := by
  rw [rows_without]
  split
  · rename_i hEq
    rw [hEq]
    exact List.filter_sublist
  · exact List.Sublist.refl _

theorem rows_withoutDependents (t : Tables) (kind : Kind) (uuid : Cell) (child : Kind) :
    (t.withoutDependents kind uuid).rows child =
      if child.isDependent then (t.rows child).filter fun row => !dependsOn child kind uuid row
      else t.rows child := by
  have hFold : t.withoutDependents kind uuid =
      ((t.without .objectRelation (dependsOn .objectRelation kind uuid)).without .personRelation
        (dependsOn .personRelation kind uuid)).without .groupRelation
        (dependsOn .groupRelation kind uuid) := rfl
  rw [hFold]
  cases child <;> simp [rows_without, Kind.isDependent]

/-- The tables after a row is removed with what depends on it. -/
structure Removed (t : Tables) (kind : Kind) (row : Row) (t' : Tables) : Prop where
  result : t' =
    (t.without kind fun r => r.id = row.id).withoutDependents kind (row.cell kind "uuid")
  unreferred : t'.isReferenced kind (row.cell kind "uuid") = false

theorem removed_of_remove {t t' : Tables} {kind : Kind} {key : Cell} {n : Nat}
    (h : t.remove kind key = .ok (t', n)) :
    (t.find? kind key = none ∧ t' = t ∧ n = 0) ∨
      ∃ row, t.find? kind key = some row ∧ n = 1 ∧ t.Removed kind row t' := by
  unfold remove at h
  cases hFind : t.find? kind key with
  | none =>
      simp only [hFind] at h
      cases h
      exact Or.inl ⟨rfl, rfl, rfl⟩
  | some row =>
      simp only [hFind] at h
      obtain ⟨hNone, hResult⟩ := permit_eq_ok_iff.1 h
      cases hResult
      refine Or.inr ⟨row, rfl, rfl, rfl, ?_⟩
      simpa using hNone

/-- A row that is left was there before. -/
theorem Removed.sublist {t t' : Tables} {kind : Kind} {row : Row} (h : t.Removed kind row t')
    (other : Kind) : (t'.rows other).Sublist (t.rows other) := by
  have hFirst := without_sublist t kind (fun r => r.id = row.id) other
  rw [h.result, rows_withoutDependents]
  split
  · exact List.filter_sublist.trans hFirst
  · exact hFirst

/-- Rows of a kind that depends on no other stay, apart from the removed one. -/
theorem Removed.rows_eq {t t' : Tables} {kind : Kind} {row : Row} (h : t.Removed kind row t')
    (other : Kind) (hIndependent : other.isDependent = false) :
    t'.rows other =
      if other = kind then (t.rows kind).filter fun r => !decide (r.id = row.id)
      else t.rows other := by
  rw [h.result, rows_withoutDependents, rows_without]
  simp [hIndependent]

end Tables

end Shelfmark
