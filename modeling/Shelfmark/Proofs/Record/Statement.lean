import Shelfmark.Proofs.Store.Row

/-!
# What statements write

The cells that a statement writes are what its fields store: those of an insertion
are one for each given field of the kind, so the new row fits, and those of a change
are settable. The changes that callers can ask for leave the key column alone.
-/

namespace Shelfmark

/-! ## Stored values -/

/-- The cells of assignments, each the stored form of its value. -/
def StoredAs (assignments : Assignments) (stored : List (Field × Cell)) : Prop :=
  List.Forall₂ (fun a p => p.1 = a.1 ∧ a.1.toCell a.2 = .ok p.2) assignments stored

theorem storedAs_of_storedValues {kind : Kind} {assignments : Assignments}
    {stored : List (Field × Cell)} (h : storedValues kind assignments = .ok stored) :
    StoredAs assignments stored := by
  induction assignments generalizing stored with
  | nil =>
      cases h
      exact .nil
  | cons a rest ih =>
      obtain ⟨f, value⟩ := a
      unfold storedValues at h
      cases hCell : f.toCell value with
      | error cause => simp [hCell, Fault.ofField] at h
      | ok cell =>
          simp only [hCell, Fault.ofField] at h
          cases hRest : storedValues kind rest with
          | error fault => simp [hRest, Except.map] at h
          | ok others =>
              simp only [hRest, Except.map] at h
              cases h
              exact .cons ⟨rfl, hCell⟩ (ih hRest)

/-- Values that can all be stored are stored together. -/
theorem exists_storedValues (kind : Kind) {assignments : Assignments}
    (h : ∀ a ∈ assignments, ∃ cell, a.1.toCell a.2 = .ok cell) :
    ∃ stored, storedValues kind assignments = .ok stored := by
  induction assignments with
  | nil => exact ⟨[], rfl⟩
  | cons a rest ih =>
      obtain ⟨f, value⟩ := a
      obtain ⟨cell, hCell⟩ := h (f, value) (by simp)
      obtain ⟨stored, hStored⟩ := ih fun b hb => h b (by simp [hb])
      exact ⟨(f, cell) :: stored, by simp [storedValues, hCell, hStored, Fault.ofField, Except.map]⟩

/-- The cells are determined by the values. -/
theorem StoredAs.unique {assignments : Assignments} {as bs : List (Field × Cell)}
    (ha : StoredAs assignments as) (hb : StoredAs assignments bs) : as = bs := by
  induction ha generalizing bs with
  | nil =>
      cases hb
      rfl
  | cons hHead _ ih =>
      cases hb with
      | cons hHead' hTail' =>
          have hCell := hHead.2.symm.trans hHead'.2
          rw [ih hTail', Prod.ext (hHead.1.trans hHead'.1.symm) (Except.ok.inj hCell)]

theorem StoredAs.fields {assignments : Assignments} {stored : List (Field × Cell)}
    (h : StoredAs assignments stored) : stored.map Prod.fst = assignments.map Prod.fst := by
  induction h with
  | nil => rfl
  | cons hHead _ ih => simp [hHead.1, ih]

/-- The cells stand in the order of the values. -/
theorem StoredAs.exists_getElem? {assignments : Assignments} {stored : List (Field × Cell)}
    (h : StoredAs assignments stored) {i : Nat} {f : Field} {value : FieldValue}
    (hHere : assignments[i]? = some (f, value)) :
    ∃ cell, f.toCell value = .ok cell ∧ (stored.map Prod.snd)[i]? = some cell := by
  induction h generalizing i with
  | nil => simp at hHere
  | @cons a p _ _ hHead _ ih =>
      cases i with
      | zero =>
          have hFirst : a = (f, value) := by simpa using hHere
          exact ⟨p.2, by simpa [hFirst] using hHead.2, by simp⟩
      | succ i =>
          obtain ⟨cell, hCell, hAt⟩ := ih (i := i) (by simpa using hHere)
          exact ⟨cell, hCell, by simpa using hAt⟩

/-- Every value is stored as some cell. -/
theorem StoredAs.exists_cell {assignments : Assignments} {stored : List (Field × Cell)}
    (h : StoredAs assignments stored) : ∀ a ∈ assignments, ∃ cell, a.1.toCell a.2 = .ok cell := by
  induction h with
  | nil => simp
  | @cons a p _ _ hHead _ ih =>
      intro b hb
      rcases List.mem_cons.1 hb with rfl | hRest
      · exact ⟨p.2, hHead.2⟩
      · exact ih b hRest

theorem StoredAs.stores {assignments : Assignments} {stored : List (Field × Cell)}
    (h : StoredAs assignments stored) : ∀ p ∈ stored, p.1.Stores p.2 := by
  induction h with
  | nil => simp
  | @cons a p _ _ hHead _ ih =>
      intro q hq
      rcases List.mem_cons.1 hq with rfl | hRest
      · obtain ⟨hField, hCell⟩ := hHead
        rw [hField]
        exact ⟨a.2, hCell⟩
      · exact ih q hRest

/-- The cells of an insertion fit the given fields of the kind. -/
theorem StoredAs.forall₂ {fields : List Field} {assignments : Assignments}
    {stored : List (Field × Cell)} (h : StoredAs assignments stored)
    (hFields : assignments.map Prod.fst = fields) :
    List.Forall₂ Field.Stores fields (stored.map Prod.snd) := by
  subst hFields
  induction h with
  | nil => exact .nil
  | @cons a p _ _ hHead _ ih => exact .cons ⟨a.2, hHead.2⟩ ih

/-! ## Insertions -/

/-- Records whose values are listed in the order of the fields. -/
class Listed (α : Type) [Storable α] : Prop where
  given : ∀ record : α, (givenValues record).map Prod.fst = (Storable.kind α).givenFields

instance : Listed Resource where
  given _ := rfl

instance : Listed Person where
  given _ := rfl

instance : Listed GroupType where
  given _ := rfl

instance : Listed Group where
  given _ := rfl

instance : Listed ObjectRelation where
  given _ := rfl

instance : Listed PersonLink where
  given _ := rfl

instance : Listed GroupLink where
  given _ := rfl

/-! ## Changes that callers can ask for -/

/-- Whether assignments are to given fields other than the key. -/
def KeepsKey (kind : Kind) (assignments : Assignments) : Prop :=
  ∀ a ∈ assignments, a.1 ∈ kind.givenFields ∧ a.1.column ≠ kind.keyColumn

private theorem keepsKey_append {kind : Kind} {as bs : Assignments} (ha : KeepsKey kind as)
    (hb : KeepsKey kind bs) : KeepsKey kind (as ++ bs) := by
  intro a h
  rcases List.mem_append.1 h with hLeft | hRight
  · exact ha a hLeft
  · exact hb a hRight

private theorem keepsKey_assign {α : Type} {kind : Kind} {f : Field} (value : α → FieldValue)
    (change : Option α) (h : f ∈ kind.givenFields ∧ f.column ≠ kind.keyColumn) :
    KeepsKey kind (assign f value change) := by
  intro a ha
  cases change with
  | none => simp [assign] at ha
  | some v =>
      have hEq : a = (f, value v) := by simpa [assign] using ha
      rw [hEq]
      exact h

theorem ResourcePatch.keepsKey (p : ResourcePatch) (modified : Timestamp) :
    KeepsKey .resource (p.stamped modified) := by
  unfold stamped assignments
  have hModified : KeepsKey .resource
      [(ResourceField.lastModifyDate, .timestamp modified)] := by
    intro a ha
    rw [List.mem_singleton.1 ha]
    show ResourceField.lastModifyDate ∈ Kind.resource.givenFields ∧
      ResourceField.lastModifyDate.column ≠ Kind.resource.keyColumn
    decide
  repeat' apply keepsKey_append
  all_goals first | exact hModified | exact keepsKey_assign _ _ (by decide)

theorem PersonPatch.keepsKey (p : PersonPatch) : KeepsKey .person p.assignments := by
  unfold assignments
  repeat' apply keepsKey_append
  all_goals exact keepsKey_assign _ _ (by decide)

theorem GroupTypePatch.keepsKey (p : GroupTypePatch) : KeepsKey .groupType p.assignments := by
  unfold assignments
  repeat' apply keepsKey_append
  all_goals exact keepsKey_assign _ _ (by decide)

theorem GroupPatch.keepsKey (p : GroupPatch) : KeepsKey .group p.assignments := by
  unfold assignments
  repeat' apply keepsKey_append
  all_goals exact keepsKey_assign _ _ (by decide)

theorem ObjectPatch.keepsKey (p : ObjectPatch) : KeepsKey .objectRelation p.assignments := by
  unfold assignments
  repeat' apply keepsKey_append
  all_goals exact keepsKey_assign _ _ (by decide)

theorem StoredAs.settable {kind : Kind} {assignments : Assignments}
    {stored : List (Field × Cell)} (h : StoredAs assignments stored)
    (hKeeps : KeepsKey kind assignments) : Row.Settable kind stored := by
  intro p hp
  have hField : p.1 ∈ assignments.map Prod.fst := h.fields ▸ List.mem_map_of_mem hp
  obtain ⟨a, ha, hEq⟩ := List.mem_map.1 hField
  rw [← hEq]
  exact ⟨(hKeeps a ha).1, hEq ▸ h.stores p hp⟩

/-- Such a change leaves the cell of the key column as it is. -/
theorem StoredAs.keeps_column {kind : Kind} {assignments : Assignments}
    {stored : List (Field × Cell)} (h : StoredAs assignments stored) {column : String}
    (hKeeps : ∀ a ∈ assignments, a.1.column ≠ column) (row : Row) :
    (row.assign kind stored).cell kind column = row.cell kind column := by
  apply Row.cell_assign_of_notMem
  intro p hp
  have hField : p.1 ∈ assignments.map Prod.fst := h.fields ▸ List.mem_map_of_mem hp
  obtain ⟨a, ha, hEq⟩ := List.mem_map.1 hField
  rw [← hEq]
  exact hKeeps a ha

/-- Where no column is set twice, each column that is set has what its field stores. -/
theorem StoredAs.cell_assign {kind : Kind} {assignments : Assignments}
    {stored : List (Field × Cell)} (h : StoredAs assignments stored)
    (hFields : ∀ a ∈ assignments, a.1 ∈ kind.givenFields)
    (hNodup : (assignments.map fun a => a.1.column).Nodup) {row : Row} (hFits : row.Fits kind)
    {f : Field} {value : FieldValue} {cell : Cell} (hMem : (f, value) ∈ assignments)
    (hCell : f.toCell value = .ok cell) : (row.assign kind stored).cell kind f.column = cell := by
  induction h generalizing row with
  | nil => cases hMem
  | @cons a p rest others hHead hTail ih =>
      obtain ⟨hField, hStore⟩ := hHead
      have hGiven := hFields a (by simp)
      obtain ⟨hHere, hElse⟩ := List.nodup_cons.1 hNodup
      have hStep : row.assign kind (p :: others) =
          (row.set kind a.1.column p.2).assign kind others := by rw [← hField]; rfl
      rw [hStep]
      rcases List.mem_cons.1 hMem with rfl | hRest
      · rw [StoredAs.keeps_column hTail fun b hb hEq =>
          hHere (List.mem_map.2 ⟨b, hb, hEq⟩), hFits.cell_set hGiven]
        exact Except.ok.inj (hStore.symm.trans hCell)
      · exact ih (fun b hb => hFields b (by simp [hb])) hElse
          (hFits.set hGiven ⟨a.2, hStore⟩) hRest

end Shelfmark
