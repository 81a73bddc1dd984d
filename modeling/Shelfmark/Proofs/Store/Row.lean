import Mathlib.Data.List.Forall2
import Mathlib.Data.List.Nodup
import Shelfmark.Proofs.Store.Stored

/-!
# Rows as their fields store them

A row fits its kind when its cells are, field by field, what the given fields of the
kind store. A fitting row has a readable cell in every column, the columns of
identifiers and references hold texts in normal form, and setting a field to
something that the field stores keeps it fitting and leaves the other columns alone.
-/

namespace Shelfmark

/-! ## The columns of a kind -/

theorem givenColumns_nodup (kind : Kind) : (kind.givenFields.map Field.column).Nodup := by
  cases kind <;> decide

private theorem given_ne_assigned {kind : Kind} {f : Field} (h : f ∈ kind.givenFields) :
    (f.column = "rowid" || (kind = .objectRelation && f.column = "id")) = false := by
  revert f
  cases kind <;> decide

theorem given_type_ne {kind : Kind} {f : Field} (h : f ∈ kind.givenFields) : f.type ≠ .rowId := by
  simpa using (List.mem_filter.1 h).2

/-- The field behind a reference. -/
theorem exists_field_of_reference {kind : Kind} {r : Reference} (h : r ∈ kind.references) :
    ∃ f ∈ kind.givenFields, f.column = r.column ∧ f.type = .foreign r.target ∧
      f.nullable = false := by
  revert r
  cases kind <;> decide

/-- The field that identifies the rows of a kind, where it is not assigned by the
store. -/
theorem exists_field_of_key {kind : Kind} (h : kind.keyColumn = "uuid") :
    ∃ f ∈ kind.givenFields, f.column = "uuid" ∧ f.type = .identifier ∧ f.nullable = false := by
  revert h
  cases kind <;> decide

/-! ## Rows that fit -/

/-- Whether every cell of the row is one that its field stores. -/
def Row.Fits (kind : Kind) (row : Row) : Prop :=
  List.Forall₂ Field.Stores kind.givenFields row.cells

private theorem lookup_stored {fields : List Field} {cells : List Cell}
    (h : List.Forall₂ Field.Stores fields cells) (hNodup : (fields.map Field.column).Nodup)
    {f : Field} (hf : f ∈ fields) :
    ∃ cell, ((fields.map Field.column).zip cells).lookup f.column = some cell ∧
      f.Stores cell := by
  induction h with
  | nil => cases hf
  | @cons g cell fields cells hStores _ ih =>
      rw [List.map_cons, List.nodup_cons] at hNodup
      rcases List.mem_cons.1 hf with rfl | hRest
      · exact ⟨cell, by simp, hStores⟩
      · have hNe : f.column ≠ g.column := by
          intro hEq
          exact hNodup.1 (hEq ▸ List.mem_map_of_mem hRest)
        obtain ⟨found, hFound, hStored⟩ := ih hNodup.2 hRest
        refine ⟨found, ?_, hStored⟩
        simp [List.lookup_cons, beq_false_of_ne hNe, hFound]

private theorem lookup_getElem? {fields : List Field} (hNodup : (fields.map Field.column).Nodup)
    {cells : List Cell} {i : Nat} {f : Field} {cell : Cell} (hf : fields[i]? = some f)
    (hCell : cells[i]? = some cell) :
    ((fields.map Field.column).zip cells).lookup f.column = some cell := by
  induction fields generalizing cells i with
  | nil => simp at hf
  | cons g fields ih =>
      rw [List.map_cons, List.nodup_cons] at hNodup
      cases cells with
      | nil => simp at hCell
      | cons first cells =>
          cases i with
          | zero =>
              obtain rfl : g = f := by simpa using hf
              obtain rfl : first = cell := by simpa using hCell
              simp
          | succ i =>
              have hRest : fields[i]? = some f := by simpa using hf
              have hNe : f.column ≠ g.column := by
                intro hEq
                exact hNodup.1 (hEq ▸ List.mem_map_of_mem (List.mem_of_getElem? hRest))
              rw [List.map_cons, List.zip_cons_cons, List.lookup_cons, beq_false_of_ne hNe]
              exact ih hNodup.2 hRest (by simpa using hCell)

namespace Row

/-- The cells of a row stand in the order of the given columns. -/
theorem cell_getElem? {kind : Kind} {row : Row} {i : Nat} {f : Field} {cell : Cell}
    (hf : kind.givenFields[i]? = some f) (hCell : row.cells[i]? = some cell) :
    row.cell kind f.column = cell := by
  have hLookup := lookup_getElem? (givenColumns_nodup kind) hf hCell
  simp [Row.cell, given_ne_assigned (List.mem_of_getElem? hf), hLookup]

/-- Every given column of a fitting row has a cell that its field stores. -/
theorem Fits.stores {kind : Kind} {row : Row} (h : row.Fits kind) {f : Field}
    (hf : f ∈ kind.givenFields) : f.Stores (row.cell kind f.column) := by
  obtain ⟨cell, hLookup, hStores⟩ := lookup_stored h (givenColumns_nodup kind) hf
  have hCell : row.cell kind f.column = cell := by
    simp [Row.cell, given_ne_assigned hf, hLookup]
  rw [hCell]
  exact hStores

theorem Fits.key_text {kind : Kind} {row : Row} (h : row.Fits kind)
    (hKey : kind.keyColumn = "uuid") :
    ∃ s, row.cell kind "uuid" = .text s ∧ normalize s = s ∧ s ≠ "" := by
  obtain ⟨f, hf, hColumn, hType, hNull⟩ := exists_field_of_key hKey
  have hHolds := (h.stores hf).holds hNull
  rw [hColumn, hType] at hHolds
  cases hCell : row.cell kind "uuid" <;> rw [hCell] at hHolds <;>
    first | exact ⟨_, rfl, hHolds⟩ | cases hHolds

theorem Fits.reference_text {kind : Kind} {row : Row} (h : row.Fits kind) {r : Reference}
    (hr : r ∈ kind.references) :
    ∃ s, row.cell kind r.column = .text s ∧ normalize s = s ∧ s ≠ "" := by
  obtain ⟨f, hf, hColumn, hType, hNull⟩ := exists_field_of_reference hr
  have hHolds := (h.stores hf).holds hNull
  rw [hColumn, hType] at hHolds
  cases hCell : row.cell kind r.column <;> rw [hCell] at hHolds <;>
    first | exact ⟨_, rfl, hHolds⟩ | cases hHolds

/-! ## Setting a column -/

@[simp] theorem set_id (kind : Kind) (row : Row) (column : String) (value : Cell) :
    (row.set kind column value).id = row.id := rfl

private theorem lookup_set (fields : List Field) (cells : List Cell) (column : String)
    (value : Cell) (other : String) :
    ((fields.map Field.column).zip
        ((fields.zip cells).map fun p => if p.1.column = column then value else p.2)).lookup other =
      (((fields.map Field.column).zip cells).lookup other).map fun cell =>
        if other = column then value else cell := by
  induction fields generalizing cells with
  | nil => rfl
  | cons f fields ih =>
      cases cells with
      | nil => rfl
      | cons cell cells =>
          by_cases hEq : other = f.column
          · simp [hEq]
          · simp only [List.map_cons, List.zip_cons_cons, List.lookup_cons,
              beq_false_of_ne hEq]
            exact ih cells

/-- Setting a column leaves the others alone. -/
theorem cell_set_of_ne {kind : Kind} {row : Row} {column other : String} {value : Cell}
    (h : other ≠ column) : (row.set kind column value).cell kind other = row.cell kind other := by
  unfold Row.cell Row.set
  dsimp only
  rw [lookup_set]
  simp [h]

/-- A column that is set has the value. -/
theorem Fits.cell_set {kind : Kind} {row : Row} (h : row.Fits kind) {f : Field}
    (hf : f ∈ kind.givenFields) (value : Cell) :
    (row.set kind f.column value).cell kind f.column = value := by
  obtain ⟨cell, hCell, _⟩ := lookup_stored h (givenColumns_nodup kind) hf
  unfold Row.cell Row.set
  dsimp only
  rw [given_ne_assigned hf, lookup_set, hCell]
  simp

private theorem forall₂_set {fields : List Field} {cells : List Cell}
    (h : List.Forall₂ Field.Stores fields cells) {column : String} {value : Cell}
    (hValue : ∀ f ∈ fields, f.column = column → f.Stores value) :
    List.Forall₂ Field.Stores fields
      ((fields.zip cells).map fun p => if p.1.column = column then value else p.2) := by
  induction h with
  | nil => exact .nil
  | @cons f cell fields cells hStores _ ih =>
      refine .cons ?_ (ih fun g hg => hValue g (by simp [hg]))
      dsimp only
      split
      · rename_i hEq
        exact hValue f (by simp) hEq
      · exact hStores

theorem Fits.set {kind : Kind} {row : Row} (h : row.Fits kind) {f : Field}
    (hf : f ∈ kind.givenFields) {value : Cell} (hValue : f.Stores value) :
    (row.set kind f.column value).Fits kind := by
  refine forall₂_set h ?_
  intro g hg hEq
  have hSame : g = f := List.inj_on_of_nodup_map (givenColumns_nodup kind) hg hf hEq
  rw [hSame]
  exact hValue

/-! ## Setting several fields -/

/-- The row with some fields set, one after the other. -/
def assign (kind : Kind) (row : Row) (set : List (Field × Cell)) : Row :=
  set.foldl (fun row p => row.set kind p.1.column p.2) row

/-- Whether cells are what given fields of the kind store. -/
def Settable (kind : Kind) (set : List (Field × Cell)) : Prop :=
  ∀ p ∈ set, p.1 ∈ kind.givenFields ∧ p.1.Stores p.2

@[simp] theorem assign_id (kind : Kind) (row : Row) (set : List (Field × Cell)) :
    (row.assign kind set).id = row.id := by
  induction set generalizing row with
  | nil => rfl
  | cons p rest ih => exact ih (row.set kind p.1.column p.2)

theorem Fits.assign {kind : Kind} {row : Row} (h : row.Fits kind) {set : List (Field × Cell)}
    (hSet : Settable kind set) : (row.assign kind set).Fits kind := by
  induction set generalizing row with
  | nil => exact h
  | cons p rest ih =>
      obtain ⟨hMem, hStores⟩ := hSet p (by simp)
      exact ih (h.set hMem hStores) fun q hq => hSet q (by simp [hq])

theorem cell_assign_of_notMem {kind : Kind} {row : Row} {set : List (Field × Cell)}
    {column : String} (h : ∀ p ∈ set, p.1.column ≠ column) :
    (row.assign kind set).cell kind column = row.cell kind column := by
  induction set generalizing row with
  | nil => rfl
  | cons p rest ih =>
      have hRest : ((row.set kind p.1.column p.2).assign kind rest).cell kind column =
          (row.set kind p.1.column p.2).cell kind column := ih fun q hq => h q (by simp [hq])
      exact hRest.trans (cell_set_of_ne (h p (by simp)).symm)

end Row

/-- Setting fields to what they store always succeeds. -/
theorem assignCells_eq {kind : Kind} {row : Row} {set : List (Field × Cell)}
    (h : Row.Settable kind set) : Tables.assignCells kind row set = .ok (row.assign kind set) := by
  induction set generalizing row with
  | nil => rfl
  | cons p rest ih =>
      obtain ⟨f, cell⟩ := p
      obtain ⟨hMem, hStores⟩ := h (f, cell) (by simp)
      have hCell : Tables.assignCell kind row f cell = .ok (row.set kind f.column cell) := by
        simp [Tables.assignCell, given_type_ne hMem, hStores.convert]
      rw [Tables.assignCells, hCell]
      exact ih fun q hq => h q (by simp [hq])

end Shelfmark
