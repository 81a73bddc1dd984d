import Shelfmark.Catalogue.Opening
import Shelfmark.Proofs.Record.Statement
import Shelfmark.Proofs.Store.Sound

/-!
# The group types of the tables

The table of group types, read as records in the order of its rows. Reading never
fails in sound tables, so `Tables.types` is what a catalogue loads into memory. Every
change of the table is a change of this list: a new row adds a record at its end, a
changed row changes the record in its place, and a row that goes takes its record
along.
-/

namespace Shelfmark

/-- The group type that a row holds, if it fits. -/
def Row.toGroupType (row : Row) : GroupType :=
  match row.cells with
  | [.text uuid, .text name, .integer exclusive, .integer ordered] =>
      ⟨uuid, name, exclusive != 0, ordered != 0⟩
  | _ => ⟨"", "", false, false⟩

/-- The cells of a group type. -/
def GroupType.cells (g : GroupType) : List Cell :=
  [.text g.uuid, .text g.name, .ofBool g.exclusive, .ofBool g.ordered]

/-- The records of the table of group types. -/
def Tables.types (t : Tables) : List GroupType := t.groupTypes.map Row.toGroupType

/-! ## Rows and records -/

theorem toGroupType_cells (id : Int64) (g : GroupType) : (Row.mk id g.cells).toGroupType = g := by
  obtain ⟨uuid, name, exclusive, ordered⟩ := g
  cases exclusive <;> cases ordered <;> rfl

namespace Row

/-- A fitting row has the cells of the group type that it holds. -/
theorem Fits.groupType {row : Row} (h : row.Fits .groupType) :
    row.cells = row.toGroupType.cells ∧ normalize row.toGroupType.uuid = row.toGroupType.uuid := by
  obtain ⟨id, cells⟩ := row
  have hFields : Kind.groupType.givenFields =
      [GroupTypeField.uuid, GroupTypeField.name, GroupTypeField.exclusive,
        GroupTypeField.ordered] := rfl
  unfold Row.Fits at h
  rw [hFields] at h
  simp only [List.forall₂_cons_left_iff, List.forall₂_nil_left_iff] at h
  obtain ⟨uuid, _, hUuid, ⟨name, _, hName, ⟨exclusive, _, hExclusive, ⟨ordered, _, hOrdered, rfl,
    rfl⟩, rfl⟩, rfl⟩, rfl⟩ := h
  obtain ⟨e, rfl⟩ : ∃ e, exclusive = .ofBool e := hExclusive.holds rfl
  obtain ⟨o, rfl⟩ : ∃ o, ordered = .ofBool o := hOrdered.holds rfl
  have hUuid' := hUuid.holds rfl
  have hName' := hName.holds rfl
  cases uuid with
  | text u =>
      cases name with
      | text n =>
          have hCells : (Row.mk id [.text u, .text n, .ofBool e, .ofBool o]).toGroupType =
              ⟨u, n, e, o⟩ := toGroupType_cells id ⟨u, n, e, o⟩
          dsimp only at hCells ⊢
          rw [hCells]
          exact ⟨rfl, hUuid'.1⟩
      | _ => cases hName'
  | _ => cases hUuid'

theorem Fits.cell_groupType {row : Row} (h : row.Fits .groupType) :
    row.cell .groupType "uuid" = .text row.toGroupType.uuid ∧
      row.cell .groupType "is_exclusive" = .ofBool row.toGroupType.exclusive ∧
      row.cell .groupType "is_ordered" = .ofBool row.toGroupType.ordered := by
  have hCells := h.groupType.1
  generalize row.toGroupType = g at hCells
  obtain ⟨id, cells⟩ := row
  dsimp only at hCells
  subst hCells
  exact ⟨rfl, rfl, rfl⟩

theorem Fits.name_groupType {row : Row} (h : row.Fits .groupType) :
    row.cell .groupType "name" = .text row.toGroupType.name := by
  have hCells := h.groupType.1
  generalize row.toGroupType = g at hCells
  obtain ⟨id, cells⟩ := row
  dsimp only at hCells
  subst hCells
  rfl

end Row

namespace Tables

theorem mem_types {t : Tables} {g : GroupType} :
    g ∈ t.types ↔ ∃ row ∈ t.groupTypes, row.toGroupType = g := List.mem_map

/-- The row of a group type, by its identifier. -/
theorem Sound.type_row {t : Tables} (h : t.Sound) {row : Row} (hRow : row ∈ t.groupTypes) :
    row.Fits .groupType := h.fits .groupType row hRow

/-- An identifier names at most one group type. -/
theorem Sound.types_nodup {t : Tables} (h : t.Sound) : (t.types.map GroupType.uuid).Nodup := by
  have hUuids : (t.groupTypes.map fun row => row.cell .groupType "uuid").Nodup :=
    h.uuids .groupType rfl
  have hMap : (t.groupTypes.map fun row => row.cell .groupType "uuid") =
      (t.types.map GroupType.uuid).map Cell.text := by
    rw [types, List.map_map, List.map_map]
    exact List.map_congr_left fun row hRow => (h.type_row hRow).cell_groupType.1
  rw [hMap] at hUuids
  exact hUuids.of_map

theorem Sound.type_eq {t : Tables} (h : t.Sound) {a b : GroupType} (ha : a ∈ t.types)
    (hb : b ∈ t.types) (hEq : a.uuid = b.uuid) : a = b :=
  List.inj_on_of_nodup_map h.types_nodup ha hb hEq

/-- Rows of group types are told apart by their row identifier as by their own. -/
theorem Sound.type_id_iff {t : Tables} (h : t.Sound) {a b : Row} (ha : a ∈ t.groupTypes)
    (hb : b ∈ t.groupTypes) : a.id = b.id ↔ a.toGroupType.uuid = b.toGroupType.uuid := by
  constructor
  · intro hId
    rw [h.id_injective .groupType ha hb hId]
  · intro hUuid
    have hCell : a.cell .groupType "uuid" = b.cell .groupType "uuid" := by
      rw [(h.type_row ha).cell_groupType.1, (h.type_row hb).cell_groupType.1, hUuid]
    rw [h.uuid_injective .groupType rfl ha hb hCell]

end Tables

/-! ## Reading -/

/-- A group type is read from its row. -/
theorem readRow_groupType {row : Row} (h : row.Fits .groupType) (types : TypeCache) :
    Catalogue.readRow GroupType types row = .ok row.toGroupType := by
  have hCells := h.groupType.1
  generalize row.toGroupType = g at hCells
  obtain ⟨id, cells⟩ := row
  obtain ⟨uuid, name, exclusive, ordered⟩ := g
  dsimp only at hCells
  subst hCells
  cases exclusive <;> cases ordered <;> rfl

private theorem mapM_eq_ok {α β ε : Type} {f : α → Except ε β} {g : α → β} {xs : List α}
    (h : ∀ x ∈ xs, f x = .ok (g x)) : xs.mapM f = .ok (xs.map g) := by
  induction xs with
  | nil => rfl
  | cons x xs ih =>
      rw [List.mapM_cons, h x (by simp), ih fun y hy => h y (by simp [hy])]
      rfl

theorem readRows_groupType {rows : List Row} (h : ∀ row ∈ rows, row.Fits .groupType)
    (types : TypeCache) :
    rows.mapM (Catalogue.readRow GroupType types) = .ok (rows.map Row.toGroupType) :=
  mapM_eq_ok fun row hRow => readRow_groupType (h row hRow) types

/-- In sound tables the group types can be loaded. -/
theorem storedTypes_eq {t : Tables} (h : t.Sound) : Catalogue.storedTypes t = .ok t.types :=
  readRows_groupType (fun _ hRow => h.type_row hRow) {}

/-! ## What changes do to the group types -/

/-- What a group type stores, if its identifier is in normal form. -/
theorem cells_of_storedAs {g : GroupType} (hUuid : normalize g.uuid = g.uuid)
    {stored : List (Field × Cell)} (h : StoredAs (givenValues g) stored) :
    stored.map Prod.snd = g.cells := by
  have hValues : givenValues g = [(GroupTypeField.uuid, .text g.uuid),
      (GroupTypeField.name, .text g.name), (GroupTypeField.exclusive, .boolean g.exclusive),
      (GroupTypeField.ordered, .boolean g.ordered)] := rfl
  unfold StoredAs at h
  rw [hValues] at h
  simp only [List.forall₂_cons_left_iff, List.forall₂_nil_left_iff] at h
  obtain ⟨uuid, _, ⟨_, hUuidCell⟩, ⟨name, _, ⟨_, hName⟩, ⟨exclusive, _, ⟨_, hExclusive⟩, ⟨ordered,
    _, ⟨_, hOrdered⟩, rfl, rfl⟩, rfl⟩, rfl⟩, rfl⟩ := h
  have hFirst : uuid.2 = .text (normalize g.uuid) :=
    (Field.storeIdentifier_eq_ok (s := g.uuid) hUuidCell).1
  have hSecond : Cell.text g.name = name.2 := Except.ok.inj hName
  have hThird : Cell.ofBool g.exclusive = exclusive.2 := Except.ok.inj hExclusive
  have hFourth : Cell.ofBool g.ordered = ordered.2 := Except.ok.inj hOrdered
  rw [hUuid] at hFirst
  simp only [List.map_cons, List.map_nil, GroupType.cells, hFirst, hSecond, hThird, hFourth]

/-- What a patch of a group type stores. -/
theorem storedAs_groupTypePatch (patch : GroupTypePatch) :
    StoredAs patch.assignments
      ((patch.name.map fun s => (GroupTypeField.name, Cell.text s)).toList ++
        (patch.exclusive.map fun b => (GroupTypeField.exclusive, Cell.ofBool b)).toList ++
        (patch.ordered.map fun b => (GroupTypeField.ordered, Cell.ofBool b)).toList) := by
  obtain ⟨name, exclusive, ordered⟩ := patch
  cases name <;> cases exclusive <;> cases ordered <;>
    repeat first | exact .nil | refine .cons ⟨rfl, rfl⟩ ?_

/-- The row with a patch written has the patched record. -/
theorem toGroupType_assign {row : Row} (h : row.Fits .groupType) {patch : GroupTypePatch}
    {stored : List (Field × Cell)} (hStored : StoredAs patch.assignments stored) :
    (row.assign .groupType stored).toGroupType = patch.apply row.toGroupType := by
  rw [hStored.unique (storedAs_groupTypePatch patch)]
  have hCells := h.groupType.1
  generalize row.toGroupType = g at hCells
  obtain ⟨id, cells⟩ := row
  dsimp only at hCells
  subst hCells
  refine Eq.trans (congrArg Row.toGroupType ?_) (toGroupType_cells id (patch.apply g))
  obtain ⟨name, exclusive, ordered⟩ := patch
  cases name <;> cases exclusive <;> cases ordered <;> rfl

namespace Tables

/-- Changes of other kinds leave the group types alone. -/
theorem types_congr {t t' : Tables} (h : t'.rows .groupType = t.rows .groupType) :
    t'.types = t.types := congrArg (List.map Row.toGroupType) h

theorem Inserted.types_eq {t t' : Tables} {kind : Kind} {row : Row} (h : t.Inserted kind row t')
    (hKind : kind ≠ .groupType) : t'.types = t.types := by
  refine types_congr ?_
  rw [h.result, rows_append, if_neg hKind.symm]

theorem Replaced.types_eq {t t' : Tables} {kind : Kind} {old new : Row}
    (h : t.Replaced kind old new t') (hKind : kind ≠ .groupType) : t'.types = t.types := by
  refine types_congr ?_
  rw [h.rows_eq, if_neg hKind.symm]

theorem Removed.types_eq {t t' : Tables} {kind : Kind} {row : Row} (h : t.Removed kind row t')
    (hKind : kind ≠ .groupType) : t'.types = t.types := by
  refine types_congr ?_
  rw [h.rows_eq _ rfl, if_neg hKind.symm]

theorem types_without {t : Tables} {kind : Kind} (hDependent : kind.isDependent = true)
    {doomed : Row → Bool} : (t.without kind doomed).types = t.types := by
  refine types_congr ?_
  rw [rows_without, if_neg]
  rintro rfl
  cases hDependent

/-- A new row adds its record at the end. -/
theorem Inserted.types {t t' : Tables} {id : Int64} {g : GroupType}
    (h : t.Inserted .groupType ⟨id, g.cells⟩ t') : t'.types = t.types ++ [g] := by
  have hRows : t'.groupTypes = t.groupTypes ++ [⟨id, g.cells⟩] := by
    have hAppend := rows_append t .groupType ⟨id, g.cells⟩ .groupType
    rw [← h.result, if_pos rfl] at hAppend
    exact hAppend
  rw [Tables.types, hRows, List.map_append, List.map_singleton, toGroupType_cells]
  rfl

/-- A changed row changes the record in its place. -/
theorem Replaced.types {t t' : Tables} {old new : Row} (hSound : t.Sound)
    (hOld : old ∈ t.groupTypes) (h : t.Replaced .groupType old new t') :
    t'.types = t.types.map fun g =>
      if g.uuid = old.toGroupType.uuid then new.toGroupType else g := by
  have hRows : t'.groupTypes = t.groupTypes.map fun r => if r.id = old.id then new else r := by
    have hMap := h.rows_eq .groupType
    rw [if_pos rfl] at hMap
    exact hMap
  rw [Tables.types, hRows, Tables.types, List.map_map, List.map_map]
  refine List.map_congr_left fun row hRow => ?_
  have hIff := hSound.type_id_iff hRow hOld
  dsimp only [Function.comp]
  by_cases hId : row.id = old.id
  · rw [if_pos hId, if_pos (hIff.1 hId)]
  · rw [if_neg hId, if_neg (mt hIff.2 hId)]

/-- A row that goes takes its record along. -/
theorem Removed.types {t t' : Tables} {row : Row} (hSound : t.Sound)
    (hRow : row ∈ t.groupTypes) (h : t.Removed .groupType row t') :
    t'.types = t.types.filter fun g => g.uuid != row.toGroupType.uuid := by
  have hRows : t'.groupTypes = t.groupTypes.filter fun r => !decide (r.id = row.id) := by
    have hFilter := h.rows_eq .groupType rfl
    rw [if_pos rfl] at hFilter
    exact hFilter
  rw [Tables.types, hRows, Tables.types, List.filter_map]
  congr 1
  refine List.filter_congr fun r hr => ?_
  dsimp only [Function.comp]
  rw [Bool.eq_iff_iff, bne_iff_ne, Bool.not_eq_true', decide_eq_false_iff_not, not_iff_not]
  exact hSound.type_id_iff hr hRow

end Tables

end Shelfmark
