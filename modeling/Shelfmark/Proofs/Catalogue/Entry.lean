import Shelfmark.Proofs.Catalogue.Reading
import Shelfmark.Proofs.Record.Contents

/-!
# Reading what was inserted

The columns of a result carry no names. A record is read from them by position, from the
column where its own begin, and its values are told apart by their place among the fields.
So what was written under the names of columns comes back only if the list that is selected,
the reading of the columns and the making of the record follow one order.

The statements here start from any row that has, column by column, what an insertion binds.
Where such a row is part of a longer result, the record of the insertion is read from it,
with its identifiers in normal form.

## Main results

* `Kind.ofValues_values` — the values of a record make up that record again.
* `Statement.Inserts.readEntry` — a record is read back from any place in a result.
* `Kind.record_codec` — statements and results agree, for all kinds of records.
-/

namespace Shelfmark

open Catalogue

/-! ## Making records of their values -/

/-- The values of a record make up that record again. -/
theorem Kind.ofValues_values {kind : Kind} {types : TypeLookup} {record : kind.Record}
    (h : kind.Knows types record) :
    Storable.ofValues types (Storable.values record) = .ok record := by
  cases kind with
  | person | groupType => rfl
  | resource =>
      obtain ⟨_, _, _, rating, _, _, publishDate, _, _⟩ := record
      cases rating <;> cases publishDate <;> rfl
  | group =>
      have hType : types (Group.groupType record).uuid = some (Group.groupType record) := h
      simp [Storable.ofValues, Storable.values, FieldRow.text, FieldRow.valueAt, hType]
  | objectRelation =>
      simp [Storable.ofValues, Storable.values, FieldRow.text, FieldRow.integer?,
        FieldRow.valueAt, objectRole_ofText?_word]
  | personRelation =>
      simp [Storable.ofValues, Storable.values, FieldRow.text, FieldRow.valueAt,
        personRole_ofText?_word]
  | groupRelation =>
      obtain ⟨_, _, groupIndex, _⟩ := record
      cases groupIndex <;> rfl

/-! ## Rows that hold what was inserted -/

/-- The identifier of an object is its row. -/
theorem ofCell_rowId {kind : Kind} {f : Field} (hf : f ∈ kind.fields)
    (hType : f.type = .rowId) (row : Row) :
    f.ofCell (row.cell kind f.column) = .ok (.integer row.id) := by
  have hObject : kind = .objectRelation ∧ f = ObjectField.id := by
    revert f
    cases kind <;> decide
  obtain ⟨rfl, rfl⟩ := hObject
  rfl

/-- Each column of such a row is read as what its field hands back for the record. -/
theorem Statement.Inserts.ofCell {s : Statement} {kind : Kind} {record : kind.Record}
    (h : s.Inserts kind record) {row : Row} (hRow : s.Fills kind row) {f : Field}
    {value : FieldValue} (hValue : (f, value) ∈ kind.contents record) :
    f.ofCell (row.cell kind f.column) = .ok (f.returned row.id value) := by
  have hField : f ∈ kind.fields := by
    rw [← kind.contents_fields record]
    exact List.mem_map_of_mem hValue
  by_cases hType : f.type = .rowId
  · rw [ofCell_rowId hField hType, Field.returned, hType]
  · have hGiven : f ∈ kind.givenFields := List.mem_filter.2 ⟨hField, by simpa using hType⟩
    obtain ⟨i, hi⟩ := List.getElem?_of_mem hGiven
    obtain ⟨stored, cell, hStored, hCell, hBound⟩ := h.binds i f hi
    have hHere : row.cell kind f.column = cell :=
      Option.some.inj ((hRow i f hi).symm.trans hBound)
    rw [hHere, Field.returned_of_ne hType, Kind.contents_unique hValue hStored]
    exact Field.ofCell_of_toCell hCell

/-- The fields of such a row are read as the values of the record that is read back. -/
theorem Statement.Inserts.readFields {s : Statement} {kind : Kind} {record : kind.Record}
    (h : s.Inserts kind record) {row : Row} (hRow : s.Fills kind row) :
    readFields kind (row.fieldCells kind) 0 kind.fields =
      .ok (Storable.values (kind.restored row.id record)) := by
  rw [Row.fieldCells, readFields_eq_ok_iff, ← kind.contents_values, kind.contents_restored,
    ← kind.contents_fields record, List.map_map, List.forall₂_map_left_iff,
    List.forall₂_map_right_iff, List.forall₂_same]
  exact fun p hp => h.ofCell hRow hp

/-- **A record is read back from any place in a result.** -/
theorem Statement.Inserts.readEntry {s : Statement} {kind : Kind} {record : kind.Record}
    (h : s.Inserts kind record) {row : Row} (hRow : s.Fills kind row) {types : TypeLookup}
    (hTypes : kind.Knows types (kind.restored row.id record)) (before after : List Cell) :
    readEntry kind.Record types (before ++ row.fieldCells kind ++ after) before.length =
      .ok (kind.restored row.id record) := by
  have hHere := readEntry_at kind.Record types before after row
  rw [Kind.storable_kind] at hHere
  rw [hHere]
  unfold Catalogue.readEntry
  dsimp only
  rw [Kind.storable_kind, h.readFields hRow]
  exact Kind.ofValues_values hTypes

/-- The row that has the bound values as its cells is such a row. -/
theorem Statement.Inserts.fills {s : Statement} {kind : Kind} {record : kind.Record}
    (h : s.Inserts kind record) (id : Int64) : s.Fills kind ⟨id, s.params⟩ := by
  intro i f hf
  obtain ⟨_, cell, _, _, hBound⟩ := h.binds i f hf
  have hCell : (Row.cells ⟨id, s.params⟩)[i]? = some cell := hBound
  rw [hBound, Row.cell_getElem? hf hCell]

/-! ## Joined rows -/

/-- A record and the link to it are read from the columns of both. -/
theorem Statement.Inserts.readLinked {s t : Statement} {target link : Kind}
    {record : target.Record} {relation : link.Record} (hs : s.Inserts target record)
    (ht : t.Inserts link relation) {pair : Row × Row} (hTarget : s.Fills target pair.2)
    (hLink : t.Fills link pair.1) {types : TypeCache}
    (hRecord : target.Knows types.find? (target.restored pair.2.id record))
    (hRelation : link.Knows types.find? (link.restored pair.1.id relation)) :
    readLinked target.Record link.Record types pair =
      .ok (target.restored pair.2.id record, link.restored pair.1.id relation) := by
  have hOne := hs.readEntry hTarget hRecord [] []
  have hOther := ht.readEntry hLink hRelation [] []
  rw [List.nil_append, List.append_nil, List.length_nil] at hOne hOther
  rw [readLinked_eq, readRow, readRow, Kind.storable_kind, Kind.storable_kind, hOne, hOther]
  rfl

/-! ## Statements and results -/

/-- **Statements and results agree, for all kinds of records.** The insertion of a record
binds each given column to what the field stores for the record. From a row that holds what
is bound, the record is read back at any place in a result, and so are a record and the link
to it from their joined columns; the columns that are selected are those that are read. A
change sets each column of a changed field once, to the new value, in the row of the key. -/
theorem Kind.record_codec :
    (∀ (kind : Kind) (record : kind.Record) (s : Statement), insertStatement record = .ok s →
      s.Inserts kind record ∧
      ∀ (row : Row) (types : TypeLookup), s.Fills kind row →
        kind.Knows types (kind.restored row.id record) → ∀ before after : List Cell,
          readEntry kind.Record types (before ++ row.fieldCells kind ++ after) before.length =
            .ok (kind.restored row.id record)) ∧
    (∀ (kind : Kind) (shortName : String) (row : Row),
      selectColumns kind shortName = ", ".intercalate
        ((kind.fields.map Field.column).map fun column => shortName ++ "." ++ column) ∧
      row.fieldCells kind = (kind.fields.map Field.column).map (row.cell kind)) ∧
    (∀ (target link : Kind) (record : target.Record) (relation : link.Record) (s t : Statement),
      insertStatement record = .ok s → insertStatement relation = .ok t →
      ∀ (pair : Row × Row) (types : TypeCache), s.Fills target pair.2 → t.Fills link pair.1 →
        target.Knows types.find? (target.restored pair.2.id record) →
        link.Knows types.find? (link.restored pair.1.id relation) →
        readLinked target.Record link.Record types pair =
          .ok (target.restored pair.2.id record, link.restored pair.1.id relation)) ∧
    ∀ (kind : Kind) (patch : Patch kind),
      (∀ key s, updateStatement kind patch.assignments key = .ok (some s) →
        s.Updates patch key) ∧
      ∀ record : kind.Record, kind.contents (patch.apply record) =
        (kind.contents record).map fun p =>
          (p.1, (patch.assignments.lookup p.1).getD p.2) := by
  refine ⟨?insertions, ?selections, ?joins, ?changes⟩
  case insertions =>
    intro kind record s h
    have hInserts := inserts_of_insertStatement h
    exact ⟨hInserts, fun row types hRow hTypes => hInserts.readEntry hRow hTypes⟩
  case selections =>
    intro kind shortName row
    rw [List.map_map, List.map_map]
    exact ⟨rfl, rfl⟩
  case joins =>
    intro target link record relation s t hs ht pair types hTarget hLink
    exact (inserts_of_insertStatement hs).readLinked (inserts_of_insertStatement ht) hTarget hLink
  case changes =>
    intro kind patch
    exact ⟨fun _ _ h => updates_of_updateStatement h, patch.contents_apply⟩

/-- A group of a series and the place of a resource in it, with blanks and capitals in the
identifiers. -/
def seriesSample : Group × GroupLink :=
  (⟨" G1", "Dune", "Dune", ⟨"T1 ", "Series", true, true⟩⟩, ⟨"R1", "G1", some 2, ""⟩)

/-- The statements that insert them. -/
def seriesInsertions : Statement × Statement :=
  (⟨"INSERT INTO groups (uuid, title, title_sort, type_uuid) VALUES (?1, ?2, ?3, ?4)",
      [.text "g1", .text "Dune", .text "Dune", .text "t1"]⟩,
    ⟨"INSERT INTO res_groups (resource_uuid, group_uuid, group_index, relation_tag)" ++
        " VALUES (?1, ?2, ?3, ?4)",
      [.text "r1", .text "g1", .integer 2, .text ""]⟩)

/-- A group behind another column, the same group joined with its link, and a change. -/
theorem Kind.record_codec_sample :
    readEntry Group (fun _ => some ⟨"t1", "Series", true, true⟩)
        ([.null] ++ Row.fieldCells .group ⟨3, seriesInsertions.1.params⟩ ++ []) 1 =
      .ok ⟨"g1", "Dune", "Dune", ⟨"t1", "Series", true, true⟩⟩ ∧
    readLinked Group GroupLink { kept := [⟨"t1", "Series", true, true⟩] }
        (⟨7, seriesInsertions.2.params⟩, ⟨3, seriesInsertions.1.params⟩) =
      .ok (⟨"g1", "Dune", "Dune", ⟨"t1", "Series", true, true⟩⟩, ⟨"r1", "g1", some 2, ""⟩) ∧
    Statement.Updates
      ⟨"UPDATE persons SET name_sort = ?1 WHERE uuid = ?2", [.text "Herbert, F.", .text "p1"]⟩
      (Patch.person { nameSort := some "Herbert, F." }) (.text " P1") := by
  have hGroup : insertStatement (α := Record .group) seriesSample.1 = .ok seriesInsertions.1 := by
    decide +kernel
  have hLink : insertStatement (α := Record .groupRelation) seriesSample.2 =
      .ok seriesInsertions.2 := by decide +kernel
  have hRestored : restored 3 .group seriesSample.1 =
      ⟨"g1", "Dune", "Dune", ⟨"t1", "Series", true, true⟩⟩ := by decide +kernel
  have hRestoredLink : restored 7 .groupRelation seriesSample.2 = ⟨"r1", "g1", some 2, ""⟩ := by
    decide +kernel
  have hRow := (inserts_of_insertStatement hGroup).fills 3
  have hLinkRow := (inserts_of_insertStatement hLink).fills 7
  refine ⟨?entry, ?joined, ?change⟩
  case entry =>
    have hEntry := (record_codec.1 .group _ _ hGroup).2 _
      (fun _ => some ⟨"t1", "Series", true, true⟩) hRow (by rw [hRestored]; rfl) [.null] []
    rw [hRestored] at hEntry
    exact hEntry
  case joined =>
    have hJoined := record_codec.2.2.1 .group .groupRelation _ _ _ _ hGroup hLink
      (⟨7, seriesInsertions.2.params⟩, ⟨3, seriesInsertions.1.params⟩)
      { kept := [⟨"t1", "Series", true, true⟩] } hRow hLinkRow (by rw [hRestored]; rfl) trivial
    rw [hRestored, hRestoredLink] at hJoined
    exact hJoined
  case change =>
    exact (record_codec.2.2.2 .person (.person { nameSort := some "Herbert, F." })).1 _ _
      (by decide +kernel)

end Shelfmark
