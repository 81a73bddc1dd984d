import Shelfmark.Proofs.Catalogue.Entry
import Shelfmark.Proofs.Catalogue.Operation

/-!
# Rows and the records they hold

A row holds a record when each of its columns is read as what the record has in that field.
This says nothing of how a record is put together from its values, so it is easy to follow
through a change of the row: a column that is set is read as the new value, and any other
column as before, `Row.Holds.assign`.

A fitting row holds a record, and it is read as the record that it holds. Only of a group does
the row not hold everything: the type is named by its identifier alone, and reading looks it up.

## Main results

* `insertRecord_exact` — the row of a record that is added.
* `readRow_eq_ok_iff` — what is read from a fitting row is the record that it holds.
* `Row.Holds.assign` — what a row holds after some of its columns are set.
-/

namespace Shelfmark

open Catalogue

/-- Whether each column of a row is read as what a record has in the field. -/
def Row.Holds {kind : Kind} (row : Row) (record : kind.Record) : Prop :=
  ∀ p ∈ kind.contents record, p.1.ofCell (row.cell kind p.1.column) = .ok p.2

/-- Text is read from the same text. -/
theorem Field.eq_text_of_ofCell {f : Field} {cell : Cell} {s : String}
    (h : f.ofCell cell = .ok (.text s)) : cell = .text s := by
  unfold ofCell at h
  split at h
  · split at h <;> cases h
  · unfold readCell at h
    split at h <;> try cases h
    all_goals first | rfl | (split at h <;> cases h)

namespace Row

/-- A row holds a record when its columns are read as the values of the record. -/
theorem holds_iff {kind : Kind} {row : Row} {record : kind.Record} :
    row.Holds record ↔
      List.Forall₂ (fun f value => f.ofCell (row.cell kind f.column) = .ok value) kind.fields
        (Storable.values record) := by
  rw [← kind.contents_values, ← kind.contents_fields record, List.forall₂_map_left_iff,
    List.forall₂_map_right_iff, List.forall₂_same]
  rfl

/-! ## Fitting rows -/

/-- The cells of a fitting row of a resource. -/
theorem Fits.resource_cells {row : Row} (h : row.Fits .resource) :
    ∃ uuid title sort publisher desc, ∃ added modified : Int64, ∃ rating : Option Int64,
      ∃ published : Option String, row.cells =
        [.text uuid, .text title, .text sort, (rating.map Cell.integer).getD .null,
          .integer added, .integer modified, (published.map Cell.text).getD .null,
          .text publisher, .text desc] := by
  obtain ⟨id, cells⟩ := row
  have hFields : Kind.resource.givenFields =
      [ResourceField.uuid, ResourceField.title, ResourceField.titleSort, ResourceField.rating,
        ResourceField.addDate, ResourceField.lastModifyDate, ResourceField.publishDate,
        ResourceField.publisher, ResourceField.desc] := rfl
  unfold Row.Fits at h
  rw [hFields] at h
  simp only [List.forall₂_cons_left_iff, List.forall₂_nil_left_iff] at h
  obtain ⟨uuid, _, hUuid, ⟨title, _, hTitle, ⟨sort, _, hSort, ⟨rating, _, hRating, ⟨added, _,
    hAdded, ⟨modified, _, hModified, ⟨published, _, hPublished, ⟨publisher, _, hPublisher, ⟨desc, _,
    hDesc, rfl, rfl⟩, rfl⟩, rfl⟩, rfl⟩, rfl⟩, rfl⟩, rfl⟩, rfl⟩, rfl⟩ := h
  obtain ⟨u, rfl⟩ := Field.exists_text_of_holds (hUuid.holds rfl) rfl
  obtain ⟨t, rfl⟩ := Field.exists_text_of_holds (hTitle.holds rfl) rfl
  obtain ⟨s, rfl⟩ := Field.exists_text_of_holds (hSort.holds rfl) rfl
  obtain ⟨p, rfl⟩ := Field.exists_text_of_holds (hPublisher.holds rfl) rfl
  obtain ⟨d, rfl⟩ := Field.exists_text_of_holds (hDesc.holds rfl) rfl
  obtain ⟨a, rfl⟩ : ∃ a, added = .integer a := by
    have hHolds : FieldType.timestamp.Holds added := hAdded.holds rfl
    cases added <;> first | exact ⟨_, rfl⟩ | cases hHolds
  obtain ⟨m, rfl⟩ : ∃ m, modified = .integer m := by
    have hHolds : FieldType.timestamp.Holds modified := hModified.holds rfl
    cases modified <;> first | exact ⟨_, rfl⟩ | cases hHolds
  obtain ⟨r, rfl⟩ : ∃ r : Option Int64, rating = (r.map Cell.integer).getD .null := by
    rcases hRating.cases with ⟨rfl, -⟩ | hHolds
    · exact ⟨none, rfl⟩
    · cases rating <;> first | exact ⟨some _, rfl⟩ | cases hHolds
  obtain ⟨q, rfl⟩ : ∃ q : Option String, published = (q.map Cell.text).getD .null := by
    rcases hPublished.cases with ⟨rfl, -⟩ | hHolds
    · exact ⟨none, rfl⟩
    · obtain ⟨q, rfl⟩ := Field.exists_text_of_holds hHolds rfl
      exact ⟨some q, rfl⟩
  exact ⟨u, t, s, p, d, a, m, r, q, rfl⟩

/-- Every fitting row holds a record. -/
theorem Fits.exists_holds {kind : Kind} {row : Row} (h : row.Fits kind) :
    ∃ record : kind.Record, row.Holds record := by
  obtain ⟨id, cells⟩ := row
  cases kind with
  | resource =>
      obtain ⟨uuid, title, sort, publisher, desc, added, modified, rating, published, hCells⟩ :=
        h.resource_cells
      dsimp only at hCells
      subst hCells
      have hRating : ResourceField.rating.ofCell ((rating.map Cell.integer).getD .null) =
          .ok (.ofOption .integer rating) := by cases rating <;> rfl
      have hPublished :
          ResourceField.publishDate.ofCell ((published.map Cell.text).getD .null) =
            .ok (.ofOption .publishDate (published.map PublishDate.decode)) := by
        cases published <;> rfl
      exact ⟨(⟨uuid, title, sort, rating, ⟨added⟩, ⟨modified⟩, published.map PublishDate.decode,
        publisher, desc⟩ : Resource), holds_iff.2 (.cons rfl (.cons rfl (.cons rfl (.cons hRating
          (.cons rfl (.cons rfl (.cons hPublished (.cons rfl (.cons rfl .nil)))))))))⟩
  | person =>
      obtain ⟨uuid, name, sort, hCells⟩ := h.person_cells
      dsimp only at hCells
      subst hCells
      exact ⟨(⟨uuid, name, sort⟩ : Person), holds_iff.2 (.cons rfl (.cons rfl (.cons rfl .nil)))⟩
  | group =>
      obtain ⟨uuid, title, sort, type, hCells⟩ := h.group_cells
      dsimp only at hCells
      subst hCells
      exact ⟨(⟨uuid, title, sort, ⟨type, "", false, false⟩⟩ : Group),
        holds_iff.2 (.cons rfl (.cons rfl (.cons rfl (.cons rfl .nil))))⟩
  | groupType =>
      have hCells := h.groupType.1
      generalize Row.toGroupType _ = g at hCells
      dsimp only at hCells
      subst hCells
      have hFlag : ∀ f : Field, f.type = .boolean → ∀ b : Bool,
          f.ofCell (.ofBool b) = .ok (.boolean b) := by
        intro f hType b
        cases b <;> simp [Field.ofCell, Cell.ofBool, Cell.isNull, Field.readCell, hType]
      exact ⟨g, holds_iff.2 (.cons rfl (.cons rfl (.cons (hFlag _ rfl _)
        (.cons (hFlag _ rfl _) .nil))))⟩
  | objectRelation =>
      obtain ⟨resource, uuid, tag, role, hCells⟩ := h.object_cells
      dsimp only at hCells
      subst hCells
      exact ⟨(⟨id, resource, uuid, role, tag⟩ : ObjectRelation),
        holds_iff.2 (.cons rfl (.cons rfl (.cons rfl (.cons rfl (.cons rfl .nil)))))⟩
  | personRelation =>
      obtain ⟨resource, person, role, hCells⟩ := h.personLink_cells
      dsimp only at hCells
      subst hCells
      exact ⟨(⟨resource, person, role⟩ : PersonLink),
        holds_iff.2 (.cons rfl (.cons rfl (.cons rfl .nil)))⟩
  | groupRelation =>
      obtain ⟨resource, group, tag, index, hCells⟩ := h.groupLink_cells
      dsimp only at hCells
      subst hCells
      have hIndex : GroupLinkField.groupIndex.ofCell (.integer index) =
          .ok (.ofOption .integer (if index < 0 then none else some index)) := by
        have hRead : GroupLinkField.groupIndex.ofCell (.integer index) =
            .ok (if index < 0 then .null else .integer index) := rfl
        rw [hRead]
        split <;> rfl
      exact ⟨(⟨resource, group, if index < 0 then none else some index, tag⟩ : GroupLink),
        holds_iff.2 (.cons rfl (.cons rfl (.cons hIndex (.cons rfl .nil))))⟩

end Row

/-! ## Inserted rows -/

/-- A row with what a record is stored as holds the record as it is read back. -/
theorem Row.holds_stored {kind : Kind} {record : kind.Record} {stored : List (Field × Cell)}
    (h : StoredAs (givenValues record) stored) (id : Int64) :
    (Row.mk id (stored.map Prod.snd)).Holds (kind.restored id record) := by
  unfold Row.Holds
  rw [kind.contents_restored, List.forall_mem_map]
  rintro ⟨f, value⟩ hValue
  have hField : f ∈ kind.fields := by
    rw [← kind.contents_fields record]
    exact List.mem_map_of_mem hValue
  dsimp only
  by_cases hType : f.type = .rowId
  · rw [ofCell_rowId hField hType, Field.returned, hType]
  · have hGiven : (f, value) ∈ givenValues record := by
      rw [kind.givenValues_eq]
      exact List.mem_filter.2 ⟨hValue, by simpa using hType⟩
    obtain ⟨i, hi⟩ := List.getElem?_of_mem hGiven
    obtain ⟨cell, hCell, hAt⟩ := h.exists_getElem? hi
    have hHere : kind.givenFields[i]? = some f := by
      rw [← kind.givenValues_fields record, List.getElem?_map, hi]
      rfl
    rw [Row.cell_getElem? hHere hAt, Field.returned_of_ne hType]
    exact Field.ofCell_of_toCell hCell

/-- A record is inserted in a row of its own, which holds it as it is read back. -/
theorem insertRecord_exact (kind : Kind) {c d : Catalogue} {record : kind.Record} {id : Int64}
    (h : c.insertRecord record = .ok (id, d)) :
    ∃ row : Row, row.id = id ∧ row.Fits kind ∧ row.Holds (kind.restored id record) ∧
      c.tables.Inserted kind row d.tables ∧ d = { c with tables := d.tables } := by
  have hListed : Listed kind.Record :=
    ⟨fun record => by rw [kind.givenValues_fields, kind.storable_kind]⟩
  obtain ⟨stored, t, hStored, hFits, hInserted, rfl⟩ := insertRecord_eq_ok h
  rw [Kind.storable_kind] at hFits hInserted
  exact ⟨⟨id, stored.map Prod.snd⟩, rfl, hFits, Row.holds_stored hStored id, hInserted, rfl⟩

/-! ## Reading -/

/-- What is read from a row is put together from the values of a record that it holds. -/
theorem readRow_of_holds {kind : Kind} {row : Row} {record : kind.Record} (h : row.Holds record)
    (types : TypeCache) :
    readRow kind.Record types row = Storable.ofValues types.find? (Storable.values record) := by
  have hFields : readFields kind (row.fieldCells kind) 0 kind.fields =
      .ok (Storable.values record) := readFields_eq_ok_iff.2 (Row.holds_iff.1 h)
  unfold readRow readEntry
  dsimp only
  rw [Kind.storable_kind, hFields]

/-- A record is made of values that are its own, apart from the type of a group, which is the
one that is found. -/
private theorem contents_of_ofValues {kind : Kind} {types : TypeCache} {a b : kind.Record}
    (h : Storable.ofValues types.find? (Storable.values a) = .ok b) :
    kind.contents b = kind.contents a ∧ kind.Knows types.find? b := by
  cases kind with
  | group =>
      have hGroup : Storable.ofValues (α := Group) types.find? (Storable.values (α := Group) a) =
          .ok b := h
      simp only [Storable.ofValues, Storable.values, FieldRow.text, FieldRow.valueAt,
        List.getElem?_cons_succ, List.getElem?_cons_zero, Option.getD_some] at hGroup
      cases hType : types.find? (Group.groupType a).uuid with
      | none =>
          rw [hType] at hGroup
          cases hGroup
      | some t =>
          rw [hType] at hGroup
          cases hGroup
          have hSame : t.uuid = (Group.groupType a).uuid := by simpa using List.find?_some hType
          refine ⟨?_, ?_⟩
          · simp only [Kind.contents, hSame]
          · show types.find? t.uuid = some t
            rw [hSame, hType]
  | _ =>
      have hSelf := @Kind.ofValues_values _ types.find? a trivial
      rw [hSelf] at h
      cases h
      exact ⟨rfl, trivial⟩

/-- **What is read from a fitting row is the record that it holds.** -/
theorem readRow_eq_ok_iff {kind : Kind} {row : Row} (hFits : row.Fits kind) {types : TypeCache}
    {record : kind.Record} :
    readRow kind.Record types row = .ok record ↔
      row.Holds record ∧ kind.Knows types.find? record := by
  constructor
  · intro hRead
    obtain ⟨held, hHeld⟩ := hFits.exists_holds
    rw [readRow_of_holds hHeld] at hRead
    obtain ⟨hContents, hKnows⟩ := contents_of_ofValues hRead
    refine ⟨?_, hKnows⟩
    unfold Row.Holds at hHeld ⊢
    rw [hContents]
    exact hHeld
  · rintro ⟨hHeld, hKnows⟩
    rw [readRow_of_holds hHeld]
    exact Kind.ofValues_values hKnows

/-! ## Setting columns -/

theorem Kind.fieldColumns_nodup (kind : Kind) : (kind.fields.map Field.column).Nodup := by
  cases kind <;> decide

/-- The value of a field after some assignments: what is assigned to it, in the form in which
the field hands it back, or what it was. -/
def Field.revised (f : Field) (assignments : Assignments) (value : FieldValue) : FieldValue :=
  ((assignments.lookup f).map f.type.normalForm).getD value

/-- **A column that is set is read as the new value**, and any other as before. -/
theorem Row.Holds.assign {kind : Kind} {row : Row} {old new : kind.Record} (h : row.Holds old)
    (hFits : row.Fits kind) {assignments : Assignments} {stored : List (Field × Cell)}
    (hStored : StoredAs assignments stored)
    (hFields : ∀ a ∈ assignments, a.1 ∈ kind.givenFields)
    (hNodup : (assignments.map fun a => a.1.column).Nodup)
    (hNew : kind.contents new =
      (kind.contents old).map fun p => (p.1, p.1.revised assignments p.2)) :
    (row.assign kind stored).Holds new := by
  unfold Row.Holds
  rw [hNew, List.forall_mem_map]
  rintro ⟨f, value⟩ hValue
  have hField : f ∈ kind.fields := by
    rw [← kind.contents_fields old]
    exact List.mem_map_of_mem hValue
  dsimp only
  unfold Field.revised
  cases hLookup : assignments.lookup f with
  | some change =>
      have hChange : (f, change) ∈ assignments := by
        obtain ⟨before, after, rfl, -⟩ := List.lookup_eq_some_iff.1 hLookup
        simp
      obtain ⟨cell, hCell⟩ := hStored.exists_cell _ hChange
      rw [hStored.cell_assign hFields hNodup hFits hChange hCell]
      exact Field.ofCell_of_toCell hCell
  | none =>
      have hOther : ∀ a ∈ assignments, a.1.column ≠ f.column := by
        intro a ha hColumn
        have hGiven := List.mem_of_mem_filter (hFields a ha)
        have hSame : a.1 = f :=
          List.inj_on_of_nodup_map kind.fieldColumns_nodup hGiven hField hColumn
        have hMissing := List.lookup_eq_none_iff.1 hLookup a ha
        simp [hSame] at hMissing
      rw [hStored.keeps_column hOther]
      exact h _ hValue

end Shelfmark
