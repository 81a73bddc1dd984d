import Shelfmark.Catalogue.Relations
import Shelfmark.Proofs.Answers
import Shelfmark.Proofs.Store.TypeRules

/-!
# Reading what was written

A result is read column by column, from an offset on, and what is read does not depend on
the columns before and behind. So a row that others link to is read with its link as if each
were read alone.

A fitting row can be read back as the record of its kind. A group needs its type in
memory as well; everything else is in the row. So in sound tables a record that is there
can be fetched by its key, and a fetch only fails because the key names no row.
-/

namespace Shelfmark

/-! ## Cells by kind -/

namespace Row

/-- The cells of a fitting row of a group. -/
theorem Fits.group_cells {row : Row} (h : row.Fits .group) :
    ∃ uuid title sort type, row.cells = [.text uuid, .text title, .text sort, .text type] := by
  obtain ⟨id, cells⟩ := row
  have hFields : Kind.group.givenFields =
      [GroupField.uuid, GroupField.title, GroupField.titleSort, GroupField.groupType] := rfl
  unfold Row.Fits at h
  rw [hFields] at h
  simp only [List.forall₂_cons_left_iff, List.forall₂_nil_left_iff] at h
  obtain ⟨uuid, _, hUuid, ⟨title, _, hTitle, ⟨sort, _, hSort, ⟨type, _, hType, rfl, rfl⟩, rfl⟩,
    rfl⟩, rfl⟩ := h
  obtain ⟨u, rfl⟩ := Field.exists_text_of_holds (hUuid.holds rfl) rfl
  obtain ⟨t, rfl⟩ := Field.exists_text_of_holds (hTitle.holds rfl) rfl
  obtain ⟨s, rfl⟩ := Field.exists_text_of_holds (hSort.holds rfl) rfl
  obtain ⟨g, rfl⟩ := Field.exists_text_of_holds (hType.holds rfl) rfl
  exact ⟨u, t, s, g, rfl⟩

/-- The cells of a fitting row of an object relation. -/
theorem Fits.object_cells {row : Row} (h : row.Fits .objectRelation) :
    ∃ resource uuid tag, ∃ role : ObjectRole,
      row.cells = [.text resource, .text uuid, .text role.word, .text tag] := by
  obtain ⟨id, cells⟩ := row
  have hFields : Kind.objectRelation.givenFields =
      [ObjectField.resource, ObjectField.uuid, ObjectField.role, ObjectField.tag] := rfl
  unfold Row.Fits at h
  rw [hFields] at h
  simp only [List.forall₂_cons_left_iff, List.forall₂_nil_left_iff] at h
  obtain ⟨resource, _, hResource, ⟨uuid, _, hUuid, ⟨role, _, hRole, ⟨tag, _, hTag, rfl, rfl⟩, rfl⟩,
    rfl⟩, rfl⟩ := h
  obtain ⟨r, rfl⟩ := Field.exists_text_of_holds (hResource.holds rfl) rfl
  obtain ⟨u, rfl⟩ := Field.exists_text_of_holds (hUuid.holds rfl) rfl
  obtain ⟨w, rfl⟩ := Field.exists_text_of_holds (hRole.holds rfl) rfl
  obtain ⟨t, rfl⟩ := Field.exists_text_of_holds (hTag.holds rfl) rfl
  have hWord : ∃ word : ObjectRole, word.word = w := by
    have hIn : ["format", "cover"].contains w = true := (hRole.holds rfl).1
    simp only [List.contains_cons, List.contains_nil, Bool.or_false, Bool.or_eq_true,
      beq_iff_eq] at hIn
    rcases hIn with rfl | rfl
    · exact ⟨.format, rfl⟩
    · exact ⟨.cover, rfl⟩
  obtain ⟨word, rfl⟩ := hWord
  exact ⟨r, u, t, word, rfl⟩

/-- The cells of a fitting row of a person relation. -/
theorem Fits.personLink_cells {row : Row} (h : row.Fits .personRelation) :
    ∃ resource person, ∃ role : PersonRole,
      row.cells = [.text resource, .text person, .text role.word] := by
  obtain ⟨id, cells⟩ := row
  have hFields : Kind.personRelation.givenFields =
      [PersonLinkField.resource, PersonLinkField.person, PersonLinkField.relation] := rfl
  unfold Row.Fits at h
  rw [hFields] at h
  simp only [List.forall₂_cons_left_iff, List.forall₂_nil_left_iff] at h
  obtain ⟨resource, _, hResource, ⟨person, _, hPerson, ⟨role, _, hRole, rfl, rfl⟩, rfl⟩, rfl⟩ := h
  obtain ⟨r, rfl⟩ := Field.exists_text_of_holds (hResource.holds rfl) rfl
  obtain ⟨p, rfl⟩ := Field.exists_text_of_holds (hPerson.holds rfl) rfl
  obtain ⟨w, rfl⟩ := Field.exists_text_of_holds (hRole.holds rfl) rfl
  have hWord : ∃ word : PersonRole, word.word = w := by
    have hIn : ["author", "editor", "translator"].contains w = true := (hRole.holds rfl).1
    simp only [List.contains_cons, List.contains_nil, Bool.or_false, Bool.or_eq_true,
      beq_iff_eq] at hIn
    rcases hIn with rfl | rfl | rfl
    · exact ⟨.author, rfl⟩
    · exact ⟨.editor, rfl⟩
    · exact ⟨.translator, rfl⟩
  obtain ⟨word, rfl⟩ := hWord
  exact ⟨r, p, word, rfl⟩

/-- The cells of a fitting row of a person. -/
theorem Fits.person_cells {row : Row} (h : row.Fits .person) :
    ∃ uuid name sort, row.cells = [.text uuid, .text name, .text sort] := by
  obtain ⟨id, cells⟩ := row
  have hFields : Kind.person.givenFields =
      [PersonField.uuid, PersonField.name, PersonField.nameSort] := rfl
  unfold Row.Fits at h
  rw [hFields] at h
  simp only [List.forall₂_cons_left_iff, List.forall₂_nil_left_iff] at h
  obtain ⟨uuid, _, hUuid, ⟨name, _, hName, ⟨sort, _, hSort, rfl, rfl⟩, rfl⟩, rfl⟩ := h
  obtain ⟨u, rfl⟩ := Field.exists_text_of_holds (hUuid.holds rfl) rfl
  obtain ⟨n, rfl⟩ := Field.exists_text_of_holds (hName.holds rfl) rfl
  obtain ⟨s, rfl⟩ := Field.exists_text_of_holds (hSort.holds rfl) rfl
  exact ⟨u, n, s, rfl⟩

/-- The cells of a fitting row of a group relation. -/
theorem Fits.groupLink_cells {row : Row} (h : row.Fits .groupRelation) :
    ∃ resource group tag, ∃ index : Int64,
      row.cells = [.text resource, .text group, .integer index, .text tag] := by
  obtain ⟨id, cells⟩ := row
  have hFields : Kind.groupRelation.givenFields =
      [GroupLinkField.resource, GroupLinkField.group, GroupLinkField.groupIndex,
        GroupLinkField.relationTag] := rfl
  unfold Row.Fits at h
  rw [hFields] at h
  simp only [List.forall₂_cons_left_iff, List.forall₂_nil_left_iff] at h
  obtain ⟨resource, _, hResource, ⟨group, _, hGroup, ⟨index, _, hIndex, ⟨tag, _, hTag, rfl, rfl⟩,
    rfl⟩, rfl⟩, rfl⟩ := h
  obtain ⟨r, rfl⟩ := Field.exists_text_of_holds (hResource.holds rfl) rfl
  obtain ⟨g, rfl⟩ := Field.exists_text_of_holds (hGroup.holds rfl) rfl
  obtain ⟨t, rfl⟩ := Field.exists_text_of_holds (hTag.holds rfl) rfl
  have hHolds : FieldType.index.Holds index := hIndex.holds rfl
  cases index with
  | integer i => exact ⟨r, g, t, i, rfl⟩
  | _ => cases hHolds

end Row

/-! ## Reading rows -/

namespace Catalogue

/-- Reading the first of some fields, from the column behind others. -/
theorem readFields_cons (kind : Kind) (before after : List Cell) (f : Field) (fields : List Field)
    (cell : Field → Cell) :
    readFields kind (before ++ (f :: fields).map cell ++ after) before.length (f :: fields) =
      (Fault.ofField kind f (f.ofCell (cell f))).bind fun value =>
        (readFields kind (before ++ [cell f] ++ fields.map cell ++ after)
          (before ++ [cell f]).length fields).map (value :: ·) := by
  have hColumns : before ++ (f :: fields).map cell ++ after =
      before ++ [cell f] ++ fields.map cell ++ after := by simp
  have hHere : (before ++ [cell f] ++ fields.map cell ++ after)[before.length]? = some (cell f) := by
    simp
  rw [hColumns, readFields, hHere, List.length_append, List.length_singleton]
  dsimp only
  cases Fault.ofField kind f (f.ofCell (cell f)) <;> rfl

/-- What is read does not depend on the columns before and behind. -/
theorem readFields_at (kind : Kind) (before after : List Cell) (fields : List Field)
    (cell : Field → Cell) :
    readFields kind (before ++ fields.map cell ++ after) before.length fields =
      readFields kind (fields.map cell) 0 fields := by
  -- both sides move along their columns, so the induction is on two readings anywhere
  have hAny : ∀ before after before' after' : List Cell,
      readFields kind (before ++ fields.map cell ++ after) before.length fields =
        readFields kind (before' ++ fields.map cell ++ after') before'.length fields := by
    induction fields with
    | nil => exact fun _ _ _ _ => rfl
    | cons f fields ih =>
        intro before after before' after'
        rw [readFields_cons, readFields_cons,
          ih (before ++ [cell f]) after (before' ++ [cell f]) after']
  simpa using hAny before after [] []

/-- Fields are read when each is read from its own column. -/
theorem readFields_eq_ok_iff {kind : Kind} {fields : List Field} {cell : Field → Cell}
    {values : FieldRow} :
    readFields kind (fields.map cell) 0 fields = .ok values ↔
      List.Forall₂ (fun f value => f.ofCell (cell f) = .ok value) fields values := by
  induction fields generalizing values with
  | nil => simp [readFields, eq_comm]
  | cons f fields ih =>
      have hStep := readFields_cons kind [] [] f fields cell
      rw [readFields_at, readFields_at] at hStep
      rw [hStep, List.forall₂_cons_left_iff]
      cases f.ofCell (cell f) with
      | error cause => simp [Fault.ofField, Except.bind]
      | ok value =>
          constructor
          · intro h
            obtain ⟨rest, hRest, rfl⟩ := exists_of_map_ok h
            exact ⟨value, rest, rfl, ih.1 hRest, rfl⟩
          · rintro ⟨_, rest, ⟨⟩, hRest, rfl⟩
            rw [ih.2 hRest]
            rfl

/-- Every field of a fitting row can be read. -/
theorem readFields_of_fits {kind : Kind} {row : Row} (h : row.Fits kind)
    (hGiven : kind.givenFields = kind.fields) :
    ∃ values, readFields kind (row.fieldCells kind) 0 kind.fields = .ok values := by
  have hFields : ∀ fields : List Field, (∀ f ∈ fields, f ∈ kind.fields) →
      ∃ values, List.Forall₂
        (fun f value => f.ofCell (row.cell kind f.column) = .ok value) fields values := by
    intro fields hMem
    induction fields with
    | nil => exact ⟨[], .nil⟩
    | cons f fields ih =>
        obtain ⟨value, hValue⟩ := (h.stores (hGiven ▸ hMem f (by simp))).readable
        obtain ⟨values, hValues⟩ := ih fun g hg => hMem g (by simp [hg])
        exact ⟨value :: values, .cons hValue hValues⟩
  obtain ⟨values, hValues⟩ := hFields kind.fields fun _ hf => hf
  exact ⟨values, readFields_eq_ok_iff.2 hValues⟩

private theorem readRow_of_fields (α : Type) [Storable α] {row : Row} {values : FieldRow}
    (types : TypeCache)
    (h : readFields (Storable.kind α) (row.fieldCells (Storable.kind α)) 0
      (Storable.kind α).fields = .ok values) :
    readRow α types row = Storable.ofValues types.find? values := by
  unfold readRow readEntry
  dsimp only
  rw [h]

/-- The columns of a row are read as the row wherever they stand. -/
theorem readEntry_at (α : Type) [Storable α] (types : TypeLookup) (before after : List Cell)
    (row : Row) :
    readEntry α types (before ++ row.fieldCells (Storable.kind α) ++ after) before.length =
      readEntry α types (row.fieldCells (Storable.kind α)) 0 := by
  unfold readEntry
  dsimp only
  rw [Row.fieldCells, readFields_at]

/-- A row that others link to is read with its link. -/
theorem readLinked_eq (α β : Type) [Storable α] [Storable β] (types : TypeCache)
    (pair : Row × Row) :
    readLinked α β types pair =
      (readRow α types pair.2).bind fun target =>
        (readRow β types pair.1).map fun link => (target, link) := by
  have hTarget := readEntry_at α types.find? [] (pair.1.fieldCells (Storable.kind β)) pair.2
  have hLink := readEntry_at β types.find? (pair.2.fieldCells (Storable.kind α)) [] pair.1
  have hLength : (pair.2.fieldCells (Storable.kind α)).length = (Storable.kind α).fields.length :=
    List.length_map _
  rw [List.nil_append, List.length_nil] at hTarget
  rw [List.append_nil, hLength] at hLink
  unfold readLinked readRow
  dsimp only
  rw [hTarget, hLink]
  cases readEntry α types.find? (pair.2.fieldCells (Storable.kind α)) 0 <;> rfl

theorem readRow_resource {row : Row} (h : row.Fits .resource) (types : TypeCache) :
    ∃ record, readRow Resource types row = .ok record := by
  obtain ⟨values, hValues⟩ := readFields_of_fits h rfl
  exact ⟨_, (readRow_of_fields Resource types hValues).trans rfl⟩

theorem readRow_person {row : Row} (h : row.Fits .person) (types : TypeCache) :
    ∃ record, readRow Person types row = .ok record := by
  obtain ⟨values, hValues⟩ := readFields_of_fits h rfl
  exact ⟨_, (readRow_of_fields Person types hValues).trans rfl⟩

theorem readRow_groupLink {row : Row} (h : row.Fits .groupRelation) (types : TypeCache) :
    ∃ record, readRow GroupLink types row = .ok record := by
  obtain ⟨values, hValues⟩ := readFields_of_fits h rfl
  exact ⟨_, (readRow_of_fields GroupLink types hValues).trans rfl⟩

/-- The word of a role is read as that role. -/
theorem objectRole_ofText?_word (role : ObjectRole) : ObjectRole.ofText? role.word = some role := by
  cases role <;> decide +kernel

theorem readRow_object {row : Row} (h : row.Fits .objectRelation) (types : TypeCache) :
    ∃ record, readRow ObjectRelation types row = .ok record := by
  obtain ⟨resource, uuid, tag, role, hCells⟩ := h.object_cells
  obtain ⟨id, cells⟩ := row
  dsimp only at hCells
  subst hCells
  have hValues : readFields .objectRelation (Row.fieldCells .objectRelation
        ⟨id, [.text resource, .text uuid, .text role.word, .text tag]⟩) 0
        Kind.objectRelation.fields =
      .ok [.integer id, .text resource, .text uuid, .text role.word, .text tag] := rfl
  refine ⟨⟨id, resource, uuid, role, tag⟩, ?_⟩
  rw [readRow_of_fields ObjectRelation types hValues]
  simp [Storable.ofValues, FieldRow.text, FieldRow.integer?, FieldRow.valueAt,
    objectRole_ofText?_word]

/-- The word of a role is read as that role. -/
theorem personRole_ofText?_word (role : PersonRole) : PersonRole.ofText? role.word = some role := by
  cases role <;> decide +kernel

/-- A person relation is read with the role that its row names. -/
theorem readRow_personLink_role {row : Row} (h : row.Fits .personRelation) (types : TypeCache) :
    ∃ record : PersonLink, row.cell .personRelation "relation" = .text record.relation.word ∧
      readRow PersonLink types row = .ok record := by
  obtain ⟨resource, person, role, hCells⟩ := h.personLink_cells
  obtain ⟨id, cells⟩ := row
  dsimp only at hCells
  subst hCells
  have hValues : readFields .personRelation (Row.fieldCells .personRelation
        ⟨id, [.text resource, .text person, .text role.word]⟩) 0 Kind.personRelation.fields =
      .ok [.text resource, .text person, .text role.word] := rfl
  refine ⟨⟨resource, person, role⟩, rfl, ?_⟩
  rw [readRow_of_fields PersonLink types hValues]
  simp [Storable.ofValues, FieldRow.text, FieldRow.valueAt, personRole_ofText?_word]

theorem readRow_personLink {row : Row} (h : row.Fits .personRelation) (types : TypeCache) :
    ∃ record, readRow PersonLink types row = .ok record := by
  obtain ⟨record, _, hRead⟩ := readRow_personLink_role h types
  exact ⟨record, hRead⟩

/-- A group is read together with the type that its row names. -/
theorem readRow_group {row : Row} (h : row.Fits .group) (types : TypeCache) :
    ∃ uuid title sort type, row.cell .group "uuid" = .text uuid ∧
      row.cell .group "type_uuid" = .text type ∧
      readRow Group types row =
        match types.find? type with
        | some t => .ok ⟨uuid, title, sort, t⟩
        | none => .error (.integrity .group (.unknownGroupType uuid type)) := by
  obtain ⟨uuid, title, sort, type, hCells⟩ := h.group_cells
  obtain ⟨id, cells⟩ := row
  dsimp only at hCells
  subst hCells
  exact ⟨uuid, title, sort, type, rfl, rfl, rfl⟩

/-! ## What records tell of their rows -/

theorem name_of_readRow {row : Row} (hFits : row.Fits .person) {types : TypeCache}
    {record : Person} (h : readRow Person types row = .ok record) :
    row.cell .person "name" = .text record.name := by
  obtain ⟨uuid, name, sort, hCells⟩ := hFits.person_cells
  obtain ⟨id, cells⟩ := row
  dsimp only at hCells
  subst hCells
  cases h
  rfl

theorem relation_of_readRow {row : Row} (hFits : row.Fits .personRelation) {types : TypeCache}
    {record : PersonLink} (h : readRow PersonLink types row = .ok record) :
    row.cell .personRelation "relation" = .text record.relation.word := by
  obtain ⟨found, hRole, hRead⟩ := readRow_personLink_role hFits types
  rw [h] at hRead
  cases hRead
  exact hRole

theorem title_of_readRow {row : Row} (hFits : row.Fits .group) {types : TypeCache}
    {record : Group} (h : readRow Group types row = .ok record) :
    row.cell .group "title" = .text record.title ∧
      row.cell .group "type_uuid" = .text record.groupType.uuid := by
  obtain ⟨uuid, title, sort, type, hCells⟩ := hFits.group_cells
  obtain ⟨id, cells⟩ := row
  dsimp only at hCells
  subst hCells
  have hValues : readFields .group (Row.fieldCells .group
        ⟨id, [.text uuid, .text title, .text sort, .text type]⟩) 0 Kind.group.fields =
      .ok [.text uuid, .text title, .text sort, .text type] := rfl
  rw [readRow_of_fields Group types hValues] at h
  simp only [Storable.ofValues, FieldRow.text, FieldRow.valueAt, List.getElem?_cons_succ,
    List.getElem?_cons_zero, Option.getD_some] at h
  cases hType : types.find? type with
  | none =>
      rw [hType] at h
      cases h
  | some t =>
      rw [hType] at h
      cases h
      have hSame : t.uuid = type := by simpa using List.find?_some hType
      exact ⟨rfl, congrArg Cell.text hSame.symm⟩

/-- A negative index is read as none. -/
theorem index_of_readRow {row : Row} (hFits : row.Fits .groupRelation) {types : TypeCache}
    {record : GroupLink} (h : readRow GroupLink types row = .ok record) :
    ∃ i : Int64, row.cell .groupRelation "group_index" = .integer i ∧
      record.groupIndex = if i < 0 then none else some i := by
  obtain ⟨resource, group, tag, i, hCells⟩ := hFits.groupLink_cells
  obtain ⟨id, cells⟩ := row
  dsimp only at hCells
  subst hCells
  have hValues : readFields .groupRelation (Row.fieldCells .groupRelation
        ⟨id, [.text resource, .text group, .integer i, .text tag]⟩) 0 Kind.groupRelation.fields =
      .ok [.text resource, .text group, if i < 0 then .null else .integer i, .text tag] := rfl
  rw [readRow_of_fields GroupLink types hValues] at h
  cases h
  refine ⟨i, rfl, ?_⟩
  by_cases hNegative : i < 0 <;>
    simp [hNegative, FieldRow.integer?, FieldRow.valueAt]

/-! ## The key of what was read -/

private theorem readRow_cons (α : Type) [Storable α] {types : TypeCache} {row : Row} {record : α}
    {f : Field} {fields : List Field} (hFields : (Storable.kind α).fields = f :: fields)
    (h : readRow α types row = .ok record) :
    ∃ value values, f.ofCell (row.cell (Storable.kind α) f.column) = .ok value ∧
      Storable.ofValues types.find? (value :: values) = .ok record := by
  unfold readRow readEntry at h
  dsimp only at h
  split at h
  · cases h
  · rename_i hValues
    rw [Row.fieldCells, readFields_eq_ok_iff, hFields, List.forall₂_cons_left_iff] at hValues
    obtain ⟨value, values, hValue, _, rfl⟩ := hValues
    exact ⟨value, values, hValue, h⟩

/-- What is read from a row with an identifier has that identifier first. -/
private theorem readRow_uuid (α : Type) [Storable α] {types : TypeCache} {row : Row} {record : α}
    {f : Field} {fields : List Field} (hFields : (Storable.kind α).fields = f :: fields)
    (hColumn : f.column = "uuid") (hType : f.type = .identifier)
    (hKey : (Storable.kind α).keyColumn = "uuid") (hFits : row.Fits (Storable.kind α))
    (h : readRow α types row = .ok record) :
    ∃ s values, row.key (Storable.kind α) = .text s ∧
      Storable.ofValues types.find? (.text s :: values) = .ok record := by
  obtain ⟨value, values, hCell, hRecord⟩ := readRow_cons α hFields h
  obtain ⟨s, hs, _⟩ := hFits.key_text hKey
  rw [hColumn, hs, Field.ofCell, hType] at hCell
  cases hCell
  exact ⟨s, values, by rw [Row.key, hKey, hs], hRecord⟩

theorem key_of_readRow_resource {row : Row} (hFits : row.Fits .resource) {types : TypeCache}
    {record : Resource} (h : readRow Resource types row = .ok record) :
    row.key .resource = .text record.uuid := by
  obtain ⟨s, values, hKey, hRecord⟩ := readRow_uuid Resource rfl rfl rfl rfl hFits h
  cases hRecord
  exact hKey

theorem key_of_readRow_person {row : Row} (hFits : row.Fits .person) {types : TypeCache}
    {record : Person} (h : readRow Person types row = .ok record) :
    row.key .person = .text record.uuid := by
  obtain ⟨s, values, hKey, hRecord⟩ := readRow_uuid Person rfl rfl rfl rfl hFits h
  cases hRecord
  exact hKey

theorem key_of_readRow_groupType {row : Row} (hFits : row.Fits .groupType) {types : TypeCache}
    {record : GroupType} (h : readRow GroupType types row = .ok record) :
    row.key .groupType = .text record.uuid := by
  obtain ⟨s, values, hKey, hRecord⟩ := readRow_uuid GroupType rfl rfl rfl rfl hFits h
  cases hRecord
  exact hKey

theorem key_of_readRow_group {row : Row} (hFits : row.Fits .group) {types : TypeCache}
    {record : Group} (h : readRow Group types row = .ok record) :
    row.key .group = .text record.uuid := by
  obtain ⟨s, values, hKey, hRecord⟩ := readRow_uuid Group rfl rfl rfl rfl hFits h
  dsimp only [Storable.ofValues] at hRecord
  split at hRecord
  · cases hRecord
    exact hKey
  · cases hRecord

theorem key_of_readRow_object {row : Row} {types : TypeCache} {record : ObjectRelation}
    (h : readRow ObjectRelation types row = .ok record) :
    row.key .objectRelation = .integer record.id := by
  obtain ⟨value, values, hCell, hRecord⟩ := readRow_cons ObjectRelation rfl h
  cases hCell
  dsimp only [Storable.ofValues] at hRecord
  split at hRecord
  · cases hRecord
    rfl
  · cases hRecord

end Catalogue

end Shelfmark
