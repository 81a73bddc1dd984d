import Shelfmark.Proofs.Answers
import Shelfmark.Proofs.Record.Field
import Shelfmark.Proofs.Record.Statement

/-!
# What statements say of records

The statement that inserts a record lists columns, and the one that changes a record sets
them. Both mention values only by number, so what they do depends on three orders that have
to agree: that of the columns in the text, that of the marks, and that of the values.

What a record has in each of its fields is written down here once more, field by field,
and so is what a change makes of a record. The orders are compared with these two.

## Main results

* `Kind.contents_restored` — what is read back is the record with its identifiers in normal
  form and the identifier of its row.
* `inserts_of_insertStatement` — an insertion names each given column and binds it.
* `updates_of_updateStatement` — a change names each changed column once and binds it, and
  the key comes last.
* `Patch.contents_apply` — the fields that a change sets are those that it changes.
-/

namespace Shelfmark

/-! ## Records by kind -/

namespace Kind

/-- The records of a kind. -/
abbrev Record : Kind → Type
  | resource => Resource
  | person => Person
  | group => Group
  | groupType => GroupType
  | objectRelation => ObjectRelation
  | personRelation => PersonLink
  | groupRelation => GroupLink

instance storable : (kind : Kind) → Storable kind.Record
  | resource => inferInstanceAs (Storable Resource)
  | person => inferInstanceAs (Storable Person)
  | group => inferInstanceAs (Storable Group)
  | groupType => inferInstanceAs (Storable GroupType)
  | objectRelation => inferInstanceAs (Storable ObjectRelation)
  | personRelation => inferInstanceAs (Storable PersonLink)
  | groupRelation => inferInstanceAs (Storable GroupLink)

@[simp] theorem storable_kind (kind : Kind) : Storable.kind kind.Record = kind := by
  cases kind <;> rfl

/-- What a record has in each of its fields. -/
def contents : (kind : Kind) → kind.Record → Assignments
  | resource, (r : Resource) =>
      [(ResourceField.uuid, .text r.uuid), (ResourceField.title, .text r.title),
        (ResourceField.titleSort, .text r.titleSort),
        (ResourceField.rating, .ofOption .integer r.rating),
        (ResourceField.addDate, .timestamp r.addDate),
        (ResourceField.lastModifyDate, .timestamp r.lastModifyDate),
        (ResourceField.publishDate, .ofOption .publishDate r.publishDate),
        (ResourceField.publisher, .text r.publisher), (ResourceField.desc, .text r.desc)]
  | person, (p : Person) =>
      [(PersonField.uuid, .text p.uuid), (PersonField.name, .text p.name),
        (PersonField.nameSort, .text p.nameSort)]
  | group, (g : Group) =>
      [(GroupField.uuid, .text g.uuid), (GroupField.title, .text g.title),
        (GroupField.titleSort, .text g.titleSort), (GroupField.groupType, .text g.groupType.uuid)]
  | groupType, (t : GroupType) =>
      [(GroupTypeField.uuid, .text t.uuid), (GroupTypeField.name, .text t.name),
        (GroupTypeField.exclusive, .boolean t.exclusive),
        (GroupTypeField.ordered, .boolean t.ordered)]
  | objectRelation, (o : ObjectRelation) =>
      [(ObjectField.id, .integer o.id), (ObjectField.resource, .text o.resourceUuid),
        (ObjectField.uuid, .text o.uuid), (ObjectField.role, .text o.role.word),
        (ObjectField.tag, .text o.tag)]
  | personRelation, (l : PersonLink) =>
      [(PersonLinkField.resource, .text l.resourceUuid),
        (PersonLinkField.person, .text l.personUuid),
        (PersonLinkField.relation, .text l.relation.word)]
  | groupRelation, (l : GroupLink) =>
      [(GroupLinkField.resource, .text l.resourceUuid), (GroupLinkField.group, .text l.groupUuid),
        (GroupLinkField.groupIndex, .ofOption .integer l.groupIndex),
        (GroupLinkField.relationTag, .text l.relationTag)]

/-- A record as it is read back: its identifiers are in normal form, and where the store
assigns one, it has the identifier of its row. -/
def restored (id : Int64) : (kind : Kind) → kind.Record → kind.Record
  | resource, (r : Resource) => { r with uuid := normalize r.uuid }
  | person, (p : Person) => { p with uuid := normalize p.uuid }
  | group, (g : Group) =>
      { g with
        uuid := normalize g.uuid
        groupType := { g.groupType with uuid := normalize g.groupType.uuid } }
  | groupType, (t : GroupType) => { t with uuid := normalize t.uuid }
  | objectRelation, (o : ObjectRelation) =>
      { o with id := id, resourceUuid := normalize o.resourceUuid, uuid := normalize o.uuid }
  | personRelation, (l : PersonLink) =>
      { l with resourceUuid := normalize l.resourceUuid, personUuid := normalize l.personUuid }
  | groupRelation, (l : GroupLink) =>
      { l with resourceUuid := normalize l.resourceUuid, groupUuid := normalize l.groupUuid }

/-- Whether a look-up of group types finds the type of a record under its identifier. -/
def Knows (types : TypeLookup) : (kind : Kind) → kind.Record → Prop
  | group, (g : Group) => types g.groupType.uuid = some g.groupType
  | _, _ => True

theorem contents_fields (kind : Kind) (record : kind.Record) :
    (kind.contents record).map Prod.fst = kind.fields := by
  cases kind <;> rfl

theorem contents_values (kind : Kind) (record : kind.Record) :
    (kind.contents record).map Prod.snd = Storable.values record := by
  cases kind <;> rfl

theorem fields_nodup (kind : Kind) : kind.fields.Nodup := by
  cases kind <;> decide

/-- A record has one value in each field. -/
theorem contents_unique {kind : Kind} {record : kind.Record} {f : Field} {a b : FieldValue}
    (ha : (f, a) ∈ kind.contents record) (hb : (f, b) ∈ kind.contents record) : a = b := by
  have hNodup : ((kind.contents record).map Prod.fst).Nodup := by
    rw [contents_fields]
    exact kind.fields_nodup
  exact congrArg Prod.snd (List.inj_on_of_nodup_map hNodup ha hb rfl)

theorem givenValues_eq (kind : Kind) (record : kind.Record) :
    givenValues record = (kind.contents record).filter fun p => p.1.type != .rowId := by
  cases kind <;> rfl

theorem givenValues_fields (kind : Kind) (record : kind.Record) :
    (givenValues record).map Prod.fst = kind.givenFields := by
  cases kind <;> rfl

end Kind

/-! ## What is read back -/

/-- The value that a field hands back for one that was stored with a row. -/
def Field.returned (f : Field) (id : Int64) (value : FieldValue) : FieldValue :=
  match f.type with
  | .rowId => .integer id
  | type => type.normalForm value

theorem Field.returned_of_ne {f : Field} (h : f.type ≠ .rowId) (id : Int64) (value : FieldValue) :
    f.returned id value = f.type.normalForm value := by
  unfold returned
  split
  · rename_i hType
    exact absurd hType h
  · rfl

theorem ObjectRole.normalize_word (role : ObjectRole) : normalize role.word = role.word := by
  cases role <;> decide +kernel

theorem PersonRole.normalize_word (role : PersonRole) : normalize role.word = role.word := by
  cases role <;> decide +kernel

/-- The record that is read back has, field by field, what the fields hand back. -/
theorem Kind.contents_restored (kind : Kind) (id : Int64) (record : kind.Record) :
    kind.contents (kind.restored id record) =
      (kind.contents record).map fun p => (p.1, p.1.returned id p.2) := by
  cases kind with
  | resource | person | group | groupType | groupRelation =>
      dsimp only [contents, restored]
      rfl
  | objectRelation =>
      have hRole : ObjectField.role.returned id (.text (ObjectRelation.role record).word) =
          .text (ObjectRelation.role record).word :=
        congrArg FieldValue.text (ObjectRole.normalize_word _)
      dsimp only [contents, restored]
      simp only [List.map_cons, List.map_nil, hRole]
      rfl
  | personRelation =>
      have hRelation : PersonLinkField.relation.returned id
          (.text (PersonLink.relation record).word) = .text (PersonLink.relation record).word :=
        congrArg FieldValue.text (PersonRole.normalize_word _)
      dsimp only [contents, restored]
      simp only [List.map_cons, List.map_nil, hRelation]
      rfl

/-! ## Insertions -/

namespace Statement

/-- The value that a statement binds to the mark with a number. -/
def bound? (s : Statement) : Nat → Option Cell
  | 0 => none
  | i + 1 => s.params[i]?

/-- Whether a statement is the insertion of a record: it lists the given columns of the
kind in the order of the fields, and each mark is bound to what the field in its place
stores for the record. -/
structure Inserts (s : Statement) (kind : Kind) (record : kind.Record) : Prop where
  text : s.text =
    "INSERT INTO " ++ kind.table ++ " (" ++
      ", ".intercalate (kind.givenFields.map Field.column) ++ ") VALUES (" ++
      ", ".intercalate
        ((List.range kind.givenFields.length).map fun i => placeholder (i + 1)) ++ ")"
  binds : ∀ i f, kind.givenFields[i]? = some f → ∃ value cell,
    (f, value) ∈ kind.contents record ∧ f.toCell value = .ok cell ∧
      s.bound? (i + 1) = some cell
  count : s.params.length = kind.givenFields.length

/-- Whether a row has in each column what an insertion binds for it. -/
def Fills (s : Statement) (kind : Kind) (row : Row) : Prop :=
  ∀ i f, kind.givenFields[i]? = some f → s.bound? (i + 1) = some (row.cell kind f.column)

end Statement

/-- Every statement that inserts a record is its insertion. -/
theorem inserts_of_insertStatement {kind : Kind} {record : kind.Record} {s : Statement}
    (h : insertStatement record = .ok s) : s.Inserts kind record := by
  obtain ⟨stored, hValues, rfl⟩ := exists_of_map_ok h
  have hStored : StoredAs (givenValues record) stored := storedAs_of_storedValues hValues
  have hFields : stored.map Prod.fst = kind.givenFields :=
    hStored.fields.trans (kind.givenValues_fields record)
  have hColumns : (stored.map fun p => p.1.column) = kind.givenFields.map Field.column := by
    rw [← hFields, List.map_map]
    rfl
  constructor
  · dsimp only
    rw [hColumns, List.length_map, Kind.storable_kind]
  · intro i f hf
    rw [← kind.givenValues_fields record, List.getElem?_map] at hf
    obtain ⟨⟨_, value⟩, hHere, rfl⟩ := Option.map_eq_some_iff.1 hf
    obtain ⟨cell, hCell, hAt⟩ := hStored.exists_getElem? hHere
    have hGiven := List.mem_of_getElem? hHere
    rw [kind.givenValues_eq record] at hGiven
    exact ⟨value, cell, List.mem_of_mem_filter hGiven, hCell, hAt⟩
  · dsimp only
    rw [← hFields, List.length_map, List.length_map]

/-! ## Changes -/

/-- The changes that callers can ask for, by the kind of record. A resource is stamped with
the time of its change. -/
inductive Patch : Kind → Type
  | resource (patch : ResourcePatch) : Patch .resource
  | stamped (patch : ResourcePatch) (modified : Timestamp) : Patch .resource
  | person (patch : PersonPatch) : Patch .person
  | groupType (patch : GroupTypePatch) : Patch .groupType
  | group (patch : GroupPatch) : Patch .group
  | object (patch : ObjectPatch) : Patch .objectRelation

namespace Patch

/-- The fields that a change sets. -/
def assignments {kind : Kind} : Patch kind → Assignments
  | resource p => p.assignments
  | stamped p modified => p.stamped modified
  | person p => p.assignments
  | groupType p => p.assignments
  | group p => p.assignments
  | object p => p.assignments

/-- The resource with the changes made. -/
def applyResource (p : ResourcePatch) (r : Resource) : Resource :=
  { r with
    title := p.title.getD r.title
    titleSort := p.titleSort.getD r.titleSort
    rating := p.rating.getD r.rating
    publishDate := p.publishDate.getD r.publishDate
    publisher := p.publisher.getD r.publisher
    desc := p.desc.getD r.desc }

/-- The record with the changes made. Of the type of a group only the identifier is in the
group itself, so that is what changes. -/
def apply {kind : Kind} : Patch kind → kind.Record → kind.Record
  | resource p, (r : Resource) => applyResource p r
  | stamped p modified, (r : Resource) => { applyResource p r with lastModifyDate := modified }
  | person p, (r : Person) =>
      { r with name := p.name.getD r.name, nameSort := p.nameSort.getD r.nameSort }
  | groupType p, (t : GroupType) => p.apply t
  | group p, (g : Group) =>
      { g with
        title := p.title.getD g.title
        titleSort := p.titleSort.getD g.titleSort
        groupType := { g.groupType with uuid := p.groupType.getD g.groupType.uuid } }
  | object p, (o : ObjectRelation) =>
      { o with uuid := p.uuid.getD o.uuid, role := p.role.getD o.role, tag := p.tag.getD o.tag }

end Patch

theorem assign_fields {α : Type} (f : Field) (value : α → FieldValue) (change : Option α) :
    ((assign f value change).map Prod.fst).Sublist [f] := by
  cases change <;> simp [assign]

/-- An optional change sets its own field. -/
theorem lookup_assign {α : Type} (f : Field) (value : α → FieldValue) (change : Option α) :
    (assign f value change).lookup f = change.map value := by
  cases change <;> simp [assign]

theorem lookup_assign_of_ne {α : Type} {f g : Field} (h : g ≠ f) (value : α → FieldValue)
    (change : Option α) : (assign f value change).lookup g = none := by
  cases change <;> simp [assign, List.lookup_cons, beq_false_of_ne h]

namespace Patch

theorem stamped_eq (p : ResourcePatch) (modified : Timestamp) :
    p.stamped modified =
      p.assignments ++ assign ResourceField.lastModifyDate .timestamp (some modified) := rfl

/-- The fields that a change may set, in the order in which it sets them. -/
def fields {kind : Kind} : Patch kind → List Field
  | resource _ =>
      [ResourceField.title, ResourceField.titleSort, ResourceField.rating,
        ResourceField.publishDate, ResourceField.publisher, ResourceField.desc]
  | stamped _ _ =>
      [ResourceField.title, ResourceField.titleSort, ResourceField.rating,
        ResourceField.publishDate, ResourceField.publisher, ResourceField.desc,
        ResourceField.lastModifyDate]
  | person _ => [PersonField.name, PersonField.nameSort]
  | groupType _ => [GroupTypeField.name, GroupTypeField.exclusive, GroupTypeField.ordered]
  | group _ => [GroupField.title, GroupField.titleSort, GroupField.groupType]
  | object _ => [ObjectField.uuid, ObjectField.role, ObjectField.tag]

theorem assignments_fields {kind : Kind} (patch : Patch kind) :
    (patch.assignments.map Prod.fst).Sublist patch.fields := by
  cases patch with
  | resource p =>
      simp only [assignments, ResourcePatch.assignments, List.map_append]
      exact (((((assign_fields _ _ _).append (assign_fields _ _ _)).append
        (assign_fields _ _ _)).append (assign_fields _ _ _)).append (assign_fields _ _ _)).append
        (assign_fields _ _ _)
  | stamped p modified =>
      simp only [assignments, stamped_eq, ResourcePatch.assignments, List.map_append]
      exact ((((((assign_fields _ _ _).append (assign_fields _ _ _)).append
        (assign_fields _ _ _)).append (assign_fields _ _ _)).append (assign_fields _ _ _)).append
        (assign_fields _ _ _)).append (assign_fields _ _ _)
  | person p =>
      simp only [assignments, PersonPatch.assignments, List.map_append]
      exact (assign_fields _ _ _).append (assign_fields _ _ _)
  | groupType p =>
      simp only [assignments, GroupTypePatch.assignments, List.map_append]
      exact ((assign_fields _ _ _).append (assign_fields _ _ _)).append (assign_fields _ _ _)
  | group p =>
      simp only [assignments, GroupPatch.assignments, List.map_append]
      exact ((assign_fields _ _ _).append (assign_fields _ _ _)).append (assign_fields _ _ _)
  | object p =>
      simp only [assignments, ObjectPatch.assignments, List.map_append]
      exact ((assign_fields _ _ _).append (assign_fields _ _ _)).append (assign_fields _ _ _)

/-- No column is set twice. -/
theorem columns_nodup {kind : Kind} (patch : Patch kind) :
    (patch.assignments.map fun a => a.1.column).Nodup := by
  have hFields : (patch.fields.map Field.column).Nodup := by
    cases patch <;> (dsimp only [fields]; decide)
  have hSublist := patch.assignments_fields.map Field.column
  rw [List.map_map] at hSublist
  exact hFields.sublist hSublist

/-- **A change sets just the fields that it changes**, and each to its new value: the changed
record has what is set, and in all other fields what it had. -/
theorem contents_apply {kind : Kind} (patch : Patch kind) (record : kind.Record) :
    kind.contents (patch.apply record) =
      (kind.contents record).map fun p => (p.1, (patch.assignments.lookup p.1).getD p.2) := by
  cases patch with
  | resource p =>
      simp (disch := decide) [Kind.contents, apply, applyResource, assignments,
        ResourcePatch.assignments, List.lookup_append, lookup_assign, lookup_assign_of_ne]
  | stamped p modified =>
      simp (disch := decide) [Kind.contents, apply, applyResource, assignments, stamped_eq,
        ResourcePatch.assignments, List.lookup_append, lookup_assign, lookup_assign_of_ne]
  | person p =>
      simp (disch := decide) [Kind.contents, apply, assignments, PersonPatch.assignments,
        List.lookup_append, lookup_assign, lookup_assign_of_ne]
  | groupType p =>
      simp (disch := decide) [Kind.contents, apply, assignments, GroupTypePatch.assignments,
        GroupTypePatch.apply, List.lookup_append, lookup_assign, lookup_assign_of_ne]
  | group p =>
      simp (disch := decide) [Kind.contents, apply, assignments, GroupPatch.assignments,
        List.lookup_append, lookup_assign, lookup_assign_of_ne]
  | object p =>
      simp (disch := decide) [Kind.contents, apply, assignments, ObjectPatch.assignments,
        List.lookup_append, lookup_assign, lookup_assign_of_ne]

end Patch

/-- Whether a statement makes a change to the record with a key: it sets the columns of the
fields that the change sets, each once, each mark is bound to what the field in its place
stores, and the last mark to the key. -/
structure Statement.Updates (s : Statement) {kind : Kind} (patch : Patch kind)
    (key : FieldValue) : Prop where
  text : s.text =
    "UPDATE " ++ kind.table ++ " SET " ++
      ", ".intercalate (patch.assignments.mapIdx fun i a =>
        a.1.column ++ " = " ++ placeholder (i + 1)) ++
      " WHERE " ++ kind.keyColumn ++ " = " ++ placeholder (patch.assignments.length + 1)
  once : (patch.assignments.map fun a => a.1.column).Nodup
  binds : ∀ i f value, patch.assignments[i]? = some (f, value) → ∃ cell,
    f.toCell value = .ok cell ∧ s.bound? (i + 1) = some cell
  key : s.bound? (patch.assignments.length + 1) = some (keyCell key)
  count : s.params.length = patch.assignments.length + 1

/-- Every statement that changes a record makes the change. -/
theorem updates_of_updateStatement {kind : Kind} {patch : Patch kind} {key : FieldValue}
    {s : Statement} (h : updateStatement kind patch.assignments key = .ok (some s)) :
    s.Updates patch key := by
  unfold updateStatement at h
  split at h
  · cases h
  · obtain ⟨stored, hValues, hSome⟩ := exists_of_map_ok h
    cases hSome
    have hStored : StoredAs patch.assignments stored := storedAs_of_storedValues hValues
    have hLength : stored.length = patch.assignments.length := by
      simpa using congrArg List.length hStored.fields
    have hSets : (stored.mapIdx fun i p => p.1.column ++ " = " ++ placeholder (i + 1)) =
        patch.assignments.mapIdx fun i a => a.1.column ++ " = " ++ placeholder (i + 1) := by
      refine List.ext_getElem? fun i => ?_
      have hField : stored[i]?.map Prod.fst = patch.assignments[i]?.map Prod.fst := by
        rw [← List.getElem?_map, hStored.fields, List.getElem?_map]
      have hSet := congrArg (Option.map fun f => f.column ++ " = " ++ placeholder (i + 1)) hField
      simpa [List.getElem?_mapIdx, Option.map_map, Function.comp_def] using hSet
    constructor
    · dsimp only
      rw [hSets, hLength]
    · exact patch.columns_nodup
    · intro i f value hHere
      obtain ⟨cell, hCell, hAt⟩ := hStored.exists_getElem? hHere
      refine ⟨cell, hCell, ?_⟩
      have hIn : i < (stored.map Prod.snd).length := (List.getElem?_eq_some_iff.1 hAt).1
      exact (List.getElem?_append_left hIn).trans hAt
    · have hEnd : (stored.map Prod.snd).length = patch.assignments.length := by
        rw [List.length_map, hLength]
      exact (List.getElem?_append_right hEnd.le).trans (by simp [hLength])
    · simp [hLength]

end Shelfmark
