import Shelfmark.Proofs.Catalogue.Failure
import Shelfmark.Proofs.Catalogue.Holding
import Shelfmark.Proofs.Catalogue.Spelling

/-!
# What a change changes

Five operations change records, each with a patch of its own. Each patch is turned into a list
of fields with their new values, and that list into a list of columns that are set in one row;
the record is then read back from its row. A group type is an exception: it is patched once in
its row and once more in memory, and what is answered is the latter.

`Revision.result` says what a change is to make of a record, field by field and without any
column. A successful change makes just that of the record, of its row and of what memory has,
and it leaves every other row alone.

## Main results

* `Tables.SameBut` — all tables are the same but for one row.
* `Reachable.updates_exact` — what a successful change answers, what is read afterwards, and
  what stays.
-/

namespace Shelfmark

open Shelfmark.Text

/-! ## Patches in normal form -/

private theorem lookup_map_snd {g : Field → FieldValue → FieldValue} (assignments : Assignments)
    (f : Field) :
    (assignments.map fun a => (a.1, g a.1 a.2)).lookup f = (assignments.lookup f).map (g f) := by
  induction assignments with
  | nil => rfl
  | cons a rest ih =>
      obtain ⟨field, value⟩ := a
      rw [List.map_cons, List.lookup_cons, List.lookup_cons]
      by_cases hField : f = field
      · simp [hField]
      · rw [beq_false_of_ne hField]
        exact ih

/-- The assignments with all values as the fields hand them back. -/
def Assignments.settled (assignments : Assignments) : Assignments :=
  assignments.map fun a => (a.1, a.1.type.normalForm a.2)

private theorem settled_append (as bs : Assignments) :
    (as ++ bs : Assignments).settled = as.settled ++ bs.settled :=
  List.map_append

private theorem settled_assign {α : Type} {f : Field} (value : α → FieldValue) {g : α → α}
    (h : ∀ a, f.type.normalForm (value a) = value (g a)) (change : Option α) :
    (assign f value change).settled = assign f value (change.map g) := by
  cases change with
  | none => rfl
  | some a => exact congrArg (fun value => [(f, value)]) (h a)

private theorem settled_assign_of_fixed {α : Type} {f : Field} {value : α → FieldValue}
    (h : ∀ a, f.type.normalForm (value a) = value a) (change : Option α) :
    (assign f value change).settled = assign f value change := by
  rw [settled_assign value (g := id) h, Option.map_id, id]

namespace Patch

/-- The patch with its identifiers in normal form. -/
def settled {kind : Kind} : Patch kind → Patch kind
  | group p => .group p.canonical
  | object p => .object p.canonical
  | p => p

theorem assignments_settled {kind : Kind} (patch : Patch kind) :
    patch.settled.assignments = patch.assignments.settled := by
  have hRating : ∀ rating : Option Int64, ResourceField.rating.type.normalForm
      (.ofOption .integer rating) = .ofOption .integer rating := by
    intro rating
    cases rating <;> rfl
  have hPublished : ∀ date : Option PublishDate, ResourceField.publishDate.type.normalForm
      (.ofOption .publishDate date) = .ofOption .publishDate date := by
    intro date
    cases date <;> rfl
  have hResource : ∀ p : ResourcePatch, p.assignments = p.assignments.settled := by
    intro p
    simp only [ResourcePatch.assignments, settled_append]
    rw [settled_assign_of_fixed fun _ => rfl, settled_assign_of_fixed fun _ => rfl,
      settled_assign_of_fixed hRating, settled_assign_of_fixed hPublished,
      settled_assign_of_fixed fun _ => rfl, settled_assign_of_fixed fun _ => rfl]
  cases patch with
  | resource p => exact hResource p
  | stamped p modified =>
      simp only [settled, assignments, stamped_eq, settled_append]
      rw [← hResource, settled_assign_of_fixed fun _ => rfl]
  | person p =>
      simp only [settled, assignments, PersonPatch.assignments, settled_append]
      rw [settled_assign_of_fixed fun _ => rfl, settled_assign_of_fixed fun _ => rfl]
  | groupType p =>
      simp only [settled, assignments, GroupTypePatch.assignments, settled_append]
      rw [settled_assign_of_fixed fun _ => rfl, settled_assign_of_fixed fun _ => rfl,
        settled_assign_of_fixed fun _ => rfl]
  | group p =>
      simp only [settled, assignments, GroupPatch.assignments, GroupPatch.canonical, settled_append]
      rw [settled_assign_of_fixed fun _ => rfl, settled_assign_of_fixed fun _ => rfl,
        settled_assign .text (g := normalize) fun _ => rfl]
  | object p =>
      have hRole : ∀ role : ObjectRole, ObjectField.role.type.normalForm (.text role.word) =
          .text role.word := fun role => congrArg FieldValue.text role.normalize_word
      simp only [settled, assignments, ObjectPatch.assignments, ObjectPatch.canonical,
        settled_append]
      rw [settled_assign .text (g := normalize) fun _ => rfl,
        settled_assign_of_fixed hRole, settled_assign_of_fixed fun _ => rfl]

/-- The changed record has what its columns are read as. -/
theorem contents_settled {kind : Kind} (patch : Patch kind) (record : kind.Record) :
    kind.contents (patch.settled.apply record) =
      (kind.contents record).map fun p => (p.1, p.1.revised patch.assignments p.2) := by
  rw [contents_apply, assignments_settled]
  refine List.map_congr_left fun p _ => ?_
  rw [Assignments.settled, lookup_map_snd (g := fun f => f.type.normalForm), Field.revised]

end Patch

/-! ## Tables that differ in one row -/

/-- Whether tables are the same but for the row with a key. That row may be another one, but in
the same place, under the same number and the same key. -/
structure Tables.SameBut (t t' : Tables) (kind : Kind) (key : Cell) : Prop where
  others : ∀ other, other ≠ kind → t'.rows other = t.rows other
  rows : List.Forall₂ (fun row row' => row'.id = row.id ∧ row'.key kind = row.key kind ∧
    (row.key kind ≠ key → row' = row)) (t.rows kind) (t'.rows kind)
  options : t'.options = t.options
  sequence : t'.objectSequence = t.objectSequence

namespace Tables

theorem SameBut.refl (t : Tables) (kind : Kind) (key : Cell) : t.SameBut t kind key :=
  ⟨fun _ _ => rfl, List.forall₂_same.2 fun _ _ => ⟨rfl, rfl, fun _ => rfl⟩, rfl, rfl⟩

/-- Every other row stays. -/
theorem SameBut.mem {t t' : Tables} {kind : Kind} {key : Cell} (h : t.SameBut t' kind key)
    {row : Row} (hRow : row ∈ t.rows kind) (hOther : row.key kind ≠ key) : row ∈ t'.rows kind := by
  obtain ⟨i, hi, rfl⟩ := List.getElem_of_mem hRow
  have hi' : i < (t'.rows kind).length := h.rows.length_eq ▸ hi
  obtain ⟨-, -, hSame⟩ := h.rows.get hi hi'
  exact List.mem_iff_getElem.2 ⟨i, hi', hSame hOther⟩

theorem Replaced.sameBut {t t' : Tables} (hSound : t.Sound) {kind : Kind} {old new : Row}
    (h : t.Replaced kind old new t') (hOld : old ∈ t.rows kind) (hId : new.id = old.id)
    (hKey : new.key kind = old.key kind) : t.SameBut t' kind (old.key kind) := by
  refine ⟨?_, ?_, ?_, ?_⟩
  · intro other hOther
    rw [h.rows_eq, if_neg hOther]
  · rw [h.rows_eq, if_pos rfl, List.forall₂_map_right_iff, List.forall₂_same]
    intro row hRow
    split
    · rename_i hSame
      obtain rfl := hSound.id_injective kind hRow hOld hSame
      exact ⟨hId, hKey, fun hOther => absurd rfl hOther⟩
    · exact ⟨rfl, rfl, fun _ => rfl⟩
  · rw [h.result]
    cases kind <;> rfl
  · rw [h.result]
    cases kind <;> rfl

end Tables

/-- An object that is found under a number has it. -/
theorem Tables.id_of_find? {t : Tables} {id : Int64} {row : Row}
    (h : t.find? .objectRelation (.integer id) = some row) : row.id = id := by
  unfold find? at h
  have hSame := List.find?_some h
  exact Cell.integer_same_iff.1 hSame

namespace Catalogue

/-- A change after which something is read succeeds when both do. -/
theorem outcomeThen_eq_ok {α : Type} {c d : Catalogue} {read : Catalogue → Except Fault α}
    {result : Except Fault Catalogue} {a : α} (h : c.outcomeThen read result = (.ok a, d)) :
    result = .ok d ∧ read d = .ok a := by
  cases result with
  | error fault => cases h
  | ok changed =>
      obtain ⟨hRead, rfl⟩ := Prod.mk.inj h
      exact ⟨rfl, hRead⟩

theorem outcome_eq_ok {α : Type} {c d : Catalogue} {result : Except Fault (α × Catalogue)} {a : α}
    (h : c.outcome result = (.ok a, d)) : result = .ok (a, d) := by
  cases result with
  | error fault => cases h
  | ok changed =>
      obtain ⟨hAnswer, rfl⟩ := Prod.mk.inj h
      cases hAnswer
      rfl

/-! ## Records and their rows -/

/-- Every row can be read. -/
theorem Synced.readable {c : Catalogue} (h : c.Synced) (kind : Kind) {row : Row}
    (hRow : row ∈ c.tables.rows kind) :
    ∃ record, readRow kind.Record c.types row = .ok record := by
  have hFits := h.sound.fits kind row hRow
  obtain ⟨record, hHolds⟩ := hFits.exists_holds
  cases kind with
  | group => exact readable_group h hRow
  | _ => exact ⟨record, (readRow_eq_ok_iff hFits).2 ⟨hHolds, trivial⟩⟩

/-- A record is fetched when the row with the key holds it. -/
theorem Synced.fetch_eq_ok_iff {c : Catalogue} (h : c.Synced) (kind : Kind) {key : Cell}
    {shown : String} {record : kind.Record} :
    c.fetch kind.Record key shown = .ok record ↔
      ∃ row, c.tables.find? kind key = some row ∧ row.Holds record ∧
        kind.Knows c.types.find? record := by
  unfold fetch
  rw [Kind.storable_kind]
  cases hFind : c.tables.find? kind key with
  | none => simp
  | some row =>
      have hFits := h.sound.fits kind row (mem_of_find? hFind)
      simp [readRow_eq_ok_iff hFits]

/-- What an update does to the row with the key: it holds what is set, and is the only one to
change. -/
theorem updateRecord_exact {c d : Catalogue} (hSound : c.tables.Sound) {kind : Kind}
    (patch : Patch kind) {key : FieldValue} {shown : String}
    (hKeeps : KeepsKey kind patch.assignments)
    (hUpdate : c.updateRecord kind key shown patch.assignments = .ok d) {row : Row}
    (hFind : c.tables.find? kind (keyCell key) = some row) {old new : kind.Record}
    (hOld : row.Holds old)
    (hNew : kind.contents new =
      (kind.contents old).map fun p => (p.1, p.1.revised patch.assignments p.2)) :
    d = { c with tables := d.tables } ∧ c.tables.SameBut d.tables kind (row.key kind) ∧
      ∃ row' : Row, d.tables.find? kind (keyCell key) = some row' ∧ row'.Fits kind ∧
        row'.Holds new := by
  have hRow := mem_of_find? hFind
  have hFits := hSound.fits kind row hRow
  rcases updateRecord_eq_ok hKeeps hUpdate with
    ⟨hNothing, rfl⟩ | ⟨stored, found, t, hStored, hSettable, hFound, hReplaced, rfl⟩
  · refine ⟨rfl, .refl _ _ _, row, hFind, hFits, ?_⟩
    unfold Row.Holds
    rw [hNew, hNothing, List.forall_mem_map]
    exact fun p hp => hOld p hp
  · obtain rfl : row = found := Option.some.inj (hFind.symm.trans hFound)
    have hKey : (row.assign kind stored).key kind = row.key kind := key_assign hStored hKeeps
    refine ⟨rfl, hReplaced.sameBut hSound hRow (Row.assign_id _ _ _) hKey, row.assign kind stored,
      find?_replaced hSound hFind hKey hReplaced, hFits.assign hSettable, ?_⟩
    exact hOld.assign hFits hStored (fun a ha => (hKeeps a ha).1) patch.columns_nodup hNew

/-! ## Changes -/

/-- A change that a caller asks for, with the key of the record. The change of a resource also
has the time of the clock. -/
inductive Revision : Kind → Type
  | resource (now : Timestamp) (uuid : String) (patch : ResourcePatch) : Revision .resource
  | person (uuid : String) (patch : PersonPatch) : Revision .person
  | groupType (uuid : String) (patch : GroupTypePatch) : Revision .groupType
  | group (uuid : String) (patch : GroupPatch) : Revision .group
  | object (id : Int64) (patch : ObjectPatch) : Revision .objectRelation

namespace Revision

/-- The key of the record as its row has it. -/
def key {kind : Kind} : Revision kind → Cell
  | resource _ uuid _ => .text (normalize uuid)
  | person uuid _ => .text (normalize uuid)
  | groupType uuid _ => .text (normalize uuid)
  | group uuid _ => .text (normalize uuid)
  | object id _ => .integer id

/-- The key as a value of its field. -/
def given {kind : Kind} : Revision kind → FieldValue
  | resource _ uuid _ => .text (normalize uuid)
  | person uuid _ => .text (normalize uuid)
  | groupType uuid _ => .text (normalize uuid)
  | group uuid _ => .text (normalize uuid)
  | object id _ => .integer id

/-- The key as faults show it. -/
def shown {kind : Kind} : Revision kind → String
  | resource _ uuid _ => normalize uuid
  | person uuid _ => normalize uuid
  | groupType uuid _ => normalize uuid
  | group uuid _ => normalize uuid
  | object id _ => writeInt64 id

/-- The operation that makes the change. -/
def run {kind : Kind} (c : Catalogue) : Revision kind → Outcome kind.Record
  | resource now uuid patch => c.updateResource now uuid patch
  | person uuid patch => c.updatePerson uuid patch
  | groupType uuid patch => c.updateGroupType uuid patch
  | group uuid patch => c.updateGroup uuid patch
  | object id patch => c.updateObject id patch

/-- The operation that reads the record. -/
def read {kind : Kind} (c : Catalogue) : Revision kind → Except Fault kind.Record
  | resource _ uuid _ => c.getResource uuid
  | person uuid _ => c.getPerson uuid
  | groupType uuid _ => c.getGroupType uuid
  | group uuid _ => c.getGroup uuid
  | object id _ => c.getObject id

/-- What the change is to make of a record: what the patch has takes the place of what the
record had. Identifiers are taken in normal form, the type of a group is the one that has the
identifier now, and the date of the last change of a resource moves on. -/
def result {kind : Kind} (c : Catalogue) : Revision kind → kind.Record → Except Fault kind.Record
  | resource now _ p, (r : Resource) =>
      .ok { r with
        title := p.title.getD r.title
        titleSort := p.titleSort.getD r.titleSort
        rating := p.rating.getD r.rating
        lastModifyDate := .after now r.lastModifyDate
        publishDate := p.publishDate.getD r.publishDate
        publisher := p.publisher.getD r.publisher
        desc := p.desc.getD r.desc }
  | person _ p, (r : Person) =>
      .ok { r with name := p.name.getD r.name, nameSort := p.nameSort.getD r.nameSort }
  | groupType _ p, (t : GroupType) =>
      .ok { t with
        name := p.name.getD t.name
        exclusive := p.exclusive.getD t.exclusive
        ordered := p.ordered.getD t.ordered }
  | group _ p, (g : Group) =>
      let type : Except Fault GroupType :=
        match p.groupType with
        | none => .ok g.groupType
        | some type => c.getGroupType type
      type.map fun t =>
          { g with
            title := p.title.getD g.title
            titleSort := p.titleSort.getD g.titleSort
            groupType := t }
  | object _ p, (o : ObjectRelation) =>
      .ok { o with
        uuid := (p.uuid.map normalize).getD o.uuid
        role := p.role.getD o.role
        tag := p.tag.getD o.tag }

/-- The patch that is written for a change of a record. -/
def patch {kind : Kind} : Revision kind → kind.Record → Patch kind
  | resource now _ p, (r : Resource) => .stamped p (.after now r.lastModifyDate)
  | person _ p, _ => .person p
  | groupType _ p, _ => .groupType p
  | group _ p, _ => .group p
  | object _ p, _ => .object p

theorem patch_keepsKey {kind : Kind} (rev : Revision kind) (old : kind.Record) :
    KeepsKey kind (rev.patch old).assignments := by
  cases rev with
  | resource now uuid p => exact p.keepsKey _
  | person uuid p => exact p.keepsKey
  | groupType uuid p => exact p.keepsKey
  | group uuid p => exact p.keepsKey
  | object id p => exact p.keepsKey

/-- The record that a change makes has in its fields what the patch sets. -/
theorem contents_result {kind : Kind} {c : Catalogue} (hSynced : c.Synced) (rev : Revision kind)
    {old new : kind.Record} (h : rev.result c old = .ok new) :
    kind.contents new =
      (kind.contents old).map fun p => (p.1, p.1.revised (rev.patch old).assignments p.2) := by
  rw [← Patch.contents_settled]
  cases rev with
  | group uuid p =>
      obtain ⟨t, hType, rfl⟩ := exists_of_map_ok h
      have hUuid : t.uuid = (p.groupType.map normalize).getD (Group.groupType old).uuid := by
        cases hPatch : p.groupType with
        | none =>
            rw [hPatch] at hType
            cases hType
            rfl
        | some type =>
            rw [hPatch] at hType
            exact (getGroupType_eq_ok hSynced hType).2
      simp only [Kind.contents, patch, Patch.settled, Patch.apply, GroupPatch.canonical, hUuid]
  | _ =>
      cases h
      rfl

/-- Memory knows the type of the group that a change makes. -/
theorem knows_result {kind : Kind} {c : Catalogue} (hSynced : c.Synced) (rev : Revision kind)
    {old new : kind.Record} (hOld : kind.Knows c.types.find? old)
    (h : rev.result c old = .ok new) : kind.Knows c.types.find? new := by
  cases rev with
  | group uuid p =>
      obtain ⟨t, hType, rfl⟩ := exists_of_map_ok h
      cases hPatch : p.groupType with
      | none =>
          rw [hPatch] at hType
          cases hType
          exact hOld
      | some type =>
          rw [hPatch] at hType
          obtain ⟨hIn, -⟩ := getGroupType_eq_ok hSynced hType
          exact hSynced.find?_eq_some_iff.2 ⟨hIn, rfl⟩
  | _ => trivial

end Revision

/-! ## Successful changes -/

/-- Whether a change was made as asked for: what was there before is changed as the patch says,
the changed record is what is answered, what is read afterwards and what the row holds, and
nothing else is changed. -/
structure Revised {kind : Kind} (rev : Revision kind) (c d : Catalogue) (new : kind.Record) :
    Prop where
  changed : ∃ old, rev.read c = .ok old ∧ rev.result c old = .ok new
  read : rev.read d = .ok new
  held : ∃ row ∈ d.tables.rows kind, row.key kind = rev.key ∧ row.Holds new
  frame : c.tables.SameBut d.tables kind rev.key
  rest : d.savepoints = c.savepoints ∧ d.identity = c.identity ∧ d.created = c.created

namespace Revision

theorem keyCell_given {kind : Kind} (rev : Revision kind) : keyCell rev.given = rev.key := by
  cases rev <;> simp [given, key, keyCell]

/-- The row that is found under the key has the key. -/
theorem key_of_find? {kind : Kind} (rev : Revision kind) {t : Tables} (h : t.Sound) {row : Row}
    (hFind : t.find? kind rev.key = some row) : row.key kind = rev.key := by
  cases rev with
  | object id p => exact congrArg Cell.integer (Tables.id_of_find? hFind)
  | _ => exact ((h.find?_eq_some_iff _ rfl).1 hFind).2

/-- All records but group types are read from their rows. -/
theorem read_eq_fetch {kind : Kind} (hType : kind ≠ .groupType) (rev : Revision kind)
    (c : Catalogue) : rev.read c = c.fetch kind.Record rev.key rev.shown := by
  cases rev with
  | groupType => exact absurd rfl hType
  | _ => rfl

/-- A record that is there after a change was there before. -/
theorem read_before {kind : Kind} (hType : kind ≠ .groupType) {c d : Catalogue}
    (hSynced : c.Synced) (rev : Revision kind) {shown : String} {assignments : Assignments}
    (hKeeps : KeepsKey kind assignments)
    (hUpdate : c.updateRecord kind rev.given shown assignments = .ok d) {new : kind.Record}
    (hNew : rev.read d = .ok new) : ∃ old, rev.read c = .ok old := by
  rcases updateRecord_eq_ok hKeeps hUpdate with
    ⟨-, rfl⟩ | ⟨stored, row, t, -, -, hFind, -, rfl⟩
  · exact ⟨new, hNew⟩
  · obtain ⟨old, hOld⟩ := hSynced.readable kind (mem_of_find? hFind)
    refine ⟨old, ?_⟩
    rw [rev.read_eq_fetch hType, ← rev.keyCell_given]
    unfold fetch
    rw [Kind.storable_kind, hFind]
    exact hOld

/-- A group that may change has a type afterwards. -/
theorem exists_result_group {c : Catalogue} {uuid : String} {p : GroupPatch}
    (hAllowed : c.refusedGroupChange (normalize uuid) p = .ok ()) (old : Group) :
    ∃ new, (group uuid p).result c old = .ok new := by
  unfold refusedGroupChange at hAllowed
  dsimp only [result]
  cases hPatch : p.groupType with
  | none => exact ⟨_, rfl⟩
  | some type =>
      rw [hPatch] at hAllowed
      dsimp only at hAllowed ⊢
      split at hAllowed
      · cases hAllowed
      · rename_i t hFound
        rw [hFound]
        exact ⟨_, rfl⟩

/-- What a successful operation did. -/
theorem run_eq_ok {kind : Kind} (hType : kind ≠ .groupType) {c d : Catalogue}
    (hSynced : c.Synced) (rev : Revision kind) {answer : kind.Record}
    (hRun : rev.run c = (.ok answer, d)) :
    ∃ old new, rev.read c = .ok old ∧ rev.result c old = .ok new ∧
      c.updateRecord kind rev.given rev.shown (rev.patch old).assignments = .ok d ∧
      rev.read d = .ok answer := by
  cases rev with
  | groupType => exact absurd rfl hType
  | resource now uuid p =>
      obtain ⟨hUpdate, hRead⟩ := outcomeThen_eq_ok hRun
      split at hUpdate
      · cases hUpdate
      · rename_i current hCurrent
        rw [getResource_normalize] at hCurrent hRead
        exact ⟨current, _, hCurrent, rfl, hUpdate, hRead⟩
  | person uuid p =>
      obtain ⟨hUpdate, hRead⟩ := outcomeThen_eq_ok hRun
      rw [getPerson_normalize] at hRead
      obtain ⟨old, hOld⟩ := read_before hType hSynced (person uuid p) p.keepsKey hUpdate hRead
      exact ⟨old, _, hOld, rfl, hUpdate, hRead⟩
  | group uuid p =>
      obtain ⟨hResult, hRead⟩ := outcomeThen_eq_ok hRun
      rw [getGroup_normalize] at hRead
      split at hResult
      · cases hResult
      · rename_i hAllowed
        obtain ⟨old, hOld⟩ := read_before hType hSynced (group uuid p) p.keepsKey hResult hRead
        obtain ⟨new, hNew⟩ := exists_result_group hAllowed old
        exact ⟨old, new, hOld, hNew, hResult, hRead⟩
  | object id p =>
      obtain ⟨hUpdate, hRead⟩ := outcomeThen_eq_ok hRun
      obtain ⟨old, hOld⟩ := read_before hType hSynced (object id p) p.keepsKey hUpdate hRead
      exact ⟨old, _, hOld, rfl, hUpdate, hRead⟩

end Revision

/-- What was changed in its row alone is read back from the row. -/
theorem revised_of_updateRecord {kind : Kind} (hType : kind ≠ .groupType)
    (hLink : kind ≠ .groupRelation) {c d : Catalogue} (hSynced : c.Synced) (rev : Revision kind)
    {shown : String} {old new answer : kind.Record}
    (hUpdate : c.updateRecord kind rev.given shown (rev.patch old).assignments = .ok d)
    (hOld : rev.read c = .ok old) (hNew : rev.result c old = .ok new)
    (hAnswer : rev.read d = .ok answer) : Revised rev c d answer := by
  have hKeeps := rev.patch_keepsKey old
  have hSynced' := (effect_updateRecord hSynced.sound hType hLink hKeeps hUpdate).synced hSynced
  have hFetched := hOld
  rw [rev.read_eq_fetch hType] at hFetched
  obtain ⟨row, hFind, hHolds, hKnows⟩ := (hSynced.fetch_eq_ok_iff kind).1 hFetched
  rw [← rev.keyCell_given] at hFind
  obtain ⟨hSame, hFrame, row', hFind', hFits', hHolds'⟩ :=
    updateRecord_exact hSynced.sound (rev.patch old) hKeeps hUpdate hFind hHolds
      (rev.contents_result hSynced hNew)
  rw [rev.keyCell_given] at hFind hFind'
  have hNow : rev.read d = .ok new := by
    rw [rev.read_eq_fetch hType]
    refine (hSynced'.fetch_eq_ok_iff kind).2 ⟨row', hFind', hHolds', ?_⟩
    rw [hSame]
    exact rev.knows_result hSynced hKnows hNew
  obtain rfl : answer = new := Except.ok.inj (hAnswer.symm.trans hNow)
  rw [rev.key_of_find? hSynced.sound hFind] at hFrame
  refine ⟨⟨old, hOld, hNew⟩, hNow, ⟨row', mem_of_find? hFind', ?_, hHolds'⟩, hFrame, ?_⟩
  · exact rev.key_of_find? hSynced'.sound hFind'
  · rw [hSame]
    exact ⟨rfl, rfl, rfl⟩

/-- The type that a fitting row holds is the one that is loaded from it. -/
private theorem toGroupType_of_holds {row : Row} (hFits : row.Fits .groupType) {g : GroupType}
    (h : @Row.Holds .groupType row g) : row.toGroupType = g := by
  have hRead : readRow GroupType {} row = .ok g := (readRow_eq_ok_iff hFits).2 ⟨h, trivial⟩
  exact Except.ok.inj ((readRow_groupType hFits {}).symm.trans hRead)

/-- A group type is changed in its row and in memory alike. -/
theorem revised_updateGroupType {c d : Catalogue} (hSynced : c.Synced) {uuid : String}
    {p : GroupTypePatch} {answer : GroupType}
    (hRun : c.updateGroupType uuid p = (.ok answer, d)) :
    Revised (.groupType uuid p) c d answer := by
  have hSynced' : d.Synced := by
    have hKept := (effect_updateGroupType hSynced uuid p).synced hSynced
    rw [hRun] at hKept
    exact hKept
  have hResult := outcome_eq_ok hRun
  split at hResult
  · cases hResult
  · rename_i t hGet
    rw [getGroupType_normalize] at hGet
    obtain ⟨hIn, hUuid⟩ := getGroupType_eq_ok hSynced hGet
    split at hResult
    · cases hResult
    · obtain ⟨changed, hUpdate, hMade⟩ := exists_of_map_ok hResult
      obtain ⟨row, hRow, rfl⟩ := Tables.mem_types.1 hIn
      have hFits := hSynced.sound.type_row hRow
      have hHolds := ((readRow_eq_ok_iff hFits).1 (readRow_groupType hFits {})).1
      have hCell : row.cell .groupType "uuid" = .text (normalize uuid) := by
        rw [hFits.cell_groupType.1, hUuid]
      have hFind := (hSynced.sound.find?_eq_some_iff .groupType rfl).2 ⟨hRow, hCell⟩
      obtain ⟨hSame, hFrame, row', hFind', hFits', hHolds'⟩ :=
        updateRecord_exact hSynced.sound (.groupType p) p.keepsKey hUpdate
          (by rw [keyCell, normalize_normalize]; exact hFind) hHolds
          (Revision.contents_result hSynced (.groupType uuid p) rfl)
      rw [keyCell, normalize_normalize] at hFind'
      obtain ⟨rfl, rfl⟩ := Prod.mk.inj hMade
      have hMem := mem_of_find? hFind'
      have hNew := toGroupType_of_holds hFits' hHolds'
      have hKey : row.key .groupType = .text (normalize uuid) := hCell
      rw [hKey] at hFrame
      refine ⟨⟨row.toGroupType, hGet, rfl⟩, ?_, ⟨row', hMem, ?_, hHolds'⟩, hFrame, ?_⟩
      · refine (getGroupType_eq_ok_iff hSynced').2 ⟨hUuid, row', hMem, ?_⟩
        rw [hFits'.groupType.1, hNew]
        rfl
      · exact ((hSynced'.sound.find?_eq_some_iff .groupType rfl).1 hFind').2
      · dsimp only
        rw [hSame]
        exact ⟨rfl, rfl, rfl⟩

/-- What a successful operation on tables in order did. -/
theorem Synced.revised {c d : Catalogue} (hSynced : c.Synced) {kind : Kind} (rev : Revision kind)
    {answer : kind.Record} (hRun : rev.run c = (.ok answer, d)) : Revised rev c d answer := by
  by_cases hType : kind = .groupType
  · subst hType
    cases rev with
    | groupType uuid p => exact revised_updateGroupType hSynced hRun
  · obtain ⟨old, new, hOld, hNew, hUpdate, hRead⟩ := rev.run_eq_ok hType hSynced hRun
    have hLink : kind ≠ .groupRelation := by
      rintro rfl
      cases rev
    exact revised_of_updateRecord hType hLink hSynced rev hUpdate hOld hNew hRead

/-- **A change changes exactly what the patch says.** Whenever a resource, a person, a group type,
a group or an object is changed with success, the record was there before, and what its patch
has takes the place of what it had: a rating or a publication date that is cleared is gone,
identifiers are in normal form, a group has the type that is known under the identifier, and
the date of the last change of a resource has moved on. That is what the change answers, what
the next reading answers and what the row holds. Every other row of every table is left as it
is, and so are the options, the numbering of objects and the open savepoints. -/
theorem Reachable.updates_exact {c d : Catalogue} (h : Reachable c) {kind : Kind}
    (rev : Revision kind) {answer : kind.Record} (hRun : rev.run c = (.ok answer, d)) :
    Revised rev c d answer :=
  h.inv.synced.revised rev hRun

/-- A catalogue with a resource and a group type of its own. -/
def sampleStocked : Catalogue :=
  (Step.runAll sampleNew
    [.addResource sampleUuid sampleResource,
      .addGroupType sampleUuid ⟨"t", "Shelf", false, false⟩]).2

/-- A change that rates a resource and gives it another title. -/
def sampleRating : Revision .resource :=
  .resource ⟨0⟩ " F" { title := some "Carrie", rating := some (some 400) }

/-- A change that renames a group type. -/
def sampleRenaming : Revision .groupType := .groupType "T" { name := some "Box" }

/-- The clock stands still while the resource is changed. -/
theorem updates_exact_sample :
    Revised sampleRating sampleStocked (sampleRating.run sampleStocked).2
        { sampleResource with title := "Carrie", rating := some 400, lastModifyDate := ⟨1⟩ } ∧
      Revised sampleRenaming sampleStocked (sampleRenaming.run sampleStocked).2
        ⟨"t", "Box", false, false⟩ := by
  have hReachable : Reachable sampleStocked :=
    reachable_sampleNew.run (Run.publicSteps .refl (by decide) (by decide +kernel))
  have hRated : (sampleRating.run sampleStocked).1 =
      .ok { sampleResource with title := "Carrie", rating := some 400, lastModifyDate := ⟨1⟩ } := by
    decide +kernel
  have hRenamed : (sampleRenaming.run sampleStocked).1 =
      .ok (⟨"t", "Box", false, false⟩ : GroupType) := by decide +kernel
  refine ⟨Reachable.updates_exact hReachable sampleRating ?_,
    Reachable.updates_exact hReachable sampleRenaming ?_⟩
  · rw [← hRated]
  · rw [← hRenamed]

end Catalogue

end Shelfmark
