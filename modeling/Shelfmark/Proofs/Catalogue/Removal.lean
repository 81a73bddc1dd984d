import Shelfmark.Proofs.Catalogue.Memory
import Shelfmark.Proofs.Store.Cascade

/-!
# Removals take what they name

Removing a resource, a person or a group takes the relations along that have it at one of
their ends, and nothing else: the catalogue afterwards is written out in
`Reachable.removals_exact`. Group types have no relations of their own. A type goes alone,
and it only goes when it is not well known and no group has it.

When a removal of rows succeeds is said by `Tables.exists_removed_iff`. The check that
counts the groups of a type has its own way to find them, by a criterion, so it is shown to
count the groups whose row names the type.
-/

namespace Shelfmark

/-! ## Rows that are left -/

namespace Tables

/-- The rows of a kind other than those whose cell of a column is a text. -/
def rowsBut (t : Tables) (kind : Kind) (column s : String) : List Row :=
  (t.rows kind).filter fun row => row.cell kind column ≠ .text s

/-- Whether exactly one row of a kind is the record with an identifier. -/
def HasOne (t : Tables) (kind : Kind) (uuid : String) : Prop :=
  ∃! row, row ∈ t.rows kind ∧ row.cell kind "uuid" = .text uuid

/-- The tables without a record and without the relations that have it at an end. -/
def withoutRecord (t : Tables) (kind : Kind) (uuid : String) : Tables :=
  let left (other : Kind) : List Row :=
    (t.rows other).filter fun r =>
      !decide (r.Is other kind uuid) && !decide (r.RefersTo other kind uuid)
  { t with
    resources := left .resource
    persons := left .person
    groups := left .group
    groupTypes := left .groupType
    objects := left .objectRelation
    personLinks := left .personRelation
    groupLinks := left .groupRelation }

/-- Tables are known by their rows, their object sequence and their options. -/
theorem eq_of_rows {t t' : Tables} (hRows : ∀ kind, t.rows kind = t'.rows kind)
    (hSequence : t.objectSequence = t'.objectSequence) (hOptions : t.options = t'.options) :
    t = t' := by
  have hResources := hRows .resource
  have hPersons := hRows .person
  have hGroups := hRows .group
  have hGroupTypes := hRows .groupType
  have hObjects := hRows .objectRelation
  have hPersonLinks := hRows .personRelation
  have hGroupLinks := hRows .groupRelation
  cases t
  cases t'
  simp_all [rows]

theorem Removed.eq_withoutRecord {t t' : Tables} {kind : Kind} {row : Row} {uuid : String}
    (h : t.Sound) (hKey : kind.keyColumn = "uuid") (hRow : row ∈ t.rows kind)
    (hUuid : row.cell kind "uuid" = .text uuid) (hRemoved : t.Removed kind row t') :
    t' = t.withoutRecord kind uuid := by
  refine eq_of_rows (fun other => ?_) hRemoved.keeps.2 hRemoved.keeps.1
  rw [hRemoved.rows_of_sound h hKey hRow hUuid]
  cases other <;> rfl

theorem Sound.hasOne_iff {t : Tables} (h : t.Sound) {kind : Kind} (hKey : kind.keyColumn = "uuid")
    {uuid : String} :
    t.HasOne kind uuid ↔ ∃ row ∈ t.rows kind, row.cell kind "uuid" = .text uuid := by
  constructor
  · rintro ⟨row, hRow, _⟩
    exact ⟨row, hRow⟩
  · rintro ⟨row, hRow, hUuid⟩
    refine ⟨row, ⟨hRow, hUuid⟩, fun other hOther => ?_⟩
    exact h.uuid_injective kind hKey hOther.1 hRow (hOther.2.trans hUuid.symm)

section Ends

variable (t : Tables) (uuid : String)

theorem withoutRecord_resource :
    t.withoutRecord .resource uuid =
      { t with
        resources := t.rowsBut .resource "uuid" uuid
        objects := t.rowsBut .objectRelation "resource_uuid" uuid
        personLinks := t.rowsBut .personRelation "resource_uuid" uuid
        groupLinks := t.rowsBut .groupRelation "resource_uuid" uuid } := by
  simp [withoutRecord, rowsBut, Row.Is, Row.RefersTo, Kind.references, rows]

theorem withoutRecord_person :
    t.withoutRecord .person uuid =
      { t with
        persons := t.rowsBut .person "uuid" uuid
        personLinks := t.rowsBut .personRelation "person_uuid" uuid } := by
  simp [withoutRecord, rowsBut, Row.Is, Row.RefersTo, Kind.references, rows]

theorem withoutRecord_group :
    t.withoutRecord .group uuid =
      { t with
        groups := t.rowsBut .group "uuid" uuid
        groupLinks := t.rowsBut .groupRelation "group_uuid" uuid } := by
  simp [withoutRecord, rowsBut, Row.Is, Row.RefersTo, Kind.references, rows]

/-- Without a type the groups of the type would go as well, if there were any. -/
theorem withoutRecord_groupType (h : ∀ g ∈ t.groups, g.cell .group "type_uuid" ≠ .text uuid) :
    t.withoutRecord .groupType uuid =
      { t with groupTypes := t.rowsBut .groupType "uuid" uuid } := by
  have hGroups : t.groups.filter (fun g => !decide (g.cell .group "type_uuid" = .text uuid)) =
      t.groups := List.filter_eq_self.2 fun g hg => by simp [h g hg]
  simp [withoutRecord, rowsBut, Row.Is, Row.RefersTo, Kind.references, rows, hGroups]

end Ends

end Tables

namespace Catalogue

/-! ## Removing a record -/

/-- A record is removed when it is there and not in use, and just it goes with its
relations. -/
theorem removeRecord_eq_ok_iff {c d : Catalogue} (h : c.Synced) {kind : Kind}
    (hKey : kind.keyColumn = "uuid") (uuid shown : String) :
    c.removeRecord kind (.text uuid) shown = .ok d ↔
      c.tables.HasOne kind uuid ∧ ¬ c.tables.InUse kind uuid ∧
        d = { c with tables := c.tables.withoutRecord kind uuid } := by
  rw [h.sound.hasOne_iff hKey]
  have hResult : ∀ d, c.removeRecord kind (.text uuid) shown = .ok d →
      d = { c with tables := c.tables.withoutRecord kind uuid } := by
    intro d hRemove
    obtain ⟨row, t, hFind, hRemoved, rfl⟩ := removeRecord_eq_ok hRemove
    obtain ⟨hRow, hUuid⟩ := (h.sound.find?_eq_some_iff kind hKey).1 hFind
    rw [hRemoved.eq_withoutRecord h.sound hKey hRow hUuid]
  constructor
  · intro hRemove
    obtain ⟨hThere, hFree⟩ := (Tables.exists_removed_iff h.sound hKey).1 (by
      unfold removeRecord at hRemove
      split at hRemove
      · cases hRemove
      · cases hRemove
      · rename_i t n hNone hRows
        rcases Tables.removed_of_remove hRows with ⟨_, _, rfl⟩ | ⟨_, _, rfl, _⟩
        · exact absurd rfl hNone
        · exact ⟨t, hRows⟩)
    exact ⟨hThere, hFree, hResult d hRemove⟩
  · rintro ⟨hThere, hFree, rfl⟩
    obtain ⟨t, hRows⟩ := (Tables.exists_removed_iff h.sound hKey).2 ⟨hThere, hFree⟩
    have hRemove : c.removeRecord kind (.text uuid) shown = .ok { c with tables := t } := by
      simp only [removeRecord, hRows]
    rw [hRemove, hResult _ hRemove]

/-- The removals of records that nothing but relations refers to. -/
private theorem remove_eq_ok_iff {c d : Catalogue} (h : c.Synced) {kind : Kind}
    (hKey : kind.keyColumn = "uuid") (hType : kind ≠ .groupType) {uuid shown : String} :
    c.outcome ((c.removeRecord kind (.text uuid) shown).map fun r => ((), r)) = (.ok (), d) ↔
      c.tables.HasOne kind uuid ∧
        d = { c with tables := c.tables.withoutRecord kind uuid } := by
  have hFree : ¬ c.tables.InUse kind uuid := fun hUse => hType (Tables.inUse_iff.1 hUse).1
  have hRemove := removeRecord_eq_ok_iff (d := d) h hKey uuid shown
  simp only [hFree, not_false_eq_true, true_and] at hRemove
  rw [← hRemove]
  cases c.removeRecord kind (.text uuid) shown with
  | error fault => simp [outcome, Except.map]
  | ok r => simp [outcome, Except.map]

/-! ## Removing a group type -/

/-- The criterion of the check compares the column of the group's type. -/
private theorem compile_groupType {s : String} (hNormal : normalize s = s) (hSome : s ≠ "") :
    (Criterion.equal "groupType" (.text s)).compile (.records .group) 0 =
      .ok (.test ⟨.self, "type_uuid", .binary⟩ [.text s] false, 0) := by
  have hCell : GroupField.groupType.toCell (.text s) = .ok (.text s) :=
    (Field.toCell_foreign_eq_ok_iff rfl).2 ⟨by rwa [hNormal], by rw [hNormal]⟩
  have hResolve : (Scope.records .group).resolve Route.filterProperty 0 "groupType" =
      .ok (⟨none, ⟨.self, "type_uuid", .binary⟩, .group, GroupField.groupType⟩, 0) := rfl
  rw [Criterion.compile, Scope.propertyCondition, hResolve]
  simp only [comparedCells, hCell, Fault.ofField]
  rfl

/-- The check counts the groups whose row names the type. -/
theorem count_groupsOfType (c : Catalogue) {s : String} (hNormal : normalize s = s)
    (hSome : s ≠ "") :
    c.count .group (some (.equal "groupType" (.text s))) =
      .ok (c.tables.groups.countP fun g => (g.cell .group "type_uuid").same (.text s)) := by
  have hGiven : (Scope.records .group).condition? (some (.equal "groupType" (.text s))) =
      .ok (some (.test ⟨.self, "type_uuid", .binary⟩ [.text s] false), 0) := by
    rw [Scope.condition?, compile_groupType hNormal hSome]
    rfl
  have hTest : ∀ g : Row,
      satisfies c.tables (some (.test ⟨.self, "type_uuid", .binary⟩ [.text s] false))
        (Kind.view .group g) = (g.cell .group "type_uuid").same (.text s) := by
    intro g
    simp [satisfies, Condition.eval, Cell.among, Env.cell, Env.ofHit, Kind.view, SourceRow.cell,
      Cell.same]
  rw [count, Tables.filterBy, hGiven, List.countP_eq_length_filter]
  simp only [Except.map, hTest]
  rfl

/-- A type that no group has is not in use. -/
private theorem not_inUse_iff {t : Tables} {uuid : String} :
    ¬ t.InUse .groupType uuid ↔ ∀ g ∈ t.groups, g.cell .group "type_uuid" ≠ .text uuid := by
  simp [Tables.inUse_iff]

/-- When a type is removed, and what is left then. -/
theorem removeGroupType_eq_ok_iff {c d : Catalogue} (h : c.Synced) {uuid : String} :
    c.removeGroupType uuid = (.ok (), d) ↔
      c.tables.HasOne .groupType (normalize uuid) ∧ isWellKnownType (normalize uuid) = false ∧
        (∀ g ∈ c.tables.groups, g.cell .group "type_uuid" ≠ .text (normalize uuid)) ∧
        d = { c with
          tables := c.tables.withoutRecord .groupType (normalize uuid)
          types := c.types.forget (normalize uuid) } := by
  have hThere : (∃ g, c.getGroupType (normalize uuid) = .ok g) ↔
      c.tables.HasOne .groupType (normalize uuid) := by
    have hRow : (∃ g, c.getGroupType (normalize uuid) = .ok g) ↔
        ∃ row ∈ c.tables.rows .groupType,
          row.cell .groupType "uuid" = .text (normalize (normalize uuid)) :=
      getGroupType_isOk_iff h
    rw [normalize_normalize] at hRow
    exact hRow.trans (h.sound.hasOne_iff rfl).symm
  rw [← hThere]
  unfold removeGroupType
  dsimp only
  cases hGet : c.getGroupType (normalize uuid) with
  | error fault => simp [outcome]
  | ok g =>
      obtain ⟨row, hRow, hUuid⟩ := (h.sound.hasOne_iff rfl).1 (hThere.1 ⟨g, hGet⟩)
      obtain ⟨s, hs, hNormal, hSome⟩ := (h.sound.fits .groupType row hRow).key_text rfl
      obtain rfl : s = normalize uuid := Cell.text.inj (hs.symm.trans hUuid)
      rw [count_groupsOfType c hNormal hSome]
      cases hKnown : isWellKnownType (normalize uuid) with
      | true => simp [outcome]
      | false =>
          have hNoGroup : (c.tables.groups.countP fun g =>
              (g.cell .group "type_uuid").same (.text (normalize uuid))) = 0 ↔
                ∀ g ∈ c.tables.groups, g.cell .group "type_uuid" ≠ .text (normalize uuid) := by
            rw [List.countP_eq_zero]
            simp [Cell.same_text_iff]
          rw [← hNoGroup]
          cases hCount : c.tables.groups.countP fun g =>
              (g.cell .group "type_uuid").same (.text (normalize uuid)) with
          | succ n => simp [outcome]
          | zero =>
              have hFree := not_inUse_iff.2 (hNoGroup.1 hCount)
              have hRemoved := (removeRecord_eq_ok_iff h
                (show Kind.groupType.keyColumn = "uuid" from rfl) (normalize uuid) (normalize uuid)).2 ⟨hThere.1 ⟨g, hGet⟩, hFree, rfl⟩
              simp [outcome, hRemoved, Except.map, eq_comm]

/-! ## The catalogue after a removal -/

/-- **Removals take what they name, with its relations, and nothing else.** In every
reachable catalogue all references lead to a row. A resource, a person or a group is
removed just when it is there, and a group type just when it is there, is not well known
and no group has it. The catalogue afterwards differs in the rows that are written out
here and in nothing else. -/
theorem Reachable.removals_exact {c : Catalogue} (h : Reachable c) :
    c.tables.Referring ∧ ∀ (uuid : String) (d : Catalogue),
      (c.removeResource uuid = (.ok (), d) ↔
        c.tables.HasOne .resource (normalize uuid) ∧
          d = { c with
            tables := { c.tables with
              resources := c.tables.rowsBut .resource "uuid" (normalize uuid)
              objects := c.tables.rowsBut .objectRelation "resource_uuid" (normalize uuid)
              personLinks := c.tables.rowsBut .personRelation "resource_uuid" (normalize uuid)
              groupLinks := c.tables.rowsBut .groupRelation "resource_uuid" (normalize uuid) } }) ∧
      (c.removePerson uuid = (.ok (), d) ↔
        c.tables.HasOne .person (normalize uuid) ∧
          d = { c with
            tables := { c.tables with
              persons := c.tables.rowsBut .person "uuid" (normalize uuid)
              personLinks := c.tables.rowsBut .personRelation "person_uuid" (normalize uuid) } }) ∧
      (c.removeGroup uuid = (.ok (), d) ↔
        c.tables.HasOne .group (normalize uuid) ∧
          d = { c with
            tables := { c.tables with
              groups := c.tables.rowsBut .group "uuid" (normalize uuid)
              groupLinks := c.tables.rowsBut .groupRelation "group_uuid" (normalize uuid) } }) ∧
      (c.removeGroupType uuid = (.ok (), d) ↔
        c.tables.HasOne .groupType (normalize uuid) ∧
          normalize uuid ∉ wellKnownTypes.map GroupType.uuid ∧
          (∀ g ∈ c.tables.groups, g.cell .group "type_uuid" ≠ .text (normalize uuid)) ∧
          d = { c with
            tables := { c.tables with
              groupTypes := c.tables.rowsBut .groupType "uuid" (normalize uuid) }
            types := c.types.forget (normalize uuid) }) := by
  have hSynced := h.inv.synced
  refine ⟨hSynced.sound.referring, fun uuid d => ⟨?_, ?_, ?_, ?_⟩⟩
  · rw [← Tables.withoutRecord_resource]
    exact remove_eq_ok_iff hSynced rfl (by decide)
  · rw [← Tables.withoutRecord_person]
    exact remove_eq_ok_iff hSynced rfl (by decide)
  · rw [← Tables.withoutRecord_group]
    exact remove_eq_ok_iff hSynced rfl (by decide)
  · have hKnown : isWellKnownType (normalize uuid) = false ↔
        normalize uuid ∉ wellKnownTypes.map GroupType.uuid := by
      simp [isWellKnownType]
    rw [removeGroupType_eq_ok_iff hSynced, hKnown]
    refine and_congr_right fun _ => and_congr_right fun _ => and_congr_right fun hNone => ?_
    rw [Tables.withoutRecord_groupType c.tables _ hNone]

/-- The resource of the sample takes its relation along and leaves the group. The type of
the group stays. -/
theorem removals_exact_sample :
    Reachable sample ∧ sample.tables.groupLinks.length = 1 ∧
      (∃ d, sample.removeResource "f" = (.ok (), d) ∧ d.tables.resources = [] ∧
        d.tables.groupLinks = [] ∧ d.tables.groups = sample.tables.groups) ∧
      ∀ d, sample.removeGroupType seriesTypeUuid ≠ (.ok (), d) := by
  have hRemovals := (Reachable.removals_exact reachable_sample).2
  refine ⟨reachable_sample, by rw [sample_tables]; rfl, ?_, fun d hRemove => ?_⟩
  · have hThere : sample.tables.HasOne .resource (normalize "f") := by
      rw [reachable_sample.inv.synced.sound.hasOne_iff rfl, sample_tables]
      decide +kernel
    refine ⟨_, (hRemovals "f" _).1.2 ⟨hThere, rfl⟩, ?_, ?_, ?_⟩ <;> dsimp only
    · rw [sample_tables]
      decide +kernel
    · rw [sample_tables]
      decide +kernel
  · have hKnown := ((hRemovals seriesTypeUuid d).2.2.2.1 hRemove).2.1
    exact hKnown (by decide +kernel)

end Catalogue

end Shelfmark
