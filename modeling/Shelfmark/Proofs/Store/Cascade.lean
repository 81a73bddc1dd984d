import Shelfmark.Proofs.Store.Sound

/-!
# What goes with a removed row

Only relations are removed with the row that they refer to. So a row that goes takes along
exactly the relations that have it at one of their ends, and every other row of every table
stays: `Removed.rows_of_sound`. What is not a relation but refers to the row, as a group
refers to its type, is not removed. It keeps the row from going: `exists_removed_iff`.

The references of all rows are collected in `Tables.Referring`, table by table.
-/

namespace Shelfmark

/-! ## Rows that refer to a record -/

/-- Whether a row of one kind refers to the record of another kind with an identifier. -/
def Row.RefersTo (row : Row) (child kind : Kind) (uuid : String) : Prop :=
  ∃ r ∈ child.references, r.target = kind ∧ row.cell child r.column = .text uuid

instance (row : Row) (child kind : Kind) (uuid : String) :
    Decidable (row.RefersTo child kind uuid) :=
  inferInstanceAs (Decidable (∃ r ∈ child.references, _))

/-- Whether a row is the record of a kind with an identifier. -/
def Row.Is (row : Row) (own kind : Kind) (uuid : String) : Prop :=
  own = kind ∧ row.cell kind "uuid" = .text uuid

instance (row : Row) (own kind : Kind) (uuid : String) : Decidable (row.Is own kind uuid) :=
  inferInstanceAs (Decidable (_ ∧ _))

namespace Tables

/-- The ends of every relation are there, and so is the type of every group. -/
structure Referring (t : Tables) : Prop where
  personLinks : ∀ link ∈ t.personLinks,
    (∃ r ∈ t.resources, r.cell .resource "uuid" = link.cell .personRelation "resource_uuid") ∧
      ∃ p ∈ t.persons, p.cell .person "uuid" = link.cell .personRelation "person_uuid"
  groupLinks : ∀ link ∈ t.groupLinks,
    (∃ r ∈ t.resources, r.cell .resource "uuid" = link.cell .groupRelation "resource_uuid") ∧
      ∃ g ∈ t.groups, g.cell .group "uuid" = link.cell .groupRelation "group_uuid"
  objects : ∀ o ∈ t.objects,
    ∃ r ∈ t.resources, r.cell .resource "uuid" = o.cell .objectRelation "resource_uuid"
  groups : ∀ g ∈ t.groups,
    ∃ type ∈ t.groupTypes, type.cell .groupType "uuid" = g.cell .group "type_uuid"

theorem Sound.referring {t : Tables} (h : t.Sound) : t.Referring where
  personLinks link hLink :=
    ⟨h.refs .personRelation link hLink ⟨"resource_uuid", .resource⟩ (by decide),
      h.refs .personRelation link hLink ⟨"person_uuid", .person⟩ (by decide)⟩
  groupLinks link hLink :=
    ⟨h.refs .groupRelation link hLink ⟨"resource_uuid", .resource⟩ (by decide),
      h.refs .groupRelation link hLink ⟨"group_uuid", .group⟩ (by decide)⟩
  objects o hObject := h.refs .objectRelation o hObject ⟨"resource_uuid", .resource⟩ (by decide)
  groups g hGroup := h.refs .group g hGroup ⟨"type_uuid", .groupType⟩ (by decide)

theorem dependsOn_iff {child kind : Kind} {uuid : String} {row : Row} :
    dependsOn child kind (.text uuid) row = true ↔ row.RefersTo child kind uuid := by
  simp [dependsOn, Row.RefersTo, Cell.same_text_iff]

/-- What refers to a row, as the test of the store has it. -/
theorem isReferenced_text_iff {t : Tables} {kind : Kind} {uuid : String} :
    t.isReferenced kind (.text uuid) = true ↔
      ∃ child, ∃ row ∈ t.rows child, row.RefersTo child kind uuid := by
  rw [isReferenced_iff]
  simp only [hasRow_text_iff]
  constructor
  · rintro ⟨child, r, hr, hTarget, row, hRow, hCell⟩
    exact ⟨child, row, hRow, r, hr, hTarget, hCell⟩
  · rintro ⟨child, row, hRow, r, hr, hTarget, hCell⟩
    exact ⟨child, r, hr, hTarget, row, hRow, hCell⟩

/-! ## What a removal leaves -/

/-- Rows with an identifier of their own depend on no other row. -/
theorem independent_of_key {kind : Kind} (h : kind.keyColumn = "uuid") :
    kind.isDependent = false := by
  revert h
  cases kind <;> decide

/-- **A removal takes the row and the rows that depend on it, and leaves all others.** -/
theorem Removed.rows_of_sound {t t' : Tables} {kind : Kind} {row : Row} {uuid : String}
    (h : t.Sound) (hKey : kind.keyColumn = "uuid") (hRow : row ∈ t.rows kind)
    (hUuid : row.cell kind "uuid" = .text uuid) (hRemoved : t.Removed kind row t')
    (other : Kind) :
    t'.rows other = (t.rows other).filter fun r =>
      !decide (r.Is other kind uuid) && !decide (r.RefersTo other kind uuid) := by
  by_cases hDependent : other.isDependent = true
  · have hOther : other ≠ kind := by
      rintro rfl
      rw [independent_of_key hKey] at hDependent
      cases hDependent
    rw [hRemoved.result, rows_withoutDependents, if_pos hDependent, rows_without, if_neg hOther,
      hUuid]
    refine List.filter_congr fun r _ => ?_
    have hRefers : dependsOn other kind (.text uuid) r = decide (r.RefersTo other kind uuid) :=
      Bool.eq_iff_iff.2 (by rw [dependsOn_iff, decide_eq_true_eq])
    have hIs : ¬ r.Is other kind uuid := fun hIs => hOther hIs.1
    simp [hRefers, hIs]
  · -- What stays behind and is no relation does not refer to the row that went.
    have hIndependent : other.isDependent = false := by simpa using hDependent
    have hRows := hRemoved.rows_eq other hIndependent
    have hUnreferred : ∀ r ∈ t'.rows other, ¬ r.RefersTo other kind uuid := by
      intro r hr hRefers
      have hReferenced := isReferenced_text_iff.2 ⟨other, r, hr, hRefers⟩
      rw [← hUuid, hRemoved.unreferred] at hReferenced
      cases hReferenced
    by_cases hOther : other = kind
    · subst hOther
      rw [hRows, if_pos rfl]
      refine List.filter_congr fun r hr => ?_
      have hRefers : ¬ r.RefersTo other other uuid := by
        rintro ⟨reference, hReference, hTarget, _⟩
        exact (target_of_reference hReference).2.1 hTarget
      have hIs : r.id = row.id ↔ r.Is other other uuid := by
        constructor
        · intro hId
          exact ⟨rfl, h.id_injective other hr hRow hId ▸ hUuid⟩
        · rintro ⟨_, hCell⟩
          rw [h.uuid_injective other hKey hr hRow (hCell.trans hUuid.symm)]
      simp [hRefers, hIs]
    · rw [if_neg hOther] at hRows
      rw [hRows] at hUnreferred ⊢
      refine (List.filter_eq_self.2 fun r hr => ?_).symm
      have hIs : ¬ r.Is other kind uuid := fun hIs => hOther hIs.1
      simp [hUnreferred r hr, hIs]

/-- A removal leaves what is no row as it was. -/
theorem Removed.keeps {t t' : Tables} {kind : Kind} {row : Row} (h : t.Removed kind row t') :
    t'.options = t.options ∧ t'.objectSequence = t.objectSequence := by
  rw [h.result]
  cases kind <;> exact ⟨rfl, rfl⟩

/-! ## When a row can go -/

/-- Whether rows other than relations refer to the record with an identifier. -/
def InUse (t : Tables) (kind : Kind) (uuid : String) : Prop :=
  ∃ child, child.isDependent = false ∧ ∃ row ∈ t.rows child, row.RefersTo child kind uuid

/-- Only types of groups can be in use. -/
theorem inUse_iff {t : Tables} {kind : Kind} {uuid : String} :
    t.InUse kind uuid ↔ kind = .groupType ∧ ∃ g ∈ t.groups, g.cell .group "type_uuid" = .text uuid := by
  constructor
  · rintro ⟨child, hIndependent, row, hRow, r, hr, rfl, hCell⟩
    cases child with
    | group =>
        obtain rfl : r = ⟨"type_uuid", .groupType⟩ := List.mem_singleton.1 hr
        exact ⟨rfl, row, hRow, hCell⟩
    | resource | person | groupType => cases hr
    | objectRelation | personRelation | groupRelation => cases hIndependent
  · rintro ⟨rfl, g, hg, hCell⟩
    exact ⟨.group, rfl, g, hg, ⟨"type_uuid", .groupType⟩, by decide, rfl, hCell⟩

/-- **A row can go when it is there and not in use.** -/
theorem exists_removed_iff {t : Tables} (h : t.Sound) {kind : Kind} (hKey : kind.keyColumn = "uuid")
    {uuid : String} :
    (∃ t', t.remove kind (.text uuid) = .ok (t', 1)) ↔
      (∃ row ∈ t.rows kind, row.cell kind "uuid" = .text uuid) ∧ ¬ t.InUse kind uuid := by
  constructor
  · rintro ⟨t', hRemove⟩
    rcases removed_of_remove hRemove with ⟨_, _, hNone⟩ | ⟨row, hFind, _, hRemoved⟩
    · cases hNone
    · obtain ⟨hRow, hUuid⟩ := (h.find?_eq_some_iff kind hKey).1 hFind
      refine ⟨⟨row, hRow, hUuid⟩, ?_⟩
      rintro ⟨child, hIndependent, r, hr, hRefers⟩
      have hKept : r ∈ t'.rows child := by
        rw [hRemoved.rows_eq child hIndependent, if_neg]
        · exact hr
        · rintro rfl
          obtain ⟨reference, hReference, hTarget, _⟩ := hRefers
          exact (target_of_reference hReference).2.1 hTarget
      have hReferenced := isReferenced_text_iff.2 ⟨child, r, hKept, hRefers⟩
      rw [← hUuid, hRemoved.unreferred] at hReferenced
      cases hReferenced
  · rintro ⟨⟨row, hRow, hUuid⟩, hFree⟩
    have hFind := (h.find?_eq_some_iff kind hKey).2 ⟨hRow, hUuid⟩
    refine ⟨(t.without kind fun r => r.id = row.id).withoutDependents kind (.text uuid), ?_⟩
    unfold remove
    simp only [hFind, hUuid]
    rw [permit_eq_ok_iff]
    refine ⟨if_neg fun hReferenced => ?_, rfl⟩
    -- Relations to the row are gone, and nothing else refers to it.
    obtain ⟨child, r, hr, hRefers⟩ := isReferenced_text_iff.1 hReferenced
    rw [rows_withoutDependents] at hr
    split at hr
    · have hGone := (List.mem_filter.1 hr).2
      rw [dependsOn_iff.2 hRefers] at hGone
      cases hGone
    · rename_i hIndependent
      refine hFree ⟨child, by simpa using hIndependent, r, ?_, hRefers⟩
      exact (without_sublist t kind _ child).subset hr

end Tables

end Shelfmark
