import Mathlib.Data.List.Find
import Shelfmark.Proofs.Catalogue.Invariant

/-!
# A failure changes nothing

Most operations build the new catalogue when nothing is left that can fail. Two kinds
do something after they wrote. An update reads the record that it changed, which is
still under its key and can still be read. A rollback loads the group types of the
restored tables, which are in order because they were in order when the savepoint was
opened. So in a reachable catalogue every operation that fails leaves the catalogue as
it was.
-/

namespace Shelfmark

namespace Catalogue

/-- Whether a failure leaves the catalogue as it was. -/
def Unharmed {α : Type} (c : Catalogue) (o : Outcome α) : Prop :=
  ∀ fault, o.1 = .error fault → o.2 = c

theorem unharmed_outcome {α : Type} (c : Catalogue) (result : Except Fault (α × Catalogue)) :
    c.Unharmed (c.outcome result) := by
  intro fault h
  cases result with
  | error _ => rfl
  | ok p => cases h

/-- A change after which something is read does no harm if the reading cannot fail. -/
theorem unharmed_outcomeThen {α : Type} {c : Catalogue} {read : Catalogue → Except Fault α}
    {result : Except Fault Catalogue}
    (h : ∀ d, result = .ok d → d = c ∨ ∃ a, read d = .ok a) :
    c.Unharmed (c.outcomeThen read result) := by
  intro fault hFails
  cases result with
  | error _ => rfl
  | ok d =>
      rcases h d rfl with hSame | ⟨a, hRead⟩
      · exact hSame
      · have hRead' : read d = .error fault := hFails
        rw [hRead] at hRead'
        cases hRead'

theorem unharmed_reply {α : Type} {c : Catalogue} {o : Outcome α} {f : α → Reply}
    (h : c.Unharmed o) : c.Unharmed (reply o f) := by
  obtain ⟨answer, d⟩ := o
  intro fault hFails
  cases answer with
  | error cause => exact h cause rfl
  | ok a => cases hFails

/-! ## Reading after an update -/

/-- A row that is replaced under its key is found under its key. -/
theorem find?_replaced {t t' : Tables} (hSound : t.Sound) {kind : Kind} {key : Cell}
    {old new : Row} (hFind : t.find? kind key = some old) (hKey : new.key kind = old.key kind)
    (hReplaced : t.Replaced kind old new t') : t'.find? kind key = some new := by
  have hOld := mem_of_find? hFind
  unfold Tables.find? at hFind ⊢
  rw [hReplaced.rows_eq, if_pos rfl, List.find?_map]
  have hSame : ∀ r ∈ t.rows kind,
      (((if r.id = old.id then new else r).key kind).same (Tables.convertKey kind key)) =
        ((r.key kind).same (Tables.convertKey kind key)) := by
    intro r hr
    split
    · rename_i hId
      rw [hKey, hSound.id_injective kind hr hOld hId]
    · rfl
  have hFound := (List.find?_congr hSame).trans hFind
  dsimp only [Function.comp_def]
  rw [hFound]
  simp

/-- What was updated can be read, if rows of its kind can. -/
theorem fetch_updated (α : Type) [Storable α] {c d : Catalogue} (hSynced : c.Synced)
    (hType : Storable.kind α ≠ .groupType) (hLink : Storable.kind α ≠ .groupRelation)
    {key : FieldValue} {shown : String} {assignments : Assignments}
    (hKeeps : KeepsKey (Storable.kind α) assignments)
    (hUpdate : c.updateRecord (Storable.kind α) key shown assignments = .ok d)
    (hRead : ∀ d : Catalogue, d.Synced → ∀ row ∈ d.tables.rows (Storable.kind α),
      ∃ record, readRow α d.types row = .ok record) :
    d = c ∨ ∀ shown, ∃ record, d.fetch α (keyCell key) shown = .ok record := by
  have hSynced' := (effect_updateRecord hSynced.sound hType hLink hKeeps hUpdate).synced hSynced
  rcases updateRecord_eq_ok hKeeps hUpdate with
    ⟨_, rfl⟩ | ⟨stored, old, t, hStored, _, hFind, hReplaced, rfl⟩
  · exact Or.inl rfl
  · have hFind' := find?_replaced hSynced.sound hFind (key_assign hStored hKeeps) hReplaced
    refine Or.inr fun shown => ?_
    unfold fetch
    rw [hFind']
    exact hRead _ hSynced' _ (mem_of_find? hFind')

theorem readable_resource {c : Catalogue} (h : c.Synced) {row : Row}
    (hRow : row ∈ c.tables.resources) :
    ∃ record, readRow Resource c.types row = .ok record :=
  readRow_resource (h.sound.fits .resource row hRow) c.types

theorem readable_person {c : Catalogue} (h : c.Synced) {row : Row}
    (hRow : row ∈ c.tables.persons) :
    ∃ record, readRow Person c.types row = .ok record :=
  readRow_person (h.sound.fits .person row hRow) c.types

theorem readable_object {c : Catalogue} (h : c.Synced) {row : Row}
    (hRow : row ∈ c.tables.objects) :
    ∃ record, readRow ObjectRelation c.types row = .ok record :=
  readRow_object (h.sound.fits .objectRelation row hRow) c.types

/-- Every group can be read, because memory has its type. -/
theorem readable_group {c : Catalogue} (h : c.Synced) {row : Row}
    (hRow : row ∈ c.tables.groups) :
    ∃ record, readRow Group c.types row = .ok record := by
  obtain ⟨uuid, title, sort, type, _, hType, hRead⟩ :=
    readRow_group (h.sound.fits .group row hRow) c.types
  obtain ⟨g, hg, hEq⟩ := h.sound.type_of_group hRow
  have hLookup : c.types.find? type = some g :=
    h.find?_eq_some_iff.2 ⟨hg, Cell.text.inj (hEq.symm.trans hType)⟩
  rw [hRead, hLookup]
  exact ⟨_, rfl⟩

/-! ## Operations -/

theorem unharmed_updateResource {c : Catalogue} (hSynced : c.Synced) (now : Timestamp)
    (uuid : String) (patch : ResourcePatch) : c.Unharmed (c.updateResource now uuid patch) := by
  unfold updateResource
  refine unharmed_outcomeThen fun d hUpdate => ?_
  split at hUpdate
  · cases hUpdate
  · exact (fetch_updated Resource hSynced (by decide) (by decide) (patch.keepsKey _) hUpdate
      fun d hd row hRow => readable_resource hd hRow).imp_right fun hFetch => hFetch _

theorem unharmed_updatePerson {c : Catalogue} (hSynced : c.Synced) (uuid : String)
    (patch : PersonPatch) : c.Unharmed (c.updatePerson uuid patch) := by
  unfold updatePerson
  refine unharmed_outcomeThen fun d hUpdate => ?_
  exact (fetch_updated Person hSynced (by decide) (by decide) patch.keepsKey hUpdate
    fun d hd row hRow => readable_person hd hRow).imp_right fun hFetch => hFetch _

theorem unharmed_updateGroup {c : Catalogue} (hSynced : c.Synced) (uuid : String)
    (patch : GroupPatch) : c.Unharmed (c.updateGroup uuid patch) := by
  unfold updateGroup
  refine unharmed_outcomeThen fun d hUpdate => ?_
  split at hUpdate
  · cases hUpdate
  · exact (fetch_updated Group hSynced (by decide) (by decide) patch.keepsKey hUpdate
      fun d hd row hRow => readable_group hd hRow).imp_right fun hFetch => hFetch _

theorem unharmed_updateObject {c : Catalogue} (hSynced : c.Synced) (id : Int64)
    (patch : ObjectPatch) : c.Unharmed (c.updateObject id patch) := by
  unfold updateObject
  refine unharmed_outcomeThen fun d hUpdate => ?_
  exact (fetch_updated ObjectRelation hSynced (by decide) (by decide) patch.keepsKey hUpdate
    fun d hd row hRow => readable_object hd hRow).imp_right fun hFetch => hFetch _

theorem unharmed_commit (c : Catalogue) : c.Unharmed c.commit := by
  intro fault hFails
  unfold commit at hFails ⊢
  split
  · rfl
  · rename_i hOpen
    rw [hOpen] at hFails
    cases hFails

/-- A rollback fails only where no savepoint is open. -/
theorem unharmed_rollback {c : Catalogue} (hInv : c.Inv) : c.Unharmed c.rollback := by
  intro fault hFails
  cases hOpen : c.savepoints with
  | nil =>
      unfold rollback
      rw [hOpen]
  | cons t outer =>
      rw [rollback_eq hOpen (hInv.savepoints t (by simp [hOpen])).1] at hFails
      cases hFails

/-- **An operation that fails changes nothing**: neither the tables nor the group types
in memory nor the open savepoints. -/
theorem Reachable.failure_changes_nothing {c : Catalogue} (h : Reachable c) {s : Step}
    (hPublic : s.isPublic = true) (hSingle : ∀ steps, s ≠ .transaction steps) {fault : Fault}
    (hFails : (s.run c).1 = .error fault) : (s.run c).2 = c := by
  have hInv := h.inv
  have hSynced := hInv.synced
  suffices hUnharmed : c.Unharmed (s.run c) from hUnharmed fault hFails
  clear hFails
  cases s with
  | transaction steps => exact absurd rfl (hSingle steps)
  | setOption | direct => cases hPublic
  | addResource | addPerson | addGroupType | addGroup | addObject | addPersonRelation
  | addGroupRelation | removeResource | removePerson | removeGroupType | removeGroup
  | removeObject | updateGroupType =>
      rw [Step.run]
      refine unharmed_reply ?_
      simp only [addResource, addPerson, addGroupType, addGroup, addObject, addPersonRelation,
        addGroupRelation, removeResource, removePerson, removeGroupType, removeGroup,
        removeObject, updateGroupType]
      exact unharmed_outcome c _
  | updateResource now uuid patch =>
      rw [Step.run]
      exact unharmed_reply (unharmed_updateResource hSynced now uuid patch)
  | updatePerson uuid patch =>
      rw [Step.run]
      exact unharmed_reply (unharmed_updatePerson hSynced uuid patch)
  | updateGroup uuid patch =>
      rw [Step.run]
      exact unharmed_reply (unharmed_updateGroup hSynced uuid patch)
  | updateObject id patch =>
      rw [Step.run]
      exact unharmed_reply (unharmed_updateObject hSynced id patch)
  | removeObjects | removePersonRelations | removeGroupRelations =>
      rw [Step.run]
      refine unharmed_reply fun _ hFails => ?_
      cases hFails
  | begin =>
      rw [Step.run]
      intro _ hFails
      cases hFails
  | commit =>
      rw [Step.run]
      exact unharmed_reply (unharmed_commit c)
  | rollback =>
      rw [Step.run]
      exact unharmed_reply (unharmed_rollback hInv)
  | _ =>
      rw [Step.run]
      intro _ _
      rfl

/-- A second relation to the series is refused. -/
theorem failure_changes_nothing_sample :
    Reachable sample ∧
      ((Step.addGroupRelation "f" "s" (some 2) none).run sample).1.isOk = false ∧
      ((Step.addGroupRelation "f" "s" (some 2) none).run sample).2 = sample := by
  have hFails : ((Step.addGroupRelation "f" "s" (some 2) none).run sample).1.isOk = false := by
    decide +kernel
  refine ⟨reachable_sample, hFails, ?_⟩
  cases hAnswer : ((Step.addGroupRelation "f" "s" (some 2) none).run sample).1 with
  | ok r =>
      rw [hAnswer] at hFails
      cases hFails
  | error fault =>
      exact Reachable.failure_changes_nothing reachable_sample (by decide) (by simp) hAnswer

end Catalogue

end Shelfmark
