import Shelfmark.Proofs.Catalogue.History

/-!
# Numbers of objects are not used again

An object is known by the number of its row. The rows themselves cannot keep numbers from being
used twice: once the row with the greatest number is gone, by itself, by a pattern or with its
resource, no row tells that the number was ever given out. What tells it is the sequence, which
only additions move and which is part of the tables. So a rollback sets it back, and then numbers
of additions that were rolled back are indeed given out again. The additions that were not rolled
back are the ones that this is about.

A history of a catalogue is kept beside it, as for the order of relations. Here it has the objects
as they were when they were added, and what was last told of each: by its addition, or by a
change. `Recalled` pairs catalogues with their histories, and with everything that additions have
answered since the history began, whether it was rolled back or not.

## Main results

* `Catalogue.Effect.sequence_le` — nothing but a rollback sets the sequence back.
* `Tables.Recalls.step` — one step keeps the tables in agreement with the history.
* `Catalogue.Recalled.exists_of_run` — every run goes on with a history.
* `Catalogue.Recalled.recalls` — the tables agree with every history.
* `Catalogue.Recalled.numbers_not_reused` — numbers only go up, and each leads to its object.
-/

namespace Shelfmark

open Shelfmark.Text
open Catalogue (readRow)

/-! ## What is told of objects -/

/-- The object that a step adds. -/
def Step.addedObject? (c : Catalogue) (s : Step) : Option ObjectRelation :=
  match s, (s.run c).1 with
  | addObject _ _ _, .ok (.object o) => some o
  | _, _ => none

/-- The object that a step adds or changes, as it is then. -/
def Step.toldObject? (c : Catalogue) (s : Step) : Option ObjectRelation :=
  match s, (s.run c).1 with
  | addObject _ _ _, .ok (.object o) => some o
  | updateObject _ _, .ok (.object o) => some o
  | _, _ => none

/-- What a history tells of objects. -/
structure ObjectLog where
  /-- The objects as they were added, one after the other. -/
  added : List ObjectRelation := []
  /-- What was told last of the objects that were not removed since. -/
  told : List ObjectRelation := []
  deriving DecidableEq, Repr

/-- What is told after a step. What it removes is forgotten, and so is what was told of an object
before it tells of it. -/
def ObjectLog.after (c : Catalogue) (s : Step) (log : ObjectLog) : ObjectLog where
  added := log.added ++ (s.addedObject? c).toList
  told :=
    (log.told.filter fun o =>
      !s.removes c (.object o.resourceUuid o.id) &&
        (s.toldObject? c).all fun new => new.id != o.id) ++
      (s.toldObject? c).toList

/-! ## Rows of objects -/

namespace Row

variable {row : Row} {o : ObjectRelation}

theorem relation?_object_of_holds (hFits : row.Fits .objectRelation)
    (h : @Row.Holds .objectRelation row o) :
    row.relation? .objectRelation = some (.object o.resourceUuid o.id) :=
  relation?_of_holds hFits h

theorem id_of_holds (h : @Row.Holds .objectRelation row o) : row.id = o.id :=
  (@shows_of_holds .objectRelation _ _ _ h rfl).2

theorem object_unique (hFits : row.Fits .objectRelation) {k : ObjectRelation}
    (h : @Row.Holds .objectRelation row o) (hOther : @Row.Holds .objectRelation row k) : o = k := by
  have hRead : readRow ObjectRelation {} row = .ok o := (readRow_eq_ok_iff hFits).2 ⟨h, trivial⟩
  rw [(readRow_eq_ok_iff hFits).2 ⟨hOther, trivial⟩] at hRead
  exact (Except.ok.inj hRead).symm

end Row

namespace Tables

variable {t : Tables}

/-- The relations of objects are those that the rows hold. -/
theorem Sound.mem_relations_object (h : t.Sound) {resource : String} {id : Int64} :
    Relation.object resource id ∈ t.relations .objectRelation ↔
      ∃ row ∈ t.objects, ∃ o : ObjectRelation, @Row.Holds .objectRelation row o ∧
        o.resourceUuid = resource ∧ o.id = id := by
  unfold relations
  rw [List.mem_filterMap]
  constructor
  · rintro ⟨row, hRow, hRelation⟩
    have hFits := h.fits .objectRelation row hRow
    obtain ⟨o, hHolds⟩ := hFits.exists_holds
    rw [Row.relation?_object_of_holds hFits hHolds] at hRelation
    cases hRelation
    exact ⟨row, hRow, o, hHolds, rfl, rfl⟩
  · rintro ⟨row, hRow, o, hHolds, rfl, rfl⟩
    exact ⟨row, hRow, Row.relation?_object_of_holds (h.fits .objectRelation row hRow) hHolds⟩

/-- Whether tables agree with a history. The sequence is not below the number of any object that
was added, every number above it is free, and an object that was added is gone or as it was told
last, and still belongs to its resource. -/
structure Recalls (t : Tables) (log : ObjectLog) : Prop where
  ascending : log.added.Pairwise fun a b => a.id.toInt < b.id.toInt
  below : ∀ a ∈ log.added, a.id.toInt ≤ t.objectSequence.toInt
  held : ∀ o ∈ log.told, ∃ row ∈ t.objects, @Row.Holds .objectRelation row o
  told : ∀ a ∈ log.added, ∀ row ∈ t.objects, ∀ o : ObjectRelation,
    @Row.Holds .objectRelation row o → o.id = a.id → o ∈ log.told
  owner : ∀ a ∈ log.added, ∀ o ∈ log.told, o.id = a.id → o.resourceUuid = a.resourceUuid

theorem recalls_nil (t : Tables) : t.Recalls {} where
  ascending := .nil
  below := by simp
  held := by simp
  told := by simp
  owner := by simp

@[simp] theorem objectSequence_withRows (t : Tables) (kind : Kind) (rows : List Row) :
    (t.withRows kind rows).objectSequence = t.objectSequence := by
  cases kind <;> rfl

theorem Inserted.sequence_le {t' : Tables} {kind : Kind} {row : Row}
    (h : t.Inserted kind row t') : t.objectSequence.toInt ≤ t'.objectSequence.toInt := by
  rw [h.result, append]
  split
  · rename_i hKind
    exact Int.le_of_lt (sequence_lt_of_nextId? (hKind ▸ h.next))
  · rw [objectSequence_withRows]

end Tables

namespace Catalogue

/-! ## What a step does to objects -/

/-- No change of rows sets the sequence back. -/
theorem Effect.sequence_le {c d : Catalogue} (h : Effect c d) :
    c.tables.objectSequence.toInt ≤ d.tables.objectSequence.toInt := by
  cases h with
  | nothing | typeKept => exact Int.le_refl _
  | inserted _ _ _ hInserted => exact hInserted.sequence_le
  | related _ hInserted _ => exact hInserted.sequence_le
  | typeAdded _ hInserted _ => exact hInserted.sequence_le
  | changed _ _ _ _ _ _ hReplaced =>
      dsimp only
      rw [hReplaced.result, Tables.objectSequence_withRows]
  | typeChanged _ _ _ _ hReplaced _ _ _ =>
      dsimp only
      rw [hReplaced.result, Tables.objectSequence_withRows]
  | removed _ _ hRemoved => exact Int.le_of_eq (congrArg Int64.toInt hRemoved.keeps.2.symm)
  | typeRemoved _ _ hRemoved => exact Int.le_of_eq (congrArg Int64.toInt hRemoved.keeps.2.symm)
  | unlinked hDependent doomed =>
      dsimp only
      rw [Tables.without, Tables.objectSequence_withRows]

variable {c : Catalogue} {s : Step}

/-- An object is added with a number above the sequence, which then is that number, in a row that
holds it as it is answered and comes last. -/
theorem Synced.addObject_eq_ok (h : c.Synced) {fresh resource : String}
    {given o : ObjectRelation} {d : Catalogue} (hFresh : isGenerated fresh = true)
    (hAdd : c.addObject fresh resource given = (.ok o, d)) :
    (∃ row : Row, row.id = o.id ∧ @Row.Holds .objectRelation row o ∧
        d.tables.objects = c.tables.objects ++ [row]) ∧
      c.tables.objectSequence.toInt < o.id.toInt ∧ d.tables.objectSequence = o.id := by
  have hResult := outcome_eq_ok hAdd
  split at hResult
  · cases hResult
  · rename_i owner hOwner
    dsimp only at hResult
    obtain ⟨⟨id, e⟩, hInsert, hMade⟩ := exists_of_map_ok hResult
    obtain ⟨rfl, rfl⟩ := Prod.mk.inj hMade
    obtain ⟨row, rfl, -, hHolds, hInserted, -⟩ := insertRecord_exact .objectRelation hInsert
    refine ⟨⟨row, rfl, ?_, ?_⟩, Tables.sequence_lt_of_nextId? hInserted.next, ?_⟩
    · dsimp only [Kind.restored] at hHolds
      rwa [normalize_chooseUuid hFresh, h.uuid_of_getResource hOwner, normalize_normalize,
        ← h.uuid_of_getResource hOwner] at hHolds
    · have hRows := Tables.rows_append c.tables .objectRelation row .objectRelation
      rwa [← hInserted.result, if_pos rfl] at hRows
    · rw [hInserted.result]
      rfl

end Catalogue

/-- A step that adds an object is an addition that succeeds. -/
theorem Step.exists_of_addedObject? {c : Catalogue} {s : Step} {o : ObjectRelation}
    (h : s.addedObject? c = some o) :
    ∃ fresh resource given, s = addObject fresh resource given ∧
      c.addObject fresh resource given = (.ok o, (s.run c).2) := by
  unfold addedObject? at h
  split at h
  · rename_i fresh resource given o' hAnswer
    cases h
    rw [run] at hAnswer ⊢
    obtain ⟨o', hOk, hReply⟩ := exists_of_map_ok hAnswer
    cases hReply
    exact ⟨fresh, resource, given, rfl, Prod.ext hOk rfl⟩
  · cases h

/-- A step that tells of an object adds or changes it. -/
theorem Step.exists_of_toldObject? {c : Catalogue} {s : Step} {o : ObjectRelation}
    (h : s.toldObject? c = some o) :
    s.addedObject? c = some o ∨
      ∃ id patch, s = updateObject id patch ∧ c.updateObject id patch = (.ok o, (s.run c).2) := by
  unfold toldObject? at h
  split at h
  · rename_i hAnswer
    cases h
    left
    unfold addedObject?
    rw [hAnswer]
  · rename_i id patch o' hAnswer
    cases h
    rw [run] at hAnswer ⊢
    obtain ⟨o', hOk, hReply⟩ := exists_of_map_ok hAnswer
    cases hReply
    exact Or.inr ⟨id, patch, rfl, Prod.ext hOk rfl⟩
  · cases h

theorem Step.toldObject?_of_added {c : Catalogue} {s : Step} {o : ObjectRelation}
    (h : s.addedObject? c = some o) : s.toldObject? c = some o := by
  unfold addedObject? at h
  split at h
  · rename_i hAnswer
    cases h
    unfold toldObject?
    rw [hAnswer]
  · cases h

namespace Catalogue

variable {c : Catalogue} {s : Step} {log : ObjectLog}

/-- An object is what a row under its number holds. -/
theorem Synced.getObject_eq_ok_iff (h : c.Synced) {id : Int64} {o : ObjectRelation} :
    c.getObject id = .ok o ↔
      o.id = id ∧ ∃ row ∈ c.tables.objects, @Row.Holds .objectRelation row o := by
  constructor
  · intro hGet
    obtain ⟨row, hFind, hHolds, -⟩ := (h.fetch_eq_ok_iff .objectRelation).1 hGet
    exact ⟨(Row.id_of_holds hHolds).symm.trans (Tables.id_of_find? hFind), row, mem_of_find? hFind,
      hHolds⟩
  · rintro ⟨rfl, row, hRow, hHolds⟩
    obtain ⟨own, hGet, hOwn⟩ := h.getObject_of_mem hRow
    rwa [Row.id_of_holds hHolds,
      Row.object_unique (h.sound.fits .objectRelation row hRow) hOwn hHolds] at hGet

theorem Synced.step (h : c.Synced) (hPlain : s.isPlain = true) (hSupplied : s.isSupplied = true) :
    (s.run c).2.Synced := (Step.effect h hPlain hSupplied).synced h

/-- What the update of an object answers is what is read of it then, and the rows of other objects
stay. -/
theorem updateObject_eq_ok {id : Int64} {patch : ObjectPatch} {o : ObjectRelation} {d : Catalogue}
    (hUpdate : c.updateObject id patch = (.ok o, d)) :
    d.getObject id = .ok o ∧
      ∀ row ∈ d.tables.objects, row.id ≠ id → row ∈ c.tables.objects := by
  obtain ⟨hWrite, hRead⟩ := outcomeThen_eq_ok hUpdate
  refine ⟨hRead, fun row hRow hOther => ?_⟩
  rcases updateRecord_eq_ok patch.keepsKey hWrite with
    ⟨-, rfl⟩ | ⟨stored, old, t, -, -, hFind, hReplaced, rfl⟩
  · exact hRow
  · have hRows := hReplaced.rows_eq .objectRelation
    rw [if_pos rfl] at hRows
    have hMem : row ∈ t.rows .objectRelation := hRow
    rw [hRows, List.mem_map] at hMem
    obtain ⟨r, hr, hIs⟩ := hMem
    split at hIs
    · rename_i hId
      rw [← hIs, Row.assign_id] at hOther
      exact absurd (Tables.id_of_find? hFind) hOther
    · exact hIs ▸ hr

/-- What a step tells of an object can be read afterwards. -/
theorem Synced.getObject_told (h : c.Synced) (hPlain : s.isPlain = true)
    (hSupplied : s.isSupplied = true) {o : ObjectRelation} (hTold : s.toldObject? c = some o) :
    (s.run c).2.getObject o.id = .ok o := by
  have hSynced := h.step hPlain hSupplied
  rcases Step.exists_of_toldObject? hTold with hAdded | ⟨id, patch, rfl, hUpdate⟩
  · obtain ⟨fresh, resource, given, rfl, hAdd⟩ := Step.exists_of_addedObject? hAdded
    obtain ⟨⟨row, -, hHolds, hRows⟩, -⟩ := h.addObject_eq_ok hSupplied hAdd
    exact hSynced.getObject_eq_ok_iff.2 ⟨rfl, row, by simp [hRows], hHolds⟩
  · have hRead := (updateObject_eq_ok hUpdate).1
    rwa [(hSynced.getObject_eq_ok_iff.1 hRead).1]

private theorem mem_of_unwritten {rows rows' : List Row} (h : Write.Allows none rows rows')
    {row : Row} (hRow : row ∈ rows') : row ∈ rows := by
  have hSame : rows' = rows := h
  rwa [hSame] at hRow

/-- A step leaves the row of every other object as it is, or removes it. -/
theorem Synced.mem_objects_of_run (h : c.Synced) (hPlain : s.isPlain = true)
    (hSupplied : s.isSupplied = true) {row : Row} (hRow : row ∈ (s.run c).2.tables.objects)
    (hOther : ∀ o, s.toldObject? c = some o → o.id ≠ row.id) : row ∈ c.tables.objects := by
  have hWritten := s.rows_written c hPlain .objectRelation
  cases s with
  | removeResource | removePerson | removeGroup | removeGroupType | removeObject
  | removeObjects => exact List.Sublist.subset hWritten hRow
  | addObject fresh resource given =>
      rw [Step.run, Step.reply_snd] at hRow
      cases hAnswer : (c.addObject fresh resource given).1 with
      | error fault =>
          have hUnharmed : c.Unharmed (c.addObject fresh resource given) := unharmed_outcome c _
          rwa [hUnharmed fault hAnswer] at hRow
      | ok o =>
          have hTold : (Step.addObject fresh resource given).toldObject? c = some o := by
            simp only [Step.toldObject?, Step.run, reply, hAnswer, Except.map]
          obtain ⟨⟨new, hId, -, hRows⟩, -⟩ := h.addObject_eq_ok hSupplied (Prod.ext hAnswer rfl)
          rw [hRows, List.mem_append, List.mem_singleton] at hRow
          rcases hRow with hOld | rfl
          · exact hOld
          · exact absurd hId.symm (hOther o hTold)
  | updateObject id patch =>
      have hSynced := h.step hPlain hSupplied
      rw [Step.run, Step.reply_snd] at hRow hSynced
      cases hAnswer : (c.updateObject id patch).1 with
      | error fault => rwa [unharmed_updateObject h id patch fault hAnswer] at hRow
      | ok o =>
          have hTold : (Step.updateObject id patch).toldObject? c = some o := by
            simp only [Step.toldObject?, Step.run, reply, hAnswer, Except.map]
          obtain ⟨hRead, hOthers⟩ := updateObject_eq_ok (Prod.ext hAnswer rfl)
          obtain ⟨rfl, -⟩ := hSynced.getObject_eq_ok_iff.1 hRead
          exact hOthers row hRow (Ne.symm (hOther o hTold))
  | _ => exact mem_of_unwritten hWritten hRow

/-- What a step adds to the relations of objects is the object that it adds. -/
private theorem exists_addedObject? {resource : String} {id : Int64}
    (h : Relation.object resource id ∈ s.added c) : ∃ o, s.addedObject? c = some o ∧ o.id = id := by
  cases s with
  | addObject fresh owner given =>
      unfold Step.added at h
      split at h
      · rename_i answer hAnswer
        cases answer with
        | object o =>
            rw [Step.relation?, Option.toList_some, List.mem_singleton] at h
            injection h with _ hId
            exact ⟨o, by simp only [Step.addedObject?, hAnswer], hId.symm⟩
        | _ => cases h
      · cases h
  | addPersonRelation | addGroupRelation =>
      unfold Step.added at h
      split at h
      · rw [Step.relation?, Option.toList_some, List.mem_singleton] at h
        injection h
      · cases h
  | _ =>
      rw [added_eq_nil fun _ => rfl] at h
      cases h

/-- An object belongs to a resource after a step if it did before and the step does not remove it,
unless the step adds it. -/
theorem Synced.mem_relations_of_run (h : c.Synced) (hPlain : s.isPlain = true) (resource : String)
    {id : Int64} (hOther : ∀ o, s.addedObject? c = some o → o.id ≠ id) :
    Relation.object resource id ∈ (s.run c).2.tables.relations .objectRelation ↔
      Relation.object resource id ∈ c.tables.relations .objectRelation ∧
        s.removes c (.object resource id) = false := by
  have hNotAdded : Relation.object resource id ∉ s.added c := by
    intro hAdded
    obtain ⟨o, hObject, hId⟩ := exists_addedObject? hAdded
    exact hOther o hObject hId
  rw [h.turnsOver_step hPlain .objectRelation, List.mem_append, List.mem_filter, List.mem_filter,
    Bool.not_eq_true', or_iff_left fun hLast => hNotAdded hLast.1]

/-- The row of an object of which a step tells nothing stays as it is, unless the step removes the
object. -/
theorem Synced.mem_objects_run_iff (h : c.Synced) (hPlain : s.isPlain = true)
    (hSupplied : s.isSupplied = true) {row : Row} {o : ObjectRelation}
    (hHolds : @Row.Holds .objectRelation row o)
    (hOther : ∀ new, s.toldObject? c = some new → new.id ≠ o.id) :
    row ∈ (s.run c).2.tables.objects ↔
      row ∈ c.tables.objects ∧ s.removes c (.object o.resourceUuid o.id) = false := by
  have hSound' := (h.step hPlain hSupplied).sound
  have hStays := h.mem_relations_of_run hPlain o.resourceUuid fun new hAdded =>
    hOther new (Step.toldObject?_of_added hAdded)
  rw [← Row.id_of_holds hHolds] at hOther
  constructor
  · intro hRow
    exact ⟨h.mem_objects_of_run hPlain hSupplied hRow hOther,
      (hStays.1 (hSound'.mem_relations_object.2 ⟨row, hRow, o, hHolds, rfl, rfl⟩)).2⟩
  · rintro ⟨hRow, hKept⟩
    have hThere := hStays.2
      ⟨h.sound.mem_relations_object.2 ⟨row, hRow, o, hHolds, rfl, rfl⟩, hKept⟩
    obtain ⟨row', hRow', k, hHolds', -, hId⟩ := hSound'.mem_relations_object.1 hThere
    have hSame : row'.id = row.id := by
      rw [Row.id_of_holds hHolds', Row.id_of_holds hHolds, hId]
    have hBefore := h.mem_objects_of_run hPlain hSupplied hRow' (hSame ▸ hOther)
    exact h.sound.id_injective .objectRelation hBefore hRow hSame ▸ hRow'

/-- An object that a step tells of and does not add belonged to its resource before. -/
theorem Synced.object_before (h : c.Synced) (hPlain : s.isPlain = true)
    (hSupplied : s.isSupplied = true) {o : ObjectRelation} (hTold : s.toldObject? c = some o)
    (hOther : ∀ new, s.addedObject? c = some new → new.id ≠ o.id) :
    ∃ row ∈ c.tables.objects, ∃ k : ObjectRelation, @Row.Holds .objectRelation row k ∧
      k.resourceUuid = o.resourceUuid ∧ k.id = o.id := by
  have hSynced := h.step hPlain hSupplied
  obtain ⟨-, row, hRow, hHolds⟩ :=
    hSynced.getObject_eq_ok_iff.1 (h.getObject_told hPlain hSupplied hTold)
  have hThere := hSynced.sound.mem_relations_object.2 ⟨row, hRow, o, hHolds, rfl, rfl⟩
  exact h.sound.mem_relations_object.1 ((h.mem_relations_of_run hPlain _ hOther).1 hThere).1

/-- A number that is given out is above the sequence, and so above those of all that were added. -/
theorem Synced.sequence_lt_added (h : c.Synced) (hSupplied : s.isSupplied = true)
    {o : ObjectRelation} (hAdded : s.addedObject? c = some o) :
    c.tables.objectSequence.toInt < o.id.toInt ∧ (s.run c).2.tables.objectSequence = o.id := by
  obtain ⟨fresh, resource, given, rfl, hAdd⟩ := Step.exists_of_addedObject? hAdded
  exact (h.addObject_eq_ok hSupplied hAdd).2

end Catalogue

/-! ## What a step makes of a history -/

section Recalls

variable {c : Catalogue} {s : Step} {log : ObjectLog}

theorem ObjectLog.mem_added_after {a : ObjectRelation} :
    a ∈ (log.after c s).added ↔ a ∈ log.added ∨ s.addedObject? c = some a := by
  simp [ObjectLog.after]

theorem ObjectLog.mem_told_after {o : ObjectRelation} :
    o ∈ (log.after c s).told ↔
      (o ∈ log.told ∧ s.removes c (.object o.resourceUuid o.id) = false ∧
          ∀ new, s.toldObject? c = some new → new.id ≠ o.id) ∨
        s.toldObject? c = some o := by
  simp [ObjectLog.after, Option.all_eq_true]

theorem Tables.Recalls.ne_added (h : c.tables.Recalls log) (hSynced : c.Synced)
    (hSupplied : s.isSupplied = true) {o a : ObjectRelation} (hAdded : s.addedObject? c = some o)
    (ha : a ∈ log.added) : o.id ≠ a.id := by
  intro hSame
  have hAbove := (hSynced.sequence_lt_added hSupplied hAdded).1
  have hBelow := h.below a ha
  rw [← hSame] at hBelow
  omega

/-- What a step tells of an object that was added before is told of the same resource. -/
theorem Tables.Recalls.owner_told (h : c.tables.Recalls log) (hSynced : c.Synced)
    (hPlain : s.isPlain = true) (hSupplied : s.isSupplied = true) {a o : ObjectRelation}
    (ha : a ∈ log.added) (hTold : s.toldObject? c = some o) (hId : o.id = a.id) :
    o.resourceUuid = a.resourceUuid := by
  obtain ⟨row, hRow, k, hHolds, hOwner, hNumber⟩ :=
    hSynced.object_before hPlain hSupplied hTold fun new hAdded => by
      rw [hId]
      exact h.ne_added hSynced hSupplied hAdded ha
  have hOld : k ∈ log.told := h.told a ha row hRow k hHolds (hNumber.trans hId)
  rw [← hOwner]
  exact h.owner a ha k hOld (hNumber.trans hId)

/-- **One step keeps the tables in agreement with the history.** -/
theorem Tables.Recalls.step (hSynced : c.Synced) (hPlain : s.isPlain = true)
    (hSupplied : s.isSupplied = true) (h : c.tables.Recalls log) :
    (s.run c).2.tables.Recalls (log.after c s) := by
  have hSynced' := hSynced.step hPlain hSupplied
  constructor
  case ascending =>
    refine List.pairwise_append.2 ⟨h.ascending, ?_, fun a ha b hb => ?_⟩
    · cases s.addedObject? c <;> simp
    · have hBelow := h.below a ha
      have hAbove := (hSynced.sequence_lt_added hSupplied (Option.mem_toList.1 hb)).1
      omega
  case below =>
    intro a ha
    rcases ObjectLog.mem_added_after.1 ha with hOld | hAdded
    · exact Int.le_trans (h.below a hOld) (Step.effect hSynced hPlain hSupplied).sequence_le
    · rw [(hSynced.sequence_lt_added hSupplied hAdded).2]
  case held =>
    intro o ho
    rcases ObjectLog.mem_told_after.1 ho with ⟨hOld, hStays, hOther⟩ | hTold
    · obtain ⟨row, hRow, hHolds⟩ := h.held o hOld
      exact ⟨row, (hSynced.mem_objects_run_iff hPlain hSupplied hHolds hOther).2 ⟨hRow, hStays⟩,
        hHolds⟩
    · exact (hSynced'.getObject_eq_ok_iff.1 (hSynced.getObject_told hPlain hSupplied hTold)).2
  case told =>
    intro a ha row hRow o hHolds hId
    by_cases hWritten : ∃ new, s.toldObject? c = some new ∧ new.id = o.id
    · obtain ⟨new, hTold, hSame⟩ := hWritten
      -- both are read under the number, so they are one object
      have hRead := hSynced.getObject_told hPlain hSupplied hTold
      rw [hSame, hSynced'.getObject_eq_ok_iff.2 ⟨rfl, row, hRow, hHolds⟩] at hRead
      cases hRead
      exact ObjectLog.mem_told_after.2 (Or.inr hTold)
    · have hOther : ∀ new, s.toldObject? c = some new → new.id ≠ o.id :=
        fun new hTold hSame => hWritten ⟨new, hTold, hSame⟩
      have hOld : a ∈ log.added := by
        rcases ObjectLog.mem_added_after.1 ha with hOld | hAdded
        · exact hOld
        · exact absurd hId.symm (hOther a (Step.toldObject?_of_added hAdded))
      obtain ⟨hBefore, hStays⟩ :=
        (hSynced.mem_objects_run_iff hPlain hSupplied hHolds hOther).1 hRow
      exact ObjectLog.mem_told_after.2
        (Or.inl ⟨h.told a hOld row hBefore o hHolds hId, hStays, hOther⟩)
  case owner =>
    intro a ha o ho hId
    rcases ObjectLog.mem_added_after.1 ha with hBefore | hAdded
    · rcases ObjectLog.mem_told_after.1 ho with ⟨hOld, -⟩ | hTold
      · exact h.owner a hBefore o hOld hId
      · exact h.owner_told hSynced hPlain hSupplied hBefore hTold hId
    · rcases ObjectLog.mem_told_after.1 ho with ⟨-, -, hOther⟩ | hTold
      · exact absurd hId.symm (hOther a (Step.toldObject?_of_added hAdded))
      · have hSame := hTold.symm.trans (Step.toldObject?_of_added hAdded)
        rw [Option.some.inj hSame]

end Recalls

namespace Catalogue

/-! ## Histories -/

/-- The catalogues that can come about, each with what its history tells of objects. The history
may begin anywhere. What additions have answered since is collected whatever becomes of it. The
marks are what was told when each of the open savepoints was opened, the innermost first; a
rollback goes back to them, and so does an opening, which gives up what is not committed. -/
inductive Recalled : Catalogue → List ObjectRelation → ObjectLog → List ObjectLog → Prop
  | began {c : Catalogue} (hReachable : Reachable c) :
      Recalled c [] {} (c.savepoints.map fun _ => {})
  | reopened {fresh : String} {c d : Catalogue} {answered : List ObjectRelation} {log : ObjectLog}
      {marks : List ObjectLog} (hRecalled : Recalled c answered log marks)
      (hOpen : c.reopen fresh = .ok d) : Recalled d answered (marks.getLastD log) []
  | step {c : Catalogue} {s : Step} {answered : List ObjectRelation} {log : ObjectLog}
      {marks : List ObjectLog} (hRecalled : Recalled c answered log marks)
      (hPlain : s.isPlain = true) (hSupplied : s.isSupplied = true) :
      Recalled (s.run c).2 (answered ++ (s.addedObject? c).toList) (log.after c s) marks
  | begin {c : Catalogue} {answered : List ObjectRelation} {log : ObjectLog}
      {marks : List ObjectLog} (hRecalled : Recalled c answered log marks) :
      Recalled c.begin answered log (log :: marks)
  | commit {c : Catalogue} {answered : List ObjectRelation} {log : ObjectLog}
      {marks : List ObjectLog} (hRecalled : Recalled c answered log marks) :
      Recalled c.commit.2 answered log marks.tail
  | rollback {c : Catalogue} {answered : List ObjectRelation} {log : ObjectLog}
      {marks : List ObjectLog} (hRecalled : Recalled c answered log marks) :
      Recalled c.rollback.2 answered (marks.headD log) marks.tail

variable {c : Catalogue} {log : ObjectLog} {answered : List ObjectRelation}
  {marks : List ObjectLog}

theorem Recalled.reachable (h : Recalled c answered log marks) : Reachable c := by
  induction h with
  | began hReachable => exact hReachable
  | reopened _ hOpen ih => exact ih.reopened hOpen
  | step _ hPlain hSupplied ih => exact ih.run (Run.refl.step hPlain hSupplied)
  | begin _ ih => exact ih.run Run.refl.begin
  | commit _ ih => exact ih.run (Run.refl.finish (by omega) false)
  | rollback _ ih => exact ih.run (Run.refl.finish (by omega) true)

/-- A history goes on with any run. -/
theorem Recalled.exists_of_run (h : Recalled c answered log marks) {d : Catalogue}
    (hRun : Run 0 c d) : ∃ more log' marks', Recalled d (answered ++ more) log' marks' := by
  induction hRun with
  | refl => exact ⟨[], log, marks, by rwa [List.append_nil]⟩
  | step _ hPlain hSupplied ih =>
      obtain ⟨more, log', marks', hRecalled⟩ := ih
      exact ⟨_, _, _, List.append_assoc answered more _ ▸ hRecalled.step hPlain hSupplied⟩
  | begin _ ih =>
      obtain ⟨more, log', marks', hRecalled⟩ := ih
      exact ⟨_, _, _, hRecalled.begin⟩
  | commit _ _ ih =>
      obtain ⟨more, log', marks', hRecalled⟩ := ih
      exact ⟨_, _, _, hRecalled.commit⟩
  | rollback _ _ ih =>
      obtain ⟨more, log', marks', hRecalled⟩ := ih
      exact ⟨_, _, _, hRecalled.rollback⟩

/-- **The tables agree with any history**, and so do those that a rollback brings back with what
was told of them. -/
theorem Recalled.recalls (h : Recalled c answered log marks) :
    List.Forall₂ Tables.Recalls c.held (log :: marks) := by
  induction h with
  | began _ =>
      refine .cons (Tables.recalls_nil _) (List.forall₂_map_right_iff.2 (List.forall₂_same.2 ?_))
      exact fun t _ => t.recalls_nil
  | reopened hRecalled hOpen ih => exact forall₂_held_reopen hRecalled.reachable hOpen ih
  | step hRecalled hPlain hSupplied ih =>
      have hSynced := hRecalled.reachable.inv.synced
      obtain ⟨hHead, hRest⟩ := List.forall₂_cons.1 ih
      unfold held
      rw [(Step.effect hSynced hPlain hSupplied).savepoints]
      exact .cons (hHead.step hSynced hPlain hSupplied) hRest
  | begin _ ih => exact .cons (List.forall₂_cons.1 ih).1 ih
  | commit _ ih => exact forall₂_held_commit ih
  | rollback hRecalled ih => exact forall₂_held_rollback hRecalled.reachable ih

/-- **Numbers of objects are not used again.** Where no addition was rolled back, the numbers that
additions have answered go up, and the next one is above them all, whatever has been removed
since. What is answered under such a number is the object that was added under it, as it was told
last; and an object is answered just as it was told when it was added or changed last, until it is
removed. -/
theorem Recalled.numbers_not_reused (h : Recalled c answered log marks)
    (hKept : log.added = answered) :
    answered.Pairwise (fun a b => a.id < b.id) ∧
      (∀ fresh resource given o d, isGenerated fresh = true →
        c.addObject fresh resource given = (.ok o, d) →
          (∀ a ∈ answered, a.id < o.id) ∧ d.getObject o.id = .ok o) ∧
      (∀ a ∈ answered, ∀ o, c.getObject a.id = .ok o →
        o ∈ log.told ∧ o.resourceUuid = a.resourceUuid) ∧
      ∀ o ∈ log.told, c.getObject o.id = .ok o := by
  have hSynced := h.reachable.inv.synced
  have hRecalls : c.tables.Recalls log := (List.forall₂_cons.1 h.recalls).1
  subst hKept
  refine ⟨hRecalls.ascending.imp Int64.lt_iff_toInt_lt.2, ?_, ?_, ?_⟩
  · intro fresh resource given o d hFresh hAdd
    have hAdded : (Step.addObject fresh resource given).addedObject? c = some o := by
      simp only [Step.addedObject?, Step.run, reply, hAdd, Except.map]
    have hAbove :=
      (hSynced.sequence_lt_added (s := .addObject fresh resource given) hFresh hAdded).1
    refine ⟨fun a ha => Int64.lt_iff_toInt_lt.2 ?_, ?_⟩
    · have hBelow := hRecalls.below a ha
      omega
    · have hTold := hSynced.getObject_told (s := .addObject fresh resource given) rfl hFresh
        (Step.toldObject?_of_added hAdded)
      rwa [Step.run, Step.reply_snd, hAdd] at hTold
  · intro a ha o hGet
    obtain ⟨hId, row, hRow, hHolds⟩ := hSynced.getObject_eq_ok_iff.1 hGet
    have hTold := hRecalls.told a ha row hRow o hHolds hId
    exact ⟨hTold, hRecalls.owner a ha o hTold hId⟩
  · intro o ho
    exact hSynced.getObject_eq_ok_iff.2 ⟨rfl, hRecalls.held o ho⟩

/-- The first object of a resource, as it was added. -/
def sampleBook : ObjectRelation := ⟨1, "f", "book", .format, "epub"⟩

/-- The second one, which is removed. -/
def sampleCover : ObjectRelation := ⟨2, "f", "cover", .cover, ""⟩

/-- A catalogue with a resource that got two objects. The second is removed. Then the resource is
removed with the first, which is rolled back, and the first is changed. -/
def sampleObjects : Catalogue :=
  let shelved := [Step.addResource sampleUuid sampleResource, .addObject sampleUuid "f" sampleBook,
    .addObject sampleUuid "f" sampleCover, .removeObject 2].foldl (fun c s => (s.run c).2) sampleNew
  ((Step.updateObject 1 { tag := some "pdf" }).run
    ((Step.removeResource "f").run shelved.begin).2.rollback.2).2

theorem recalled_sampleObjects :
    Recalled sampleObjects [sampleBook, sampleCover]
      ⟨[sampleBook, sampleCover], [{ sampleBook with tag := "pdf" }]⟩ [] := by
  have hShelved := ((((Recalled.began reachable_sampleNew).step
    (s := .addResource sampleUuid sampleResource) rfl (by decide +kernel)).step
    (s := .addObject sampleUuid "f" sampleBook) rfl (by decide +kernel)).step
    (s := .addObject sampleUuid "f" sampleCover) rfl (by decide +kernel)).step
    (s := .removeObject 2) rfl rfl
  have hChanged := (hShelved.begin.step (s := .removeResource "f") rfl rfl).rollback.step
    (s := .updateObject 1 { tag := some "pdf" }) rfl rfl
  have hTold : ∀ {c answered log marks answered' log'}, Recalled c answered log marks →
      answered = answered' → log = log' → Recalled c answered' log' marks :=
    fun hRecalled hAnswered hLog => hAnswered ▸ hLog ▸ hRecalled
  exact hTold hChanged (by decide +kernel) (by decide +kernel)

/-- The next number is 3, although the row with the number 2 is gone, and the number 1 leads to its
object as it was changed. -/
theorem numbers_not_reused_sample :
    Recalled sampleObjects [sampleBook, sampleCover]
        ⟨[sampleBook, sampleCover], [{ sampleBook with tag := "pdf" }]⟩ [] ∧
      (∃ o, (sampleObjects.addObject sampleUuid "f" sampleCover).1 = .ok o ∧ o.id = 3 ∧
        ∀ a ∈ [sampleBook, sampleCover], a.id < o.id) ∧
      sampleObjects.getObject 1 = .ok { sampleBook with tag := "pdf" } := by
  obtain ⟨-, hNext, -, hRead⟩ := Recalled.numbers_not_reused recalled_sampleObjects rfl
  have hAdd : (sampleObjects.addObject sampleUuid "f" sampleCover).1 =
      .ok { sampleCover with id := 3 } := by decide +kernel
  refine ⟨recalled_sampleObjects, ⟨_, hAdd, rfl, ?_⟩,
    hRead { sampleBook with tag := "pdf" } (List.mem_singleton_self _)⟩
  exact (hNext sampleUuid "f" sampleCover _ _ (by decide +kernel) (Prod.ext hAdd rfl)).1

end Catalogue

end Shelfmark
