import Shelfmark.Proofs.Catalogue.Run

/-!
# What holds in every reachable catalogue

`Catalogue.Inv` is the invariant: the tables are in order, memory mirrors them, the
well-known group types are there, and the tables of every open savepoint are in order
as well. The last part is what a rollback needs, because it makes the tables of a
savepoint the tables of the catalogue.

A new catalogue has the invariant, each effect and each savepoint operation keeps it,
and opening a catalogue again finds nothing to add: `Reachable.inv`. The rules of group
types follow for every reachable catalogue, as its rows and its stored types show them.
-/

namespace Shelfmark

namespace Catalogue

/-- The invariant of reachable catalogues. -/
structure Inv (c : Catalogue) : Prop where
  synced : c.Synced
  seeded : c.tables.Seeded
  savepoints : ∀ t ∈ c.savepoints, t.Lawful ∧ t.Seeded

/-! ## Loading -/

/-- In lawful tables the group types are loaded, and memory mirrors them afterwards. -/
theorem reload_eq {c : Catalogue} (h : c.tables.Lawful) :
    c.reload = .ok { c with types := .ofTypes c.tables.types } := by
  unfold reload
  rw [storedTypes_eq h.sound]
  rfl

theorem synced_ofTypes {c : Catalogue} (h : c.tables.Lawful) :
    Synced { c with types := .ofTypes c.tables.types } :=
  ⟨h, TypeCache.mirrors_ofTypes h.sound.types_nodup h.names⟩

/-! ## Savepoints -/

theorem Inv.begin {c : Catalogue} (h : c.Inv) : c.begin.Inv := by
  refine ⟨⟨h.synced.lawful, h.synced.mirrors⟩, h.seeded, ?_⟩
  intro t ht
  rcases List.mem_cons.1 ht with rfl | hOuter
  · exact ⟨h.synced.lawful, h.seeded⟩
  · exact h.savepoints t hOuter

theorem Inv.commit {c : Catalogue} (h : c.Inv) : c.commit.2.Inv := by
  unfold Catalogue.commit
  split
  · exact h
  · rename_i t outer hOpen
    refine ⟨⟨h.synced.lawful, h.synced.mirrors⟩, h.seeded, fun s hs => ?_⟩
    refine h.savepoints s ?_
    rw [hOpen]
    exact List.mem_cons_of_mem t hs

/-- A rollback to tables in order succeeds. -/
theorem rollback_eq {c : Catalogue} {t : Tables} {outer : List Tables}
    (hOpen : c.savepoints = t :: outer) (h : t.Lawful) :
    c.rollback =
      (.ok (), { c with tables := t, savepoints := outer, types := .ofTypes t.types }) := by
  unfold rollback
  rw [hOpen]
  dsimp only
  rw [reload_eq (c := { c with tables := t, savepoints := outer }) h]

theorem Inv.rollback {c : Catalogue} (h : c.Inv) : c.rollback.2.Inv := by
  cases hOpen : c.savepoints with
  | nil =>
      unfold Catalogue.rollback
      rw [hOpen]
      exact h
  | cons t outer =>
      obtain ⟨hLawful, hSeeded⟩ := h.savepoints t (by simp [hOpen])
      rw [rollback_eq hOpen hLawful]
      refine ⟨synced_ofTypes (c := { c with tables := t, savepoints := outer }) hLawful, hSeeded,
        fun s hs => ?_⟩
      exact h.savepoints s (by rw [hOpen]; exact List.mem_cons_of_mem t hs)

/-! ## Runs -/

theorem Inv.effect {c d : Catalogue} (h : c.Inv) (hEffect : Effect c d) : d.Inv := by
  refine ⟨hEffect.synced h.synced, hEffect.seeded h.synced h.seeded, ?_⟩
  rw [hEffect.savepoints]
  exact h.savepoints

/-- A run keeps the invariant. -/
theorem Run.inv {base : Nat} {c d : Catalogue} (hRun : Run base c d) (h : c.Inv) : d.Inv := by
  induction hRun with
  | refl => exact h
  | step _ hPlain hSupplied ih => exact ih.effect (Step.effect ih.synced hPlain hSupplied)
  | begin _ ih => exact ih.begin
  | commit _ _ ih => exact ih.commit
  | rollback _ _ ih => exact ih.rollback

/-! ## Opening -/

theorem types_insertType {c : Catalogue} {g : GroupType} (hUuid : normalize g.uuid = g.uuid)
    {p : Int64 × Catalogue} (h : c.insertRecord g = .ok p) :
    p.2.tables.types = c.tables.types ++ [g] := by
  obtain ⟨id, d⟩ := p
  obtain ⟨stored, t, hStored, _, hInserted, rfl⟩ := insertRecord_eq_ok h
  rw [cells_of_storedAs hUuid hStored] at hInserted
  exact hInserted.types

/-- Types that are not there yet are added in their order. -/
theorem seed_of_missing {c d : Catalogue} {missing : List GroupType} (hSynced : c.Synced)
    (hNames : DistinctNames (c.tables.types ++ missing))
    (hUuids : ((c.tables.types ++ missing).map GroupType.uuid).Nodup)
    (hNormal : ∀ g ∈ missing, normalize g.uuid = g.uuid ∧ g.answersTo g.name = true)
    (h : c.seed missing = .ok d) :
    d.Synced ∧ d.tables.types = c.tables.types ++ missing ∧ d.savepoints = c.savepoints := by
  induction missing generalizing c with
  | nil =>
      cases h
      exact ⟨hSynced, by simp, rfl⟩
  | cons g rest ih =>
      obtain ⟨hUuid, hSelf⟩ := hNormal g (by simp)
      have hOther : ∀ k ∈ c.tables.types, k.uuid ≠ g.uuid := by
        intro k hk
        rw [List.map_append, List.nodup_append] at hUuids
        exact hUuids.2.2 k.uuid (List.mem_map_of_mem hk) g.uuid (by simp)
      have hNone : c.types.find? g.uuid = none := hSynced.mirrors.find?_eq_none_iff.2 hOther
      have hFree : c.types.findNamed? g.name = none := by
        rw [Option.eq_none_iff_forall_ne_some]
        intro k hk
        obtain ⟨hIn, hName⟩ := hSynced.findNamed?_eq_some_iff.1 hk
        exact hOther k hIn (hNames k (by simp [hIn]) g (by simp) g.name hName hSelf)
      unfold seed at h
      rw [hNone] at h
      simp only [Option.isSome_none, Bool.false_eq_true, if_false] at h
      split at h
      · cases h
      · rename_i id added hInsert
        have hTypes : added.tables.types = c.tables.types ++ [g] := types_insertType hUuid hInsert
        have hEffect := effect_insertType hUuid hFree hInsert
        have hSplit : c.tables.types ++ g :: rest = added.tables.types ++ rest := by
          rw [hTypes, List.append_assoc]
          rfl
        rw [hSplit] at hNames hUuids ⊢
        obtain ⟨hSynced', hTypes', hSavepoints'⟩ :=
          ih (hEffect.synced hSynced) hNames hUuids (fun k hk => hNormal k (by simp [hk])) h
        exact ⟨hSynced', hTypes', hSavepoints'.trans hEffect.savepoints⟩

/-- Where all types are there, none is added. -/
theorem seed_of_present {c : Catalogue} {types : List GroupType}
    (h : ∀ g ∈ types, (c.types.find? g.uuid).isSome = true) : c.seed types = .ok c := by
  induction types with
  | nil => rfl
  | cons g rest ih =>
      unfold seed
      rw [if_pos (h g (by simp))]
      exact ih fun k hk => h k (by simp [hk])

private theorem lawful_congr {t t' : Tables} (h : t.Lawful)
    (hRows : ∀ kind, t'.rows kind = t.rows kind) : t'.Lawful := by
  have hSub : ∀ kind, (t'.rows kind).Sublist (t.rows kind) := by
    intro kind
    rw [hRows]
  have hTypes : t'.types = t.types := Tables.types_congr (hRows .groupType)
  refine ⟨h.sound.sublist hSub ?_, h.rules.sublist hSub, hTypes ▸ h.names⟩
  intro kind _ _ r _ target hTarget _
  rw [hRows]
  exact hTarget

private theorem lawful_empty : Tables.Lawful {} := by
  refine ⟨?_, ⟨by simp [Tables.types], by simp [Tables.types]⟩,
    by simp [DistinctNames, Tables.types]⟩
  refine
    { fits := ?_
      ids := ?_
      unique := ?_
      refs := ?_ } <;> intro kind <;> cases kind <;> simp [Tables.rows]

private theorem rows_setOption (t : Tables) (name value : String) (kind : Kind) :
    (t.setOption name value).rows kind = t.rows kind := by
  cases kind <;> rfl

/-- Checking the version leaves the rows alone. -/
theorem rows_checkVersion {t t' : Tables} {fresh : String} (h : t.checkVersion fresh = .ok t')
    (kind : Kind) : t'.rows kind = t.rows kind := by
  unfold Tables.checkVersion at h
  split at h
  · cases h
    rw [rows_setOption, rows_setOption]
  · split at h
    · cases h
    · split at h
      · cases h
      · cases h
        rfl

/-- Opening lawful tables loads the group types and then adds what is missing. -/
theorem openOn_eq_ok {t : Tables} {created : Bool} {fresh : String} {d : Catalogue}
    (h : t.Lawful) (hOpen : openOn t created fresh = .ok d) :
    ∃ loaded : Catalogue, loaded.Synced ∧ loaded.savepoints = [] ∧
      loaded.tables.types = t.types ∧ loaded.seed wellKnownTypes = .ok d := by
  unfold openOn at hOpen
  split at hOpen
  · cases hOpen
  · rename_i checked hVersion
    have hRows := rows_checkVersion hVersion
    have hLawful := lawful_congr h hRows
    dsimp only at hOpen
    obtain ⟨opened, hOpened⟩ : ∃ opened : Catalogue, opened =
        { tables := checked, identity := (checked.option? "uuid").getD "", created := created } :=
      ⟨_, rfl⟩
    rw [← hOpened] at hOpen
    have hTables : opened.tables = checked := by rw [hOpened]
    rw [← hTables] at hLawful
    rw [reload_eq hLawful] at hOpen
    refine ⟨_, synced_ofTypes hLawful, ?_, ?_, hOpen⟩
    · rw [hOpened]
    · dsimp only
      rw [hTables]
      exact Tables.types_congr (hRows .groupType)

theorem wellKnownTypes_normal :
    ∀ g ∈ wellKnownTypes, normalize g.uuid = g.uuid ∧ g.answersTo g.name = true := by
  decide +kernel

theorem wellKnownTypes_uuids : (wellKnownTypes.map GroupType.uuid).Nodup := by decide +kernel

theorem wellKnownTypes_names : DistinctNames wellKnownTypes := by
  have hNames : (wellKnownTypes.map fun g => Text.lowercase g.name).Nodup := by decide +kernel
  intro a ha b hb name hA hB
  rw [GroupType.answersTo_iff] at hA hB
  rw [List.inj_on_of_nodup_map hNames ha hb (hA.trans hB.symm)]

/-- A new catalogue has the well-known types alone, and the invariant. -/
theorem Inv.created {fresh : String} {c : Catalogue} (h : create fresh = .ok c) : c.Inv := by
  obtain ⟨loaded, hSynced, hNone, hTypes, hSeed⟩ := openOn_eq_ok lawful_empty h
  have hAll : loaded.tables.types ++ wellKnownTypes = wellKnownTypes := by
    rw [hTypes]
    rfl
  obtain ⟨hSynced', hTypes', hSavepoints⟩ := seed_of_missing hSynced
    (by rw [hAll]; exact wellKnownTypes_names) (by rw [hAll]; exact wellKnownTypes_uuids)
    wellKnownTypes_normal hSeed
  refine ⟨hSynced', ?_, ?_⟩
  · intro w hw
    exact ⟨w, by rw [hTypes', hAll]; exact hw, rfl⟩
  · rw [hSavepoints, hNone]
    simp

/-- The tables that are left when a catalogue is closed are in order. -/
theorem Inv.closed {c : Catalogue} (h : c.Inv) : c.closed.Lawful ∧ c.closed.Seeded := by
  unfold Catalogue.closed
  rw [List.getLastD_eq_getLast?]
  cases hOpen : c.savepoints.getLast? with
  | none => exact ⟨h.synced.lawful, h.seeded⟩
  | some t => exact h.savepoints t (List.mem_of_getLast? hOpen)

/-- Opening a catalogue again adds no type, and keeps the invariant. -/
theorem Inv.reopened {fresh : String} {c d : Catalogue} (h : c.Inv)
    (hOpen : c.reopen fresh = .ok d) : d.Inv := by
  obtain ⟨hLawful, hSeeded⟩ := h.closed
  obtain ⟨loaded, hSynced, hNone, hTypes, hSeed⟩ := openOn_eq_ok hLawful hOpen
  have hSeeded' : loaded.tables.Seeded := by
    unfold Tables.Seeded
    rw [hTypes]
    exact hSeeded
  rw [seed_of_present] at hSeed
  · cases hSeed
    exact ⟨hSynced, hSeeded', by simp [hNone]⟩
  · intro w hw
    obtain ⟨g, hg, hUuid⟩ := hSeeded' w hw
    exact Option.isSome_iff_exists.2 ⟨g, hSynced.find?_eq_some_iff.2 ⟨hg, hUuid⟩⟩

/-- **Every reachable catalogue has the invariant.** -/
theorem Reachable.inv {c : Catalogue} (h : Reachable c) : c.Inv := by
  induction h with
  | created hCreate => exact Inv.created hCreate
  | reopened _ hOpen ih => exact ih.reopened hOpen
  | run _ hRun ih => exact hRun.inv ih

/-! ## The rules of group types -/

theorem length_filter_le_one {α : Type} {l : List α} {p : α → Bool} (hNodup : l.Nodup)
    (h : ∀ a ∈ l, ∀ b ∈ l, p a = true → p b = true → a = b) : (l.filter p).length ≤ 1 := by
  have hNodup' := hNodup.filter p
  have hSame : ∀ a ∈ l.filter p, ∀ b ∈ l.filter p, a = b := by
    intro a ha b hb
    obtain ⟨haIn, haP⟩ := List.mem_filter.1 ha
    obtain ⟨hbIn, hbP⟩ := List.mem_filter.1 hb
    exact h a haIn b hbIn haP hbP
  generalize l.filter p = picked at hNodup' hSame
  match picked with
  | [] => simp
  | [_] => simp
  | a :: b :: _ =>
      rw [List.nodup_cons] at hNodup'
      exact absurd (by simp [hSame a (by simp) b (by simp)]) hNodup'.1

private theorem negative_of_not_isIndex {i : Int64} (h : (Cell.integer i).isIndex = false) :
    i < 0 := by
  simp only [Cell.isIndex, Cell.isNull, Cell.order, Bool.not_false, Bool.true_and,
    bne_eq_false_iff_eq, Int.compare_eq_lt] at h
  exact Int64.lt_iff_toInt_lt.2 h

/-- **The rules of group types hold in every reachable catalogue.** The types are those
that the tables hold, and reading them never fails. A resource has one relation at most
to the groups of an exclusive type, and no relation to a group of an unordered type has
an index. -/
theorem Reachable.relations_obey_types {c : Catalogue} (h : Reachable c) :
    ∃ types, storedTypes c.tables = .ok types ∧ ∀ type ∈ types,
      (type.exclusive = true → ∀ resource : Cell,
        (c.tables.groupLinks.filter fun link =>
          decide (link.cell .groupRelation "resource_uuid" = resource ∧
            c.tables.Leads type.uuid link)).length ≤ 1) ∧
      (type.ordered = false → ∀ link ∈ c.tables.groupLinks, c.tables.Leads type.uuid link →
        ∀ index, link.cell .groupRelation "group_index" = .integer index → index < 0) := by
  obtain ⟨hSound, hRules, _⟩ := h.inv.synced.lawful
  refine ⟨c.tables.types, storedTypes_eq hSound, fun type hType => ⟨?_, ?_⟩⟩
  · intro hExclusive resource
    refine length_filter_le_one (hSound.ids .groupRelation).of_map ?_
    intro a ha b hb haTo hbTo
    obtain ⟨haResource, haLeads⟩ := of_decide_eq_true haTo
    obtain ⟨hbResource, hbLeads⟩ := of_decide_eq_true hbTo
    exact hRules.exclusive type hType hExclusive a ha b hb haLeads hbLeads
      (haResource.trans hbResource.symm)
  · intro hOrdered link hLink hLeads index hIndex
    have hNone := hRules.ordered type hType hOrdered link hLink hLeads
    rw [Tables.isIndexed, hIndex] at hNone
    exact negative_of_not_isIndex hNone

/-- A series is exclusive and ordered, and the sample relates a resource to one. -/
theorem relations_obey_types_sample :
    Reachable sample ∧ sample.tables.groupLinks.length = 1 ∧
      ∃ types, storedTypes sample.tables = .ok types ∧ ∀ type ∈ types,
        (type.exclusive = true → ∀ resource : Cell,
          (sample.tables.groupLinks.filter fun link =>
            decide (link.cell .groupRelation "resource_uuid" = resource ∧
              sample.tables.Leads type.uuid link)).length ≤ 1) ∧
        (type.ordered = false → ∀ link ∈ sample.tables.groupLinks,
          sample.tables.Leads type.uuid link →
          ∀ index, link.cell .groupRelation "group_index" = .integer index → index < 0) :=
  ⟨reachable_sample, by decide +kernel, Reachable.relations_obey_types reachable_sample⟩

end Catalogue

end Shelfmark
