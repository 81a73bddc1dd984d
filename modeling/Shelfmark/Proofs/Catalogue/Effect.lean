import Shelfmark.Proofs.Store.TypeCache
import Shelfmark.Proofs.Store.TypeRules

/-!
# What one operation can do to a catalogue

An operation leaves the catalogue alone or makes one change of its tables, and a change
of the group types is made in memory as well. `Catalogue.Effect` lists these changes
with all that the operation checked before, so that later modules need not open the
operations again.

A catalogue is in order when its tables are sound, the rules of group types hold, and
memory mirrors the table of group types. Each effect keeps it so: `Effect.synced`. An
effect that spares the group types keeps memory right by `Synced.of_types_eq`; of the
others `Synced.mirrors_added`, `Synced.mirrors_retyped` and `Synced.mirrors_kept` say why
memory follows the table. The well-known group types stay as well: `Effect.seeded`.
-/

namespace Shelfmark

/-- Tables that are sound, obey the rules of group types and give each type a name of
its own. -/
structure Tables.Lawful (t : Tables) : Prop where
  sound : t.Sound
  rules : t.TypeRules
  names : DistinctNames t.types

/-- Whether the well-known group types are there, under whatever name and flags. -/
def Tables.Seeded (t : Tables) : Prop := ∀ w ∈ wellKnownTypes, ∃ g ∈ t.types, g.uuid = w.uuid

namespace Catalogue

/-- Whether the tables are in order and memory mirrors them. -/
structure Synced (c : Catalogue) : Prop where
  lawful : c.tables.Lawful
  mirrors : c.types.Mirrors c.tables.types

theorem synced_of {c : Catalogue} (hSound : c.tables.Sound) (hRules : c.tables.TypeRules)
    (hMirrors : c.types.Mirrors c.tables.types) : c.Synced :=
  ⟨⟨hSound, hRules, hMirrors.distinctNames⟩, hMirrors⟩

theorem Synced.sound {c : Catalogue} (h : c.Synced) : c.tables.Sound := h.lawful.sound

theorem Synced.find?_eq_some_iff {c : Catalogue} (h : c.Synced) {uuid : String} {g : GroupType} :
    c.types.find? uuid = some g ↔ g ∈ c.tables.types ∧ g.uuid = uuid :=
  h.mirrors.find?_eq_some_iff h.sound.types_nodup

theorem Synced.findNamed?_eq_some_iff {c : Catalogue} (h : c.Synced) {name : String}
    {g : GroupType} :
    c.types.findNamed? name = some g ↔ g ∈ c.tables.types ∧ g.answersTo name = true :=
  h.mirrors.findNamed?_eq_some_iff h.sound.types_nodup

/-- The catalogues that one operation on a catalogue can lead to. -/
inductive Effect (c : Catalogue) : Catalogue → Prop
  | nothing : Effect c c
  | inserted {kind : Kind} {row : Row} {t : Tables} (hType : kind ≠ .groupType)
      (hLink : kind ≠ .groupRelation) (hFits : row.Fits kind)
      (hInserted : c.tables.Inserted kind row t) : Effect c { c with tables := t }
  /-- An index is only given in a group of an ordered type. -/
  | related {row : Row} {t : Tables} (hFits : row.Fits .groupRelation)
      (hInserted : c.tables.Inserted .groupRelation row t)
      (hIndex : ∀ type ∈ c.tables.types, type.ordered = false → c.tables.Leads type.uuid row →
        Tables.isIndexed row = false) : Effect c { c with tables := t }
  | typeAdded {id : Int64} {g : GroupType} {t : Tables}
      (hFits : (Row.mk id g.cells).Fits .groupType)
      (hInserted : c.tables.Inserted .groupType ⟨id, g.cells⟩ t)
      (hFree : c.types.findNamed? g.name = none) :
      Effect c { c with tables := t, types := c.types.keep g }
  | changed {kind : Kind} {old new : Row} {t : Tables} (hType : kind ≠ .groupType)
      (hLink : kind ≠ .groupRelation) (hOld : old ∈ c.tables.rows kind) (hFits : new.Fits kind)
      (hId : new.id = old.id) (hKey : new.key kind = old.key kind)
      (hReplaced : c.tables.Replaced kind old new t) : Effect c { c with tables := t }
  /-- A flag is only set against no relation, and a new name is no other type's. -/
  | typeChanged {old new : Row} {t : Tables} (hOld : old ∈ c.tables.rows .groupType)
      (hFits : new.Fits .groupType) (hId : new.id = old.id)
      (hUuid : new.toGroupType.uuid = old.toGroupType.uuid)
      (hReplaced : c.tables.Replaced .groupType old new t)
      (hExclusive : new.toGroupType.exclusive = true →
        old.toGroupType.exclusive = true ∨ c.crowdedCount (.text old.toGroupType.uuid) = 0)
      (hOrdered : new.toGroupType.ordered = false →
        old.toGroupType.ordered = false ∨ c.indexedCount (.text old.toGroupType.uuid) = 0)
      (hName : new.toGroupType.name = old.toGroupType.name ∨
        ∀ other, c.types.findNamed? new.toGroupType.name = some other →
          other.uuid = old.toGroupType.uuid) :
      Effect c { c with tables := t, types := c.types.keep new.toGroupType }
  /-- A change of a type that sets nothing is told to memory alone. -/
  | typeKept {g : GroupType} (hType : g ∈ c.tables.types) :
      Effect c { c with types := c.types.keep g }
  | removed {kind : Kind} {row : Row} {t : Tables} (hType : kind ≠ .groupType)
      (hRow : row ∈ c.tables.rows kind) (hRemoved : c.tables.Removed kind row t) :
      Effect c { c with tables := t }
  /-- Well-known types stay. -/
  | typeRemoved {row : Row} {t : Tables} (hRow : row ∈ c.tables.rows .groupType)
      (hKnown : isWellKnownType row.toGroupType.uuid = false)
      (hRemoved : c.tables.Removed .groupType row t) :
      Effect c { c with tables := t, types := c.types.forget row.toGroupType.uuid }
  | unlinked {kind : Kind} (hDependent : kind.isDependent = true) (doomed : Row → Bool) :
      Effect c { c with tables := c.tables.without kind doomed }

/-! ## What an effect keeps -/

/-- Changes of rows do not open or close savepoints. -/
theorem Effect.savepoints {c d : Catalogue} (h : Effect c d) : d.savepoints = c.savepoints := by
  cases h <;> rfl

/-- A name is free when no look-up finds it. -/
private theorem free_of_findNamed? {c : Catalogue} (h : c.Synced) {g : GroupType}
    {p : String → Prop} (hFound : ∀ other, c.types.findNamed? g.name = some other → p other.uuid)
    {k : GroupType} (hk : k ∈ c.tables.types) (hNot : ¬ p k.uuid) {name : String}
    (hName : g.answersTo name = true) : k.answersTo name = false := by
  rw [← Bool.not_eq_true]
  intro hClash
  have hSelf : k.answersTo g.name = true := by
    rw [GroupType.answersTo_iff] at hClash ⊢
    exact hClash.trans (GroupType.answersTo_self hName).symm
  exact hNot (hFound k (h.findNamed?_eq_some_iff.2 ⟨hk, hSelf⟩))

/-- A change that spares the group types leaves memory right. -/
theorem Synced.of_types_eq {c : Catalogue} (h : c.Synced) {t : Tables} (hSound : t.Sound)
    (hRules : t.TypeRules) (hTypes : t.types = c.tables.types) :
    ({ c with tables := t } : Catalogue).Synced := by
  refine synced_of hSound hRules ?_
  dsimp only
  rw [hTypes]
  exact h.mirrors

/-- Memory follows the table when a type is added whose name no look-up finds. -/
theorem Synced.mirrors_added {c : Catalogue} (h : c.Synced) {id : Int64} {g : GroupType}
    {t : Tables} (hSound : t.Sound) (hInserted : c.tables.Inserted .groupType ⟨id, g.cells⟩ t)
    (hFree : c.types.findNamed? g.name = none) : (c.types.keep g).Mirrors t.types := by
  have hUuids := hSound.types_nodup
  rw [hInserted.types] at hUuids ⊢
  rw [List.map_append, List.nodup_append] at hUuids
  refine h.mirrors.keep_new ?_ ?_
  · intro k hk
    exact hUuids.2.2 k.uuid (List.mem_map_of_mem hk) g.uuid (by simp)
  · intro k hk name hName
    refine free_of_findNamed? h (p := fun _ => False) ?_ hk not_false hName
    intro other hOther
    rw [hFree] at hOther
    cases hOther

/-- A changed type answers to no name that another answers to, if it keeps its name or takes one
under which no other is found. A type need not be found under its own name, so the first case is
not one of the second. -/
theorem Synced.answersTo_eq_false {c : Catalogue} (h : c.Synced) {old new : GroupType}
    (hOld : old ∈ c.tables.types)
    (hName : new.name = old.name ∨
      ∀ other, c.types.findNamed? new.name = some other → other.uuid = old.uuid)
    {k : GroupType} (hk : k ∈ c.tables.types) (hNe : k.uuid ≠ old.uuid) {name : String}
    (hAnswers : new.answersTo name = true) : k.answersTo name = false := by
  rcases hName with hSame | hFound
  · rw [← Bool.not_eq_true]
    intro hClash
    have hOldAnswers : old.answersTo name = true := by
      rw [GroupType.answersTo_iff, hSame] at hAnswers
      exact GroupType.answersTo_iff.2 hAnswers
    exact hNe (h.lawful.names k hk old hOld name hClash hOldAnswers)
  · exact free_of_findNamed? h (p := fun uuid => uuid = old.uuid) hFound hk hNe hAnswers

/-- Memory follows the table when a type is changed in its place. -/
theorem Synced.mirrors_retyped {c : Catalogue} (h : c.Synced) {old new : GroupType}
    (hOld : old ∈ c.tables.types) (hUuid : new.uuid = old.uuid)
    (hName : new.name = old.name ∨
      ∀ other, c.types.findNamed? new.name = some other → other.uuid = old.uuid) :
    (c.types.keep new).Mirrors
      (c.tables.types.map fun g => if g.uuid = old.uuid then new else g) := by
  rw [← hUuid]
  refine h.mirrors.keep_known h.sound.types_nodup ⟨old, hOld, hUuid.symm⟩ ?_
  intro k hk hNe name hAnswers
  rw [hUuid] at hNe
  exact h.answersTo_eq_false hOld hName hk hNe hAnswers

/-- Telling memory a type of the table once more changes nothing that is looked up. -/
theorem Synced.mirrors_kept {c : Catalogue} (h : c.Synced) {g : GroupType}
    (hType : g ∈ c.tables.types) : (c.types.keep g).Mirrors c.tables.types := by
  have hSame : c.tables.types.map (fun k => if k.uuid = g.uuid then g else k) =
      c.tables.types := by
    refine (List.map_congr_left fun k hk => ?_).trans (List.map_id _)
    split
    · rename_i hEq
      exact h.sound.type_eq hType hk hEq.symm
    · rfl
  have hKept := h.mirrors_retyped hType rfl (.inl rfl)
  rw [hSame] at hKept
  exact hKept

/-- Each effect keeps a catalogue in order. -/
theorem Effect.synced {c d : Catalogue} (h : Effect c d) (hSynced : c.Synced) : d.Synced := by
  have hSound := hSynced.sound
  have hRules := hSynced.lawful.rules
  cases h with
  | nothing => exact hSynced
  | inserted hType hLink hFits hInserted =>
      have hSound' := hSound.inserted hFits hInserted
      exact hSynced.of_types_eq hSound' (hRules.inserted hSound hSound' hLink hInserted)
        (hInserted.types_eq hType)
  | related hFits hInserted hIndex =>
      exact hSynced.of_types_eq (hSound.inserted hFits hInserted)
        (hRules.related hSound hFits hInserted hIndex) (hInserted.types_eq (by decide))
  | typeAdded hFits hInserted hFree =>
      have hSound' := hSound.inserted hFits hInserted
      exact synced_of hSound' (hRules.inserted hSound hSound' (by decide) hInserted)
        (hSynced.mirrors_added hSound' hInserted hFree)
  | changed hType hLink hOld hFits hId hKey hReplaced =>
      exact hSynced.of_types_eq (hSound.replaced hOld hFits hId hReplaced)
        (hRules.replaced hSound hType hLink hOld hFits hKey hReplaced) (hReplaced.types_eq hType)
  | @typeChanged old new t hOld hFits hId hUuid hReplaced hExclusive hOrdered hName =>
      refine synced_of (hSound.replaced hOld hFits hId hReplaced)
        (typeRules_retyped hRules hSound hOld hUuid hReplaced hExclusive hOrdered) ?_
      dsimp only
      rw [hReplaced.types hSound hOld]
      exact hSynced.mirrors_retyped (Tables.mem_types.2 ⟨old, hOld, rfl⟩) hUuid hName
  | typeKept hType => exact synced_of hSound hRules (hSynced.mirrors_kept hType)
  | removed hType hRow hRemoved =>
      exact hSynced.of_types_eq (hSound.removed hRow hRemoved) (hRules.sublist hRemoved.sublist)
        (hRemoved.types_eq hType)
  | typeRemoved hRow hKnown hRemoved =>
      refine synced_of (hSound.removed hRow hRemoved) (hRules.sublist hRemoved.sublist) ?_
      dsimp only
      rw [hRemoved.types hSound hRow]
      exact hSynced.mirrors.forget _
  | unlinked hDependent doomed =>
      exact hSynced.of_types_eq (hSound.without hDependent doomed)
        (hRules.sublist (Tables.without_sublist c.tables _ doomed))
        (Tables.types_without hDependent)

/-- The well-known group types survive each effect. -/
theorem Effect.seeded {c d : Catalogue} (h : Effect c d) (hSynced : c.Synced)
    (hSeeded : c.tables.Seeded) : d.tables.Seeded := by
  have hSound := hSynced.sound
  intro w hw
  obtain ⟨g, hg, hUuid⟩ := hSeeded w hw
  cases h with
  | nothing => exact ⟨g, hg, hUuid⟩
  | inserted hType _ _ hInserted => exact ⟨g, (hInserted.types_eq hType).symm ▸ hg, hUuid⟩
  | related _ hInserted _ => exact ⟨g, (hInserted.types_eq (by decide)).symm ▸ hg, hUuid⟩
  | typeAdded _ hInserted _ =>
      exact ⟨g, hInserted.types.symm ▸ List.mem_append_left _ hg, hUuid⟩
  | changed hType _ _ _ _ _ hReplaced => exact ⟨g, (hReplaced.types_eq hType).symm ▸ hg, hUuid⟩
  | @typeChanged old new _ hOld _ _ hSame hReplaced =>
      refine ⟨_, (hReplaced.types hSound hOld).symm ▸ List.mem_map_of_mem hg, ?_⟩
      split
      · rename_i hEq
        exact (hSame.trans hEq.symm).trans hUuid
      · exact hUuid
  | typeKept _ => exact ⟨g, hg, hUuid⟩
  | removed hType _ hRemoved => exact ⟨g, (hRemoved.types_eq hType).symm ▸ hg, hUuid⟩
  | @typeRemoved row _ hRow hKnown hRemoved =>
      refine ⟨g, (hRemoved.types hSound hRow).symm ▸ List.mem_filter.2 ⟨hg, ?_⟩, hUuid⟩
      rw [bne_iff_ne]
      intro hEq
      have hAny : isWellKnownType row.toGroupType.uuid = true := by
        rw [← hEq, hUuid]
        exact List.any_eq_true.2 ⟨w, hw, by simp⟩
      rw [hKnown] at hAny
      cases hAny
  | unlinked hDependent _ => exact ⟨g, (Tables.types_without hDependent).symm ▸ hg, hUuid⟩

end Catalogue

end Shelfmark
