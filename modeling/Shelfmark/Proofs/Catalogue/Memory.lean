import Shelfmark.Proofs.Catalogue.Failure
import Shelfmark.Proofs.Query.Selection

/-!
# What memory tells about group types

Group types are answered from memory and groups are read with their types, without a
look at the table of group types. In a reachable catalogue this cannot be noticed: a type
is found under an identifier just when the table has a row with it, the listing shows the
rows of the table, and every group comes with the row of its type as it is now.

Names are another matter. A type is filed under its name in lower case, and a look-up
asks for a name in lower case without the blanks around it. So a type is found under its
own name just when that name has no blanks around it: `getGroupTypeNamed_self_iff`.
-/

namespace Shelfmark

open Shelfmark.Text

/-- The cells of a group. -/
def Group.cells (g : Group) : List Cell :=
  [.text g.uuid, .text g.title, .text g.titleSort, .text g.groupType.uuid]

/-- Whether a group is there, and its type as the group tells it. -/
structure Tables.Shows (t : Tables) (g : Group) : Prop where
  group : ∃ row ∈ t.groups, row.cells = g.cells
  type : ∃ row ∈ t.groupTypes, row.cells = g.groupType.cells

/-- Whether a fault says that a group refers to a type that memory does not know. -/
def Fault.isUnknownType : Fault → Bool
  | integrity _ (.unknownGroupType _ _) => true
  | _ => false

theorem Fault.isUnknownType_of_isQuery {fault : Fault} (h : fault.isQuery = true) :
    fault.isUnknownType = false := by
  cases fault <;> first | rfl | cases h

namespace Catalogue

/-! ## Group types -/

/-- The records of the table, as cells of its rows. -/
theorem cells_types {t : Tables} (h : t.Sound) :
    t.types.map GroupType.cells = t.groupTypes.map Row.cells := by
  rw [Tables.types, List.map_map]
  exact List.map_congr_left fun row hRow => ((h.type_row hRow).groupType.1).symm

theorem mem_types_iff {t : Tables} (h : t.Sound) {g : GroupType} :
    g ∈ t.types ↔ ∃ row ∈ t.groupTypes, row.cells = g.cells := by
  rw [Tables.mem_types]
  constructor
  · rintro ⟨row, hRow, rfl⟩
    exact ⟨row, hRow, (h.type_row hRow).groupType.1⟩
  · rintro ⟨⟨id, cells⟩, hRow, hCells⟩
    dsimp only at hCells
    subst hCells
    exact ⟨_, hRow, toGroupType_cells id g⟩

theorem getGroupType_eq_ok_iff {c : Catalogue} (h : c.Synced) {uuid : String} {g : GroupType} :
    c.getGroupType uuid = .ok g ↔
      g.uuid = normalize uuid ∧ ∃ row ∈ c.tables.groupTypes, row.cells = g.cells := by
  have hFound : c.types.find? (normalize uuid) = some g ↔
      g.uuid = normalize uuid ∧ ∃ row ∈ c.tables.groupTypes, row.cells = g.cells := by
    rw [h.find?_eq_some_iff, mem_types_iff h.sound]
    exact And.comm
  rw [← hFound, getGroupType]
  cases c.types.find? (normalize uuid) <;> simp

theorem getGroupTypeNamed_eq_ok_iff {c : Catalogue} (h : c.Synced) {name : String}
    {g : GroupType} :
    c.getGroupTypeNamed name = .ok g ↔
      g.answersTo name = true ∧ ∃ row ∈ c.tables.groupTypes, row.cells = g.cells := by
  have hFound : c.types.findNamed? name = some g ↔
      g.answersTo name = true ∧ ∃ row ∈ c.tables.groupTypes, row.cells = g.cells := by
    rw [h.findNamed?_eq_some_iff, mem_types_iff h.sound]
    exact And.comm
  rw [← hFound, getGroupTypeNamed]
  cases c.types.findNamed? name <;> simp

/-- A type is found just when a row has the identifier. -/
theorem getGroupType_isOk_iff {c : Catalogue} (h : c.Synced) {uuid : String} :
    (∃ g, c.getGroupType uuid = .ok g) ↔
      ∃ row ∈ c.tables.groupTypes, row.cell .groupType "uuid" = .text (normalize uuid) := by
  constructor
  · rintro ⟨g, hg⟩
    obtain ⟨hUuid, ⟨id, cells⟩, hRow, hCells⟩ := (getGroupType_eq_ok_iff h).1 hg
    dsimp only at hCells
    subst hCells
    exact ⟨_, hRow, congrArg Cell.text hUuid⟩
  · rintro ⟨row, hRow, hCell⟩
    have hFits := h.sound.type_row hRow
    refine ⟨row.toGroupType, (getGroupType_eq_ok_iff h).2 ⟨?_, row, hRow, hFits.groupType.1⟩⟩
    exact Cell.text.inj (hFits.cell_groupType.1.symm.trans hCell)

/-- The listing has the types of the tables. -/
theorem Synced.groupTypes_perm_types {c : Catalogue} (h : c.Synced) :
    c.groupTypes.Perm c.tables.types := by
  rw [← h.mirrors.kept]
  exact List.mergeSort_perm _ _

/-- The listing shows the rows of the table. -/
theorem groupTypes_perm {c : Catalogue} (h : c.Synced) :
    (c.groupTypes.map GroupType.cells).Perm (c.tables.groupTypes.map Row.cells) := by
  rw [← cells_types h.sound]
  exact h.groupTypes_perm_types.map GroupType.cells

/-! ## Groups -/

/-- A group is read as its row and the row of its type say. -/
theorem shows_of_readRow {c : Catalogue} (h : c.Synced) {row : Row} (hRow : row ∈ c.tables.groups)
    {g : Group} (hRead : readRow Group c.types row = .ok g) : c.tables.Shows g := by
  obtain ⟨uuid, title, sort, type, hCells⟩ := (h.sound.fits .group row hRow).group_cells
  obtain ⟨id, cells⟩ := row
  dsimp only at hCells
  subst hCells
  have hRecord : Storable.ofValues c.types.find?
      [.text uuid, .text title, .text sort, .text type] = .ok g := hRead
  dsimp only [Storable.ofValues] at hRecord
  split at hRecord
  · rename_i t hFind
    cases hRecord
    obtain ⟨hType, hUuid⟩ := h.find?_eq_some_iff.1 hFind
    exact ⟨⟨_, hRow, by rw [Group.cells, hUuid]; rfl⟩, (mem_types_iff h.sound).1 hType⟩
  · cases hRecord

/-- Where rows can be read, a fetch fails only for a key that names none. -/
theorem fetch_eq_error {α : Type} [Storable α] {c : Catalogue} {key : Cell} {shown : String}
    {fault : Fault}
    (hRead : ∀ row ∈ c.tables.rows (Storable.kind α), ∃ a, readRow α c.types row = .ok a)
    (h : c.fetch α key shown = .error fault) : fault = .notFound (Storable.kind α) shown := by
  unfold fetch at h
  split at h
  · cases h
    rfl
  · rename_i row hFind
    obtain ⟨a, ha⟩ := hRead row (mem_of_find? hFind)
    rw [ha] at h
    cases h

/-- The readings of groups, with the groups that each tells. -/
inductive GroupReading (c : Catalogue) : Except Fault (List Group) → Prop
  | fetched (uuid : String) : GroupReading c ((c.getGroup uuid).map fun g => [g])
  | found (criterion : Option Criterion) (options : Options) :
      GroupReading c (c.find Group criterion options)
  | related (resource : String) (criterion : Option Criterion) (options : Options) :
      GroupReading c ((c.relatedGroups resource criterion options).map fun rs =>
        rs.map RelatedGroup.group)

/-- Whether groups are told as the tables show them, or a fault that is not about their
types. -/
def TellsGroups (c : Catalogue) : Except Fault (List Group) → Prop
  | .ok groups => ∀ g ∈ groups, c.tables.Shows g
  | .error fault => fault.isUnknownType = false

theorem tellsGroups_getGroup {c : Catalogue} (h : c.Synced) (uuid : String) :
    c.TellsGroups ((c.getGroup uuid).map fun g => [g]) := by
  cases hFetch : c.getGroup uuid with
  | error fault =>
      have hFault := fetch_eq_error (fun row hRow => readable_group h hRow) hFetch
      rw [hFault]
      rfl
  | ok g =>
      intro k hk
      rw [List.mem_singleton.1 hk]
      unfold getGroup fetch at hFetch
      split at hFetch
      · cases hFetch
      · rename_i row hFind
        exact shows_of_readRow h (mem_of_find? hFind) hFetch

theorem tellsGroups_find {c : Catalogue} (h : c.Synced) (criterion : Option Criterion)
    (options : Options) : c.TellsGroups (c.find Group criterion options) := by
  unfold find
  dsimp only
  split
  · rename_i hSelect
    exact Fault.isUnknownType_of_isQuery (Tables.isQuery_of_select hSelect)
  · rename_i rows hSelect
    have hRows := Tables.subset_of_select hSelect
    cases hRead : rows.mapM (readRow Group c.types) with
    | error fault =>
        obtain ⟨row, hRow, hFault⟩ := exists_of_mapM_error hRead
        obtain ⟨g, hg⟩ := readable_group h (hRows hRow)
        rw [hg] at hFault
        cases hFault
    | ok groups =>
        intro g hg
        obtain ⟨row, hRow, hOk⟩ := exists_of_mem_mapM hRead hg
        exact shows_of_readRow h (hRows hRow) hOk

theorem readable_linkedGroup {c : Catalogue} (h : c.Synced) {pair : Row × Row}
    (hLink : pair.1 ∈ c.tables.groupLinks) (hGroup : pair.2 ∈ c.tables.groups) :
    ∃ g link, readRow Group c.types pair.2 = .ok g ∧
      readLinked Group GroupLink c.types pair = .ok (g, link) := by
  obtain ⟨g, hg⟩ := readable_group h hGroup
  obtain ⟨link, hlink⟩ := readRow_groupLink (h.sound.fits .groupRelation _ hLink) c.types
  refine ⟨g, link, hg, ?_⟩
  rw [readLinked_eq, hg, hlink]
  rfl

theorem tellsGroups_relatedGroups {c : Catalogue} (h : c.Synced) (resource : String)
    (criterion : Option Criterion) (options : Options) :
    c.TellsGroups ((c.relatedGroups resource criterion options).map fun rs =>
      rs.map RelatedGroup.group) := by
  unfold relatedGroups
  cases hRelated : c.related Group GroupLink "group_uuid" resource criterion options with
  | error fault =>
      show fault.isUnknownType = false
      unfold related at hRelated
      dsimp only at hRelated
      split at hRelated
      · rename_i hFetch
        cases hRelated
        rw [fetch_eq_error (fun row hRow => readable_resource h hRow) hFetch]
        rfl
      · split at hRelated
        · rename_i hSelect
          cases hRelated
          exact Fault.isUnknownType_of_isQuery (Tables.isQuery_of_select hSelect)
        · rename_i pairs hSelect
          obtain ⟨pair, hPair, hFault⟩ := exists_of_mapM_error hRelated
          obtain ⟨hLink, hGroup⟩ := Tables.mem_of_mem_linked (Tables.subset_of_select hSelect hPair)
          obtain ⟨g, link, _, hOk⟩ := readable_linkedGroup h hLink hGroup
          rw [hOk] at hFault
          cases hFault
  | ok found =>
      show ∀ g ∈ _, c.tables.Shows g
      intro g hg
      obtain ⟨r, hr, rfl⟩ := List.mem_map.1 hg
      obtain ⟨p, hp, rfl⟩ := List.mem_map.1 hr
      unfold related at hRelated
      dsimp only at hRelated
      split at hRelated
      · cases hRelated
      · split at hRelated
        · cases hRelated
        · rename_i pairs hSelect
          obtain ⟨pair, hPair, hRead⟩ := exists_of_mem_mapM hRelated hp
          obtain ⟨hLink, hGroup⟩ := Tables.mem_of_mem_linked (Tables.subset_of_select hSelect hPair)
          obtain ⟨group, link, hOwn, hOk⟩ := readable_linkedGroup h hLink hGroup
          rw [hRead] at hOk
          cases hOk
          exact shows_of_readRow h hGroup hOwn

/-- **Memory agrees with the tables in every reachable catalogue.** A type is found under
an identifier just when the table of group types has a row with it, and it is that row.
All types are those of the rows. Every group that is read comes with the row of its type
as it is, and no group is ever of a type that memory does not know. -/
theorem Reachable.memory_agrees {c : Catalogue} (h : Reachable c) :
    (∀ uuid,
      ((∃ g, c.getGroupType uuid = .ok g) ↔
        ∃ row ∈ c.tables.groupTypes, row.cell .groupType "uuid" = .text (normalize uuid)) ∧
      ∀ g, c.getGroupType uuid = .ok g ↔
        g.uuid = normalize uuid ∧ ∃ row ∈ c.tables.groupTypes, row.cells = g.cells) ∧
    (c.groupTypes.map GroupType.cells).Perm (c.tables.groupTypes.map Row.cells) ∧
    ∀ answer, GroupReading c answer →
      (∀ groups, answer = .ok groups → ∀ g ∈ groups, c.tables.Shows g) ∧
      ∀ fault, answer = .error fault → fault.isUnknownType = false := by
  have hSynced := h.inv.synced
  refine ⟨fun uuid => ⟨getGroupType_isOk_iff hSynced, fun g => getGroupType_eq_ok_iff hSynced⟩,
    groupTypes_perm hSynced, ?_⟩
  intro answer hReading
  have hTells : c.TellsGroups answer := by
    cases hReading with
    | fetched uuid => exact tellsGroups_getGroup hSynced uuid
    | found criterion options => exact tellsGroups_find hSynced criterion options
    | related resource criterion options =>
        exact tellsGroups_relatedGroups hSynced resource criterion options
  constructor
  · rintro groups rfl
    exact hTells
  · rintro fault rfl
    exact hTells

theorem memory_agrees_sample :
    Reachable sample ∧
      (sample.groupTypes.map GroupType.cells).Perm (sample.tables.groupTypes.map Row.cells) ∧
      ∃ g, sample.getGroup " S " = .ok g ∧ g.groupType.name = "Series" ∧
        sample.tables.Shows g := by
  obtain ⟨_, hListed, hGroups⟩ := Reachable.memory_agrees reachable_sample
  have hRead : sample.getGroup " S " =
      .ok { sampleSeries with groupType := ⟨seriesTypeUuid, "Series", true, true⟩ } := by
    decide +kernel
  have hReading := GroupReading.fetched (c := sample) " S "
  rw [hRead] at hReading
  exact ⟨reachable_sample, hListed, _, hRead, rfl, (hGroups _ hReading).1 _ rfl _ (by simp)⟩

/-! ## Names -/

/-- **A group type is found under its own name just when the name has no blanks around
it.** Otherwise a look-up of that name finds another type or none. -/
theorem Reachable.getGroupTypeNamed_self_iff {c : Catalogue} (h : Reachable c) :
    ∃ types, storedTypes c.tables = .ok types ∧
      ∀ g ∈ types, c.getGroupTypeNamed g.name = .ok g ↔ trim g.name = g.name := by
  have hSynced := h.inv.synced
  refine ⟨c.tables.types, storedTypes_eq hSynced.sound, fun g hg => ?_⟩
  have hFound : c.types.findNamed? g.name = some g ↔ trim g.name = g.name := by
    rw [hSynced.findNamed?_eq_some_iff, GroupType.answersTo_iff, lowercase_eq_normalize_iff]
    exact and_iff_right hg
  rw [← hFound, getGroupTypeNamed]
  cases c.types.findNamed? g.name <;> simp

/-- A catalogue with two more group types, one of whose names starts with a blank. -/
def sampleSpaced : Catalogue :=
  (Step.runAll sampleNew
    [.addGroupType sampleUuid ⟨"a", " Shelf", false, false⟩,
      .addGroupType sampleUuid ⟨"b", "Éclair", false, false⟩]).2

theorem reachable_sampleSpaced : Reachable sampleSpaced :=
  reachable_sampleNew.run (Run.publicSteps .refl (by decide) (by decide +kernel))

theorem storedTypes_sampleSpaced : storedTypes sampleSpaced.tables =
    .ok (wellKnownTypes ++ [⟨"a", " Shelf", false, false⟩, ⟨"b", "Éclair", false, false⟩]) := by
  decide +kernel

theorem getGroupTypeNamed_self_sample :
    Reachable sampleSpaced ∧ sampleSpaced.getGroupTypeNamed "Éclair" =
      .ok ⟨"b", "Éclair", false, false⟩ := by
  obtain ⟨types, hTypes, hSelf⟩ := Reachable.getGroupTypeNamed_self_iff reachable_sampleSpaced
  rw [storedTypes_sampleSpaced] at hTypes
  cases hTypes
  exact ⟨reachable_sampleSpaced,
    (hSelf ⟨"b", "Éclair", false, false⟩ (by simp)).2 (by decide +kernel)⟩

/-- A type can be stored under a name that does not find it. -/
theorem getGroupTypeNamed_not_always_self :
    ¬ ∀ c, Reachable c → ∃ types, storedTypes c.tables = .ok types ∧
      ∀ g ∈ types, c.getGroupTypeNamed g.name = .ok g := by
  intro hAlways
  obtain ⟨types, hTypes, hSelf⟩ := hAlways sampleSpaced reachable_sampleSpaced
  rw [storedTypes_sampleSpaced] at hTypes
  cases hTypes
  have hMissed : sampleSpaced.getGroupTypeNamed " Shelf" ≠ .ok ⟨"a", " Shelf", false, false⟩ := by
    decide +kernel
  exact hMissed (hSelf ⟨"a", " Shelf", false, false⟩ (by simp))

end Catalogue

end Shelfmark
