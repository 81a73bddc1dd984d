import Shelfmark.Proofs.Catalogue.Memory
import Shelfmark.Proofs.Catalogue.Run
import Shelfmark.Proofs.Query.Selection
import Shelfmark.Proofs.Query.Sorting
import Shelfmark.Proofs.Store.TypeIndex
import Shelfmark.Proofs.Text.Lowering

/-!
# Two listings of the group types

Group types are listed from memory and found in the tables. Memory goes by the names in lower
case, whatever their letters are. The tables go by the collation of names, which only knows the
case of ASCII letters and comes to an end at a NUL character. So both list the same types, but
not in the same order: `É` comes before `é` in the tables, whatever stands behind it, and in
memory it does not.

No two names are equal in the collation, so what is found is in strict order, and identifiers,
which come next in the order of a finder, decide nothing. In memory two names may well be equal,
such as ` É` and ` é` with the blank that hides them from look-ups, and then it does not follow
from the names which type is listed first.

## Main results

* `Tables.Sound.typeKeys_nodup`: no two types have names that are equal in the collation.
* `Catalogue.Synced.exists_found`: the types that are found are in the order of the collation.
* `Catalogue.Reachable.listings_agree`: when the two listings are one, and when they are not.
* `Catalogue.listings_differ`: they are not always.
-/

namespace Shelfmark

open Shelfmark.Text

/-- What names are compared by in the tables. -/
def GroupType.key (g : GroupType) : List Nat := foldedKey g.name.toList

theorem GroupType.compareText_eq_lt_iff {a b : GroupType} :
    Collation.nocase.compareText a.name b.name = .lt ↔ a.key < b.key :=
  (compareFolded_compares _ _).eq_lt

/-! ## Names of ASCII characters -/

/-- Characters are in the order of their code points. -/
private theorem lt_of_compareChars {as bs : List Char} (h : compareChars as bs = .lt) :
    as < bs := by
  induction as generalizing bs with
  | nil =>
      cases bs with
      | nil => cases h
      | cons b bs => exact List.nil_lt_cons _ _
  | cons a as ih =>
      cases bs with
      | nil => cases h
      | cons b bs =>
          unfold compareChars at h
          rw [List.cons_lt_cons_iff]
          split at h
          · rename_i hLess
            exact Or.inl hLess
          · split at h
            · cases h
            · have hSame : a = b := by
                rw [← Char.toNat_inj]
                omega
              exact Or.inr ⟨hSame, ih h⟩

/-- Whether a text consists of ASCII characters other than NUL. -/
def IsAscii (s : String) : Prop := ∀ c ∈ s.toList, c ≠ '\x00' ∧ c.toNat < 128

instance (s : String) : Decidable (IsAscii s) := List.decidableBAll _ s.toList

/-- Of ASCII texts the collation knows all letters. -/
theorem lowercase_lt_of_compareText {s t : String} (hs : IsAscii s) (ht : IsAscii t)
    (h : Collation.nocase.compareText s t = .lt) : lowercase s < lowercase t := by
  have hNul : '\x00' ∉ s.toList := fun hIn => (hs _ hIn).1 rfl
  rw [Collation.compareText, compareFolded_eq_compareChars hNul,
    ← toList_lowercase_of_ascii fun c hc => (hs c hc).2,
    ← toList_lowercase_of_ascii fun c hc => (ht c hc).2] at h
  exact String.lt_iff_toList_lt.2 (lt_of_compareChars h)

/-! ## Types in two orders -/

/-- In a list that is in both of two orders the one keeps the other. -/
private theorem keeps_of_pairwise {α β γ : Type} [LinearOrder β] [Preorder γ] {value : α → β}
    {other : α → γ} {xs : List α} (hValue : xs.Pairwise fun a b => value a < value b)
    (hOther : xs.Pairwise fun a b => other a ≤ other b) {a b : α} (ha : a ∈ xs) (hb : b ∈ xs)
    (h : value a < value b) : other a ≤ other b := by
  induction xs with
  | nil => cases ha
  | cons x xs ih =>
      obtain ⟨hBefore, hValues⟩ := List.pairwise_cons.1 hValue
      obtain ⟨hKept, hOthers⟩ := List.pairwise_cons.1 hOther
      rcases List.mem_cons.1 ha with rfl | haRest
      · rcases List.mem_cons.1 hb with rfl | hbRest
        · exact absurd h (lt_irrefl _)
        · exact hKept b hbRest
      · rcases List.mem_cons.1 hb with rfl | hbRest
        · exact absurd h (lt_asymm (hBefore a haRest))
        · exact ih hValues hOthers haRest hbRest

namespace TypeCache

variable {cache : TypeCache} {found : List GroupType}

/-- Types in the order of the collation are as memory lists them, if lower case keeps the order. -/
theorem all_eq_of_alike (hPerm : found.Perm cache.all)
    (hKeys : found.Pairwise fun a b => a.key < b.key)
    (hAlike : ∀ a ∈ found, ∀ b ∈ found, a.key < b.key → lowercase a.name < lowercase b.name) :
    cache.all = found := by
  have hLower : found.Pairwise fun a b => lowercase a.name < lowercase b.name :=
    hKeys.imp_of_mem fun ha hb hLess => hAlike _ ha _ hb hLess
  have hNodup : (found.map fun g => lowercase g.name).Nodup :=
    List.pairwise_map.2 (hLower.imp ne_of_lt)
  refine List.Perm.eq_of_pairwise ?_ cache.all_pairwise (hLower.imp le_of_lt) hPerm.symm
  intro a b ha hb hab hba
  exact List.inj_on_of_nodup_map hNodup (hPerm.mem_iff.2 ha) hb (le_antisymm hab hba)

/-- They are not if it turns two names round. -/
theorem all_ne_of_turned (hKeys : found.Pairwise fun a b => a.key < b.key) {a b : GroupType}
    (ha : a ∈ found) (hb : b ∈ found) (hLess : a.key < b.key)
    (hTurned : lowercase b.name < lowercase a.name) : cache.all ≠ found := by
  rintro rfl
  exact absurd hTurned (not_lt_of_ge (keeps_of_pairwise hKeys cache.all_pairwise ha hb hLess))

end TypeCache

/-! ## Types that are found -/

namespace Tables

variable {t : Tables}

/-- No two types have names that are equal in the collation. -/
theorem Sound.typeKeys_nodup (h : t.Sound) :
    (t.groupTypes.map fun row => row.toGroupType.key).Nodup := by
  have hUnique : t.groupTypes.Pairwise fun a b => Kind.groupType.agree ["name"] a b = false :=
    h.unique .groupType ["name"] (by decide)
  refine List.pairwise_map.2 (hUnique.imp_of_mem ?_)
  intro a b ha hb hApart hSame
  have hOrder : compareFolded a.toGroupType.name.toList b.toGroupType.name.toList = .eq :=
    (compareFolded_compares _ _).eq_eq.2 hSame
  have hAgree : Kind.groupType.agree ["name"] a b = true := by
    simp [Kind.agree, (h.type_row ha).name_groupType, (h.type_row hb).name_groupType, Cell.equals,
      Cell.isNull, Cell.order, Kind.collation, Collation.compareText, hOrder]
  rw [hAgree] at hApart
  cases hApart

/-- By name, then by identifier. -/
def typeSortKeys : List SortKey :=
  [{ column := ⟨.self, "name", .nocase⟩, nocase := true, direction := some .ascending },
    { column := ⟨.self, "uuid", .binary⟩ }]

/-- The identifiers decide nothing, because the names do. -/
theorem Sound.compareHits_types_eq_gt_iff (h : t.Sound) {a b : Row} (ha : a ∈ t.groupTypes)
    (hb : b ∈ t.groupTypes) :
    compareHits t typeSortKeys (Kind.groupType.view a) (Kind.groupType.view b) = .gt ↔
      b.toGroupType.key < a.toGroupType.key := by
  have hNames : compareHits t typeSortKeys (Kind.groupType.view a) (Kind.groupType.view b) =
      ((a.cell .groupType "name").order .nocase (b.cell .groupType "name")).then
        (((a.cell .groupType "uuid").order .binary (b.cell .groupType "uuid")).then .eq) := rfl
  rw [hNames, (h.type_row ha).name_groupType, (h.type_row hb).name_groupType,
    (h.type_row ha).cell_groupType.1, (h.type_row hb).cell_groupType.1, Ordering.then_eq_gt]
  have hCompares := compareFolded_compares a.toGroupType.name.toList b.toGroupType.name.toList
  refine ⟨?_, fun hLess => Or.inl (hCompares.eq_gt.2 hLess)⟩
  rintro (hGreater | ⟨hSame, hUuids⟩)
  · exact hCompares.eq_gt.1 hGreater
  · obtain rfl := List.inj_on_of_nodup_map h.typeKeys_nodup ha hb (hCompares.eq_eq.1 hSame)
    have hSelf : compareChars a.toGroupType.uuid.toList a.toGroupType.uuid.toList = .eq :=
      (compareChars_eq_iff _ _).2 rfl
    simp [Cell.order, Collation.compareText, hSelf] at hUuids

end Tables

namespace Catalogue

variable {c : Catalogue}

/-- The types that are found are those that memory lists, in the order of the collation. -/
theorem Synced.exists_found (h : c.Synced) :
    ∃ found, c.find GroupType none {} = .ok found ∧ found.Perm c.groupTypes ∧
      found.Pairwise fun a b => a.key < b.key := by
  have hSound := h.sound
  have hKeys : (Scope.records .groupType).sortKeys 0 none (.preferred .ascending) =
      .ok Tables.typeSortKeys := by decide
  have hAll : (c.tables.groupTypes.filter fun row =>
      satisfies c.tables none (Kind.groupType.view row)) = c.tables.groupTypes :=
    List.filter_eq_self.2 fun _ _ => rfl
  have hSelect : c.tables.select (.records .groupType) none none {} Kind.groupType.view
      c.tables.groupTypes = .ok (sortBy c.tables Tables.typeSortKeys Kind.groupType.view
        c.tables.groupTypes) := by
    rw [Tables.select_unpaged rfl rfl hKeys, hAll]
  generalize hSorted : sortBy c.tables Tables.typeSortKeys Kind.groupType.view
    c.tables.groupTypes = rows at hSelect
  have hPerm : rows.Perm c.tables.groupTypes := hSorted ▸ sortBy_perm _ _ _ _
  have hOrder : rows.Pairwise fun a b => a.toGroupType.key ≤ b.toGroupType.key := by
    rw [← hSorted]
    exact sortBy_pairwise_of_value (fun row => row.toGroupType.key)
      fun a ha b hb => hSound.compareHits_types_eq_gt_iff ha hb
  have hApart : rows.Pairwise fun a b => a.toGroupType.key ≠ b.toGroupType.key :=
    List.pairwise_map.1 ((hPerm.map _).nodup_iff.2 hSound.typeKeys_nodup)
  refine ⟨rows.map Row.toGroupType, ?_, (hPerm.map _).trans h.groupTypes_perm_types.symm, ?_⟩
  · have hRead := readRows_groupType
      (fun row hRow => hSound.type_row (hPerm.mem_iff.1 hRow)) c.types
    unfold find
    dsimp only [Storable.kind, Tables.rows]
    rw [hSelect]
    exact hRead
  · exact List.pairwise_map.2 ((hOrder.and hApart).imp fun hBoth => lt_of_le_of_ne hBoth.1 hBoth.2)

/-- **When the two listings of the group types are one.** In every catalogue that can come about
the types that memory lists and those that are found are the same. What is found is in the
strict order of the collation, and what memory lists is in the order of lower case. Where lower
case keeps the order of the collation on the names that are stored, the listings are one; so they
are where the names consist of ASCII characters other than NUL. Where it turns the order of two
names round, the listings differ. -/
theorem Reachable.listings_agree (h : Reachable c) :
    ∃ found, c.find GroupType none {} = .ok found ∧
      found.Perm c.groupTypes ∧
      found.Pairwise (fun a b => Collation.nocase.compareText a.name b.name = .lt) ∧
      c.groupTypes.Pairwise (fun a b => lowercase a.name ≤ lowercase b.name) ∧
      ((∀ a ∈ c.groupTypes, ∀ b ∈ c.groupTypes,
          Collation.nocase.compareText a.name b.name = .lt → lowercase a.name < lowercase b.name) →
        c.groupTypes = found) ∧
      ((∀ g ∈ c.groupTypes, IsAscii g.name) → c.groupTypes = found) ∧
      ((∃ a ∈ c.groupTypes, ∃ b ∈ c.groupTypes,
          Collation.nocase.compareText a.name b.name = .lt ∧ lowercase b.name < lowercase a.name) →
        c.groupTypes ≠ found) := by
  obtain ⟨found, hFind, hPerm, hKeys⟩ := h.inv.synced.exists_found
  have hOne : (∀ a ∈ c.groupTypes, ∀ b ∈ c.groupTypes,
      Collation.nocase.compareText a.name b.name = .lt → lowercase a.name < lowercase b.name) →
        c.groupTypes = found := by
    intro hAlike
    refine TypeCache.all_eq_of_alike hPerm hKeys fun a ha b hb hLess => ?_
    exact hAlike a (hPerm.mem_iff.1 ha) b (hPerm.mem_iff.1 hb)
      (GroupType.compareText_eq_lt_iff.2 hLess)
  refine ⟨found, hFind, hPerm, hKeys.imp GroupType.compareText_eq_lt_iff.2, c.types.all_pairwise,
    hOne, fun hAscii => hOne fun a ha b hb => ?_, ?_⟩
  · exact lowercase_lt_of_compareText (hAscii a ha) (hAscii b hb)
  · rintro ⟨a, ha, b, hb, hLess, hTurned⟩
    exact TypeCache.all_ne_of_turned hKeys (hPerm.mem_iff.2 ha) (hPerm.mem_iff.2 hb)
      (GroupType.compareText_eq_lt_iff.1 hLess) hTurned

/-- A catalogue with two types more, one with a small letter and one with a capital. -/
def sampleShelves : Catalogue :=
  (Step.runAll sampleNew
    [.addGroupType sampleUuid ⟨"l", "legend", false, false⟩,
      .addGroupType sampleUuid ⟨"m", "Myth", false, false⟩]).2

theorem reachable_sampleShelves : Reachable sampleShelves :=
  reachable_sampleNew.run (Run.publicSteps .refl (by decide) (by decide +kernel))

/-- All names are ASCII texts, so the types are found as memory lists them. -/
theorem listings_agree_sample :
    Reachable sampleShelves ∧
      sampleShelves.tables.types.map GroupType.name =
        ["Tag", "Series", "Category", "Language", "legend", "Myth"] ∧
      (∀ g ∈ sampleShelves.groupTypes, IsAscii g.name) ∧
      sampleShelves.find GroupType none {} = .ok sampleShelves.groupTypes := by
  have hPerm := reachable_sampleShelves.inv.synced.groupTypes_perm_types
  have hNames : sampleShelves.tables.types.map GroupType.name =
      ["Tag", "Series", "Category", "Language", "legend", "Myth"] := by decide +kernel
  have hStored : ∀ name ∈ sampleShelves.tables.types.map GroupType.name, IsAscii name := by
    rw [hNames]
    decide +kernel
  have hAscii : ∀ g ∈ sampleShelves.groupTypes, IsAscii g.name := fun g hg =>
    hStored g.name (List.mem_map_of_mem (hPerm.mem_iff.1 hg))
  obtain ⟨found, hFind, -, -, -, -, hOne, -⟩ :=
    Reachable.listings_agree reachable_sampleShelves
  refine ⟨reachable_sampleShelves, hNames, hAscii, ?_⟩
  rw [hFind, hOne hAscii]

/-- Two types that memory and tables do not list in one order. -/
def sampleAccents : Catalogue :=
  (Step.runAll sampleNew
    [.addGroupType sampleUuid ⟨"a", "Éb", false, false⟩,
      .addGroupType sampleUuid ⟨"b", "éa", false, false⟩]).2

theorem reachable_sampleAccents : Reachable sampleAccents :=
  reachable_sampleNew.run (Run.publicSteps .refl (by decide) (by decide +kernel))

/-- **The listings are not always one.** -/
theorem listings_differ :
    ¬ ∀ c, Reachable c → ∃ found, c.find GroupType none {} = .ok found ∧ c.groupTypes = found := by
  intro hAlways
  have hSynced := reachable_sampleAccents.inv.synced
  obtain ⟨found, hFind, hPerm, hKeys⟩ := hSynced.exists_found
  obtain ⟨_, hSame, hListed⟩ := hAlways sampleAccents reachable_sampleAccents
  obtain rfl := Except.ok.inj (hFind.symm.trans hSame)
  have hAdded : sampleAccents.tables.types.drop 4 =
      [⟨"a", "Éb", false, false⟩, ⟨"b", "éa", false, false⟩] := by decide +kernel
  have hStored : ∀ g ∈ sampleAccents.tables.types.drop 4, g ∈ found := fun g hg =>
    (hPerm.trans hSynced.groupTypes_perm_types).mem_iff.2 (List.mem_of_mem_drop hg)
  rw [hAdded] at hStored
  have hCapital : (⟨"a", "Éb", false, false⟩ : GroupType) ∈ found := hStored _ (by simp)
  have hSmall : (⟨"b", "éa", false, false⟩ : GroupType) ∈ found := hStored _ (by simp)
  exact TypeCache.all_ne_of_turned hKeys hCapital hSmall (by decide +kernel) (by decide +kernel)
    hListed

end Catalogue

end Shelfmark
