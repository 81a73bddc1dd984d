import Mathlib.Data.String.Basic
import Shelfmark.Proofs.Store.TypeCache

/-!
# The index of names through any changes

Types are kept and forgotten in any order, under identifiers and names that may be
repeated and may clash. A type that takes a name turns the type that had it out of the
index, but not out of memory; when the newcomer is then renamed or forgotten, the name
leads nowhere and the type that had it first is still kept and has no name in the index.
So the index holds less than the names of the kept types, and nothing here says that a
kept type is found by its name.

What holds is told by the last change that bears on it. A change stands when all later
ones spare it: a type is kept when no later change is about its identifier, and it is
filed under its name when, besides, no later type took the name.

## Main results

* `TypeCache.Follows.changed`: one change keeps memory in step with the changes made.
* `TypeCache.follows_after`: so memory is in step after any list of changes.
* `TypeCache.findNamed?_after`: which type a look-up of a name finds, and whether it finds one.
* `TypeCache.index_after`: what the look-ups, the listing and the index hold.
-/

namespace Shelfmark

open Shelfmark.Text

/-- A change of the group types in memory. -/
inductive TypeChange where
  | keep (t : GroupType)
  | forget (uuid : String)
  deriving DecidableEq, Repr

namespace TypeChange

/-- The identifier that a change is about. -/
def uuid : TypeChange → String
  | .keep t => t.uuid
  | .forget uuid => uuid

/-- The name in lower case that a change takes for its type. -/
def key? : TypeChange → Option String
  | .keep t => some (lowercase t.name)
  | .forget _ => none

/-- Whether a change is among those made, and all later ones spare it. -/
def Stands (spares : TypeChange → Prop) (changes : List TypeChange) (change : TypeChange) :
    Prop :=
  ∃ before after, changes = before ++ change :: after ∧ ∀ later ∈ after, spares later

/-- Whether a type is the last one kept under its identifier, and not forgotten since. -/
def KeptLast (changes : List TypeChange) (g : GroupType) : Prop :=
  Stands (fun later => later.uuid ≠ g.uuid) changes (.keep g)

/-- Whether besides no type kept since has taken its name. -/
def FiledLast (changes : List TypeChange) (g : GroupType) : Prop :=
  Stands (fun later => later.uuid ≠ g.uuid ∧ later.key? ≠ some (lowercase g.name)) changes
    (.keep g)

theorem FiledLast.kept {changes : List TypeChange} {g : GroupType} (h : FiledLast changes g) :
    KeptLast changes g := by
  obtain ⟨before, after, hChanges, hAfter⟩ := h
  exact ⟨before, after, hChanges, fun later hLater => (hAfter later hLater).1⟩

theorem not_stands_nil {spares : TypeChange → Prop} {change : TypeChange} :
    ¬Stands spares [] change := by
  rintro ⟨before, after, hNil, _⟩
  simp at hNil

/-- One change more stands itself, and leaves standing what it spares. -/
theorem stands_snoc {spares : TypeChange → Prop} {changes : List TypeChange}
    {last change : TypeChange} :
    Stands spares (changes ++ [last]) change ↔
      last = change ∨ (Stands spares changes change ∧ spares last) := by
  constructor
  · rintro ⟨before, after, hChanges, hAfter⟩
    rcases List.eq_nil_or_concat' after with rfl | ⟨rest, newest, rfl⟩
    · exact Or.inl (List.singleton_inj.1 (List.append_inj' hChanges rfl).2)
    · rw [← List.cons_append, ← List.append_assoc] at hChanges
      obtain ⟨hInit, hLast⟩ := List.append_inj' hChanges rfl
      cases hLast
      exact Or.inr ⟨⟨before, rest, hInit, fun later hLater => hAfter later (by simp [hLater])⟩,
        hAfter last (by simp)⟩
  · rintro (rfl | ⟨⟨before, after, rfl, hAfter⟩, hLast⟩)
    · exact ⟨changes, [], rfl, by simp⟩
    · refine ⟨before, after ++ [last], by simp, ?_⟩
      intro later hLater
      rcases List.mem_append.1 hLater with hOld | hNew
      · exact hAfter later hOld
      · rwa [List.mem_singleton.1 hNew]

end TypeChange

namespace TypeCache

open TypeChange

/-- The cache after a change. -/
def changed (cache : TypeCache) : TypeChange → TypeCache
  | .keep t => cache.keep t
  | .forget uuid => cache.forget uuid

/-- The cache after changes made one after the other, at first with nothing kept. -/
def after (changes : List TypeChange) : TypeCache := changes.foldl changed {}

@[simp] theorem after_nil : after [] = {} := rfl

@[simp] theorem after_snoc (changes : List TypeChange) (last : TypeChange) :
    after (changes ++ [last]) = (after changes).changed last := by
  simp [after]

/-! ## What one change does -/

/-- Under each identifier is the type kept last, and each name is filed with the
identifier of the type that took it last. -/
structure Follows (cache : TypeCache) (changes : List TypeChange) : Prop where
  kept : ∀ g, g ∈ cache.kept ↔ KeptLast changes g
  uuids : (cache.kept.map GroupType.uuid).Nodup
  filed : ∀ key uuid, (key, uuid) ∈ cache.names ↔
    ∃ g, FiledLast changes g ∧ lowercase g.name = key ∧ g.uuid = uuid
  keys : (cache.names.map Prod.fst).Nodup
  owners : (cache.names.map Prod.snd).Nodup

theorem follows_nil : Follows {} [] where
  kept g := by simp [KeptLast, not_stands_nil]
  uuids := by simp
  filed key uuid := by simp [FiledLast, not_stands_nil]
  keys := by simp
  owners := by simp

private theorem mem_replaceType {g k : GroupType} {ts : List GroupType}
    (hUuids : (ts.map GroupType.uuid).Nodup) :
    k ∈ replaceType g ts ↔ k = g ∨ (k ∈ ts ∧ k.uuid ≠ g.uuid) := by
  by_cases hKnown : ∃ m ∈ ts, m.uuid = g.uuid
  · obtain ⟨m, hm, hSame⟩ := hKnown
    rw [replaceType_of_known hUuids ⟨m, hm, hSame⟩, List.mem_map]
    constructor
    · rintro ⟨n, hn, rfl⟩
      by_cases hEq : n.uuid = g.uuid
      · exact Or.inl (if_pos hEq)
      · rw [if_neg hEq]
        exact Or.inr ⟨hn, hEq⟩
    · rintro (rfl | ⟨hk, hNe⟩)
      · exact ⟨m, hm, if_pos hSame⟩
      · exact ⟨k, hk, if_neg hNe⟩
  · have hNew : ∀ m ∈ ts, m.uuid ≠ g.uuid := fun m hm hSame => hKnown ⟨m, hm, hSame⟩
    rw [replaceType_of_new hNew, List.mem_append, List.mem_singleton]
    constructor
    · rintro (hk | hk)
      · exact Or.inr ⟨hk, hNew k hk⟩
      · exact Or.inl hk
    · rintro (hk | ⟨hk, _⟩)
      · exact Or.inr hk
      · exact Or.inl hk

private theorem uuids_replaceType {g : GroupType} {ts : List GroupType}
    (hUuids : (ts.map GroupType.uuid).Nodup) :
    ((replaceType g ts).map GroupType.uuid).Nodup := by
  by_cases hKnown : ∃ m ∈ ts, m.uuid = g.uuid
  · rw [replaceType_of_known hUuids hKnown, List.map_map]
    have hSame : GroupType.uuid ∘ (fun k => if k.uuid = g.uuid then g else k) =
        GroupType.uuid := by
      funext k
      dsimp only [Function.comp_apply]
      split
      · rename_i hEq
        exact hEq.symm
      · rfl
    rwa [hSame]
  · have hNew : ∀ m ∈ ts, m.uuid ≠ g.uuid := fun m hm hSame => hKnown ⟨m, hm, hSame⟩
    rw [replaceType_of_new hNew, List.map_append, List.nodup_append]
    refine ⟨hUuids, by simp, ?_⟩
    rintro _ hOld _ hGiven rfl
    obtain ⟨m, hm, hSame⟩ := List.mem_map.1 hOld
    exact hNew m hm (hSame.trans (by simpa using hGiven))

/-- A type that is kept takes its name, from its own old name and from another type. -/
private theorem Follows.keep {cache : TypeCache} {changes : List TypeChange}
    (h : cache.Follows changes) (t : GroupType) :
    (cache.keep t).Follows (changes ++ [.keep t]) where
  kept g := by
    rw [KeptLast, stands_snoc, TypeCache.keep, mem_replaceType h.uuids, h.kept,
      TypeChange.keep.injEq, eq_comm (a := g), ne_comm]
    rfl
  uuids := uuids_replaceType h.uuids
  filed key uuid := by
    have hIndex : (key, uuid) ∈ (cache.keep t).names ↔
        (key = lowercase t.name ∧ uuid = t.uuid) ∨
          ((key, uuid) ∈ cache.names ∧ key ≠ lowercase t.name ∧ uuid ≠ t.uuid) := by
      simp [TypeCache.keep]
    rw [hIndex, h.filed]
    constructor
    · rintro (⟨rfl, rfl⟩ | ⟨⟨g, hFiled, rfl, rfl⟩, hKey, hUuid⟩)
      · exact ⟨t, stands_snoc.2 (Or.inl rfl), rfl, rfl⟩
      · refine ⟨g, stands_snoc.2 (Or.inr ⟨hFiled, hUuid.symm, ?_⟩), rfl, rfl⟩
        simpa [key?] using hKey.symm
    · rintro ⟨g, hFiled, rfl, rfl⟩
      rcases stands_snoc.1 hFiled with hLast | ⟨hFiled, hUuid, hKey⟩
      · cases hLast
        exact Or.inl ⟨rfl, rfl⟩
      · refine Or.inr ⟨⟨g, hFiled, rfl, rfl⟩, ?_, Ne.symm hUuid⟩
        simpa [key?, eq_comm] using hKey
  keys := by
    rw [TypeCache.keep, List.map_cons, List.nodup_cons]
    exact ⟨by simp, h.keys.sublist (List.filter_sublist.map Prod.fst)⟩
  owners := by
    rw [TypeCache.keep, List.map_cons, List.nodup_cons]
    exact ⟨by simp, h.owners.sublist (List.filter_sublist.map Prod.snd)⟩

/-- A type that is forgotten leaves with its name, and no other type gets the name. -/
private theorem Follows.forget {cache : TypeCache} {changes : List TypeChange}
    (h : cache.Follows changes) (uuid : String) :
    (cache.forget uuid).Follows (changes ++ [.forget uuid]) where
  kept g := by
    rw [KeptLast, stands_snoc, TypeCache.forget, List.mem_filter, h.kept, bne_iff_ne, ne_comm]
    simp only [reduceCtorEq, false_or]
    rfl
  uuids := h.uuids.sublist (List.filter_sublist.map GroupType.uuid)
  filed key other := by
    have hIndex : (key, other) ∈ (cache.forget uuid).names ↔
        (key, other) ∈ cache.names ∧ other ≠ uuid := by
      simp [TypeCache.forget]
    rw [hIndex, h.filed]
    constructor
    · rintro ⟨⟨g, hFiled, rfl, rfl⟩, hUuid⟩
      exact ⟨g, stands_snoc.2 (Or.inr ⟨hFiled, hUuid.symm, by simp [key?]⟩), rfl, rfl⟩
    · rintro ⟨g, hFiled, rfl, rfl⟩
      rcases stands_snoc.1 hFiled with hLast | ⟨hFiled, hUuid, _⟩
      · cases hLast
      · exact ⟨⟨g, hFiled, rfl, rfl⟩, Ne.symm hUuid⟩
  keys := h.keys.sublist (List.filter_sublist.map Prod.fst)
  owners := h.owners.sublist (List.filter_sublist.map Prod.snd)

/-- Memory in step with the changes made stays so through one change more. -/
theorem Follows.changed {cache : TypeCache} {changes : List TypeChange}
    (h : cache.Follows changes) (last : TypeChange) :
    (cache.changed last).Follows (changes ++ [last]) := by
  cases last with
  | keep t => exact h.keep t
  | forget uuid => exact h.forget uuid

/-- Memory is in step with any changes made to it. -/
theorem follows_after (changes : List TypeChange) : (after changes).Follows changes := by
  induction changes using List.reverseRecOn with
  | nil => exact follows_nil
  | append_singleton changes last ih =>
      rw [after_snoc]
      exact ih.changed last

/-! ## What is answered after any changes -/

/-- The listing is in the order of the names in lower case. -/
theorem all_pairwise (cache : TypeCache) :
    cache.all.Pairwise fun a b => lowercase a.name ≤ lowercase b.name := by
  have hSorted : cache.all.Pairwise fun a b =>
      (!decide (lowercase b.name < lowercase a.name)) = true := by
    refine List.pairwise_mergeSort ?_ ?_ cache.kept
    · intro a b k hab hbk
      simp only [Bool.not_eq_true', decide_eq_false_iff_not, not_lt] at hab hbk ⊢
      exact hab.trans hbk
    · intro a b
      simp only [Bool.or_eq_true, Bool.not_eq_true', decide_eq_false_iff_not, not_lt]
      exact le_total _ _
  refine hSorted.imp ?_
  intro a b hab
  simpa only [Bool.not_eq_true', decide_eq_false_iff_not, not_lt] using hab

theorem mem_all {cache : TypeCache} {g : GroupType} : g ∈ cache.all ↔ g ∈ cache.kept :=
  List.mem_mergeSort

/-- A look-up by identifier finds the type kept last under it, unless it was forgotten. -/
theorem find?_after {changes : List TypeChange} {uuid : String} {g : GroupType} :
    (after changes).find? uuid = some g ↔ KeptLast changes g ∧ g.uuid = uuid := by
  have hFollows := follows_after changes
  rw [find?, find?_key_iff hFollows.uuids, hFollows.kept]

/-- A look-up by name finds the type that took the name last, unless it was kept again or
forgotten since. -/
theorem findNamed?_after {changes : List TypeChange} {name : String} {g : GroupType} :
    (after changes).findNamed? name = some g ↔
      FiledLast changes g ∧ lowercase g.name = normalize name := by
  have hFollows := follows_after changes
  rw [findNamed?, Option.bind_eq_some_iff]
  simp only [lookup_eq_some_iff_mem hFollows.keys, hFollows.filed, find?_after]
  constructor
  · rintro ⟨uuid, ⟨filed, hFiled, hKey, rfl⟩, hKept, hUuid⟩
    -- both are kept under the identifier, so they are one type
    have hSame : some filed = some g := by
      rw [← find?_after.2 ⟨hKept, hUuid⟩]
      exact (find?_after.2 ⟨hFiled.kept, rfl⟩).symm
    cases hSame
    exact ⟨hFiled, hKey⟩
  · rintro ⟨hFiled, hKey⟩
    exact ⟨g.uuid, ⟨g, hFiled, hKey, rfl⟩, hFiled.kept, rfl⟩

/-- **The index of names never lies.** After any changes the type found under an
identifier is the one kept last under it and not forgotten since; the listing has each of
these once, in the order of their names, and their number is that of the listing; each
entry of the index belongs to such a type that has the name in lower case, no name is
entered twice and no type under two names; and what a look-up by name finds is such a
type, whose name is the one asked for. -/
theorem index_after (changes : List TypeChange) :
    (∀ uuid g, (after changes).find? uuid = some g ↔ KeptLast changes g ∧ g.uuid = uuid) ∧
    (∀ g, g ∈ (after changes).all ↔ KeptLast changes g) ∧
    ((after changes).all.map GroupType.uuid).Nodup ∧
    (after changes).all.Pairwise (fun a b => lowercase a.name ≤ lowercase b.name) ∧
    (after changes).size = (after changes).all.length ∧
    (∀ key uuid, (key, uuid) ∈ (after changes).names →
      ∃ g, KeptLast changes g ∧ g.uuid = uuid ∧ lowercase g.name = key) ∧
    ((after changes).names.map Prod.fst).Nodup ∧
    ((after changes).names.map Prod.snd).Nodup ∧
    (∀ name g, (after changes).findNamed? name = some g →
      KeptLast changes g ∧ lowercase g.name = normalize name) := by
  have hFollows := follows_after changes
  refine ⟨fun uuid g => find?_after, ?_, ?_, all_pairwise _, ?_, ?_, hFollows.keys,
    hFollows.owners, ?_⟩
  · intro g
    rw [mem_all, hFollows.kept]
  · exact ((List.mergeSort_perm _ _).map GroupType.uuid).nodup_iff.2 hFollows.uuids
  · exact (List.mergeSort_perm _ _).length_eq.symm
  · intro key uuid hEntry
    obtain ⟨g, hFiled, hKey, hUuid⟩ := (hFollows.filed key uuid).1 hEntry
    exact ⟨g, hFiled.kept, hUuid, hKey⟩
  · intro name g hFind
    obtain ⟨hFiled, hName⟩ := findNamed?_after.1 hFind
    exact ⟨hFiled.kept, hName⟩

/-- The second type takes the name of the first, which is kept on and has no name any
more, even when the second is forgotten. -/
example :
    let changes : List TypeChange :=
      [.keep ⟨"a", "Saga", true, true⟩, .keep ⟨"b", "SAGA", false, false⟩, .forget "b"]
    (after changes).findNamed? "saga" = none ∧
      (after changes).find? "a" = some ⟨"a", "Saga", true, true⟩ := by
  decide +kernel

end TypeCache

end Shelfmark
