import Shelfmark.Proofs.Answers
import Shelfmark.Proofs.Text.Normal
import Shelfmark.Store.TypeCache

/-!
# What the group types in memory answer

A cache mirrors a list of group types when it keeps just these, in their order, and when
a look-up by name leads to the one that has the name. The index of names may hold more
than that: a name with blanks around it stands in the index under a key that no look-up
asks for, so the index is only described at the keys of look-ups.

Keeping a type and forgetting one change the mirrored list in one place, provided that
no two types answer to one name. Two caches that mirror the same list answer alike.

## Main results

* `TypeCache.Mirrors.keep_new`, `TypeCache.Mirrors.keep_known`, `TypeCache.Mirrors.forget`
* `TypeCache.mirrors_ofTypes`: a cache loaded from a list mirrors it.
* `TypeCache.Mirrors.find?_eq_some_iff`, `TypeCache.Mirrors.findNamed?_eq_some_iff`
-/

namespace Shelfmark

open Shelfmark.Text

/-- Whether a look-up of a name asks for the type. -/
def GroupType.answersTo (g : GroupType) (name : String) : Bool :=
  lowercase g.name = normalize name

/-- Whether no look-up of a name asks for two of the types. -/
def DistinctNames (ts : List GroupType) : Prop :=
  ∀ a ∈ ts, ∀ b ∈ ts, ∀ name, a.answersTo name = true → b.answersTo name = true → a.uuid = b.uuid

theorem GroupType.answersTo_iff {g : GroupType} {name : String} :
    g.answersTo name = true ↔ lowercase g.name = normalize name := by
  simp [answersTo]

/-- A type that answers to some name answers to its own. -/
theorem GroupType.answersTo_self {g : GroupType} {name : String}
    (h : g.answersTo name = true) : normalize g.name = normalize name := by
  rw [answersTo_iff] at h
  exact (normalize_of_lowercase_eq h).trans h

namespace TypeCache

/-! ## Mirroring a list -/

/-- Whether the cache keeps just these types, and a look-up by name leads to the one
that it asks for. -/
structure Mirrors (cache : TypeCache) (ts : List GroupType) : Prop where
  kept : cache.kept = ts
  keys : (cache.names.map Prod.fst).Nodup
  named : ∀ name uuid, (normalize name, uuid) ∈ cache.names ↔
    ∃ g ∈ ts, g.answersTo name = true ∧ g.uuid = uuid

theorem mirrors_nil : Mirrors {} [] := ⟨rfl, by simp, by simp⟩

/-- The name under which a type is filed leads to it alone, so the types have distinct
names. -/
theorem Mirrors.distinctNames {cache : TypeCache} {ts : List GroupType} (h : cache.Mirrors ts) :
    DistinctNames ts := by
  intro a ha b hb name hNameA hNameB
  have hA := (h.named name a.uuid).2 ⟨a, ha, hNameA, rfl⟩
  have hB := (h.named name b.uuid).2 ⟨b, hb, hNameB, rfl⟩
  rw [← lookup_eq_some_iff_mem h.keys] at hA hB
  exact Option.some.inj (hA.symm.trans hB)

theorem Mirrors.find?_eq {cache : TypeCache} {ts : List GroupType} (h : cache.Mirrors ts)
    (uuid : String) : cache.find? uuid = ts.find? fun g => g.uuid = uuid := by
  rw [find?, h.kept]

/-- A type is found under its identifier. -/
theorem Mirrors.find?_eq_some_iff {cache : TypeCache} {ts : List GroupType}
    (h : cache.Mirrors ts) (hUuids : (ts.map GroupType.uuid).Nodup) {uuid : String}
    {g : GroupType} : cache.find? uuid = some g ↔ g ∈ ts ∧ g.uuid = uuid := by
  rw [h.find?_eq]
  exact find?_key_iff hUuids

theorem Mirrors.find?_eq_none_iff {cache : TypeCache} {ts : List GroupType}
    (h : cache.Mirrors ts) {uuid : String} :
    cache.find? uuid = none ↔ ∀ g ∈ ts, g.uuid ≠ uuid := by
  rw [h.find?_eq]
  simp

/-- A type is found under every name that asks for it, and under no other. -/
theorem Mirrors.findNamed?_eq_some_iff {cache : TypeCache} {ts : List GroupType}
    (h : cache.Mirrors ts) (hUuids : (ts.map GroupType.uuid).Nodup) {name : String}
    {g : GroupType} : cache.findNamed? name = some g ↔ g ∈ ts ∧ g.answersTo name = true := by
  unfold findNamed?
  rw [Option.bind_eq_some_iff]
  simp only [lookup_eq_some_iff_mem h.keys, h.named, h.find?_eq_some_iff hUuids]
  constructor
  · rintro ⟨uuid, ⟨a, ha, hName, rfl⟩, hg, hUuid⟩
    rw [← List.inj_on_of_nodup_map hUuids ha hg hUuid.symm]
    exact ⟨ha, hName⟩
  · rintro ⟨hg, hName⟩
    exact ⟨g.uuid, ⟨g, hg, hName, rfl⟩, hg, rfl⟩

/-- Caches that mirror the same list cannot be told apart by look-ups. -/
theorem Mirrors.findNamed?_eq {cache other : TypeCache} {ts : List GroupType}
    (h : cache.Mirrors ts) (hOther : other.Mirrors ts) (hUuids : (ts.map GroupType.uuid).Nodup)
    (name : String) : cache.findNamed? name = other.findNamed? name := by
  refine Option.ext fun g => ?_
  rw [h.findNamed?_eq_some_iff hUuids, hOther.findNamed?_eq_some_iff hUuids]

/-! ## Keeping and forgetting -/

theorem replaceType_of_new {g : GroupType} {ts : List GroupType}
    (hNew : ∀ k ∈ ts, k.uuid ≠ g.uuid) : replaceType g ts = ts ++ [g] := by
  induction ts with
  | nil => rfl
  | cons k rest ih =>
      rw [replaceType, if_neg (hNew k (by simp)), ih fun m hm => hNew m (by simp [hm])]
      rfl

theorem replaceType_of_known {g : GroupType} {ts : List GroupType}
    (hUuids : (ts.map GroupType.uuid).Nodup) (hKnown : ∃ k ∈ ts, k.uuid = g.uuid) :
    replaceType g ts = ts.map fun k => if k.uuid = g.uuid then g else k := by
  induction ts with
  | nil => simp at hKnown
  | cons k rest ih =>
      rw [List.map_cons, List.nodup_cons] at hUuids
      rw [replaceType, List.map_cons]
      split
      · rename_i hHere
        congr 1
        refine (List.map_id rest).symm.trans (List.map_congr_left fun m hm => ?_)
        have hNe : m.uuid ≠ g.uuid := by
          intro hEq
          exact hUuids.1 (List.mem_map.2 ⟨m, hm, hEq.trans hHere.symm⟩)
        rw [if_neg hNe]
        rfl
      · rename_i hElse
        obtain ⟨m, hm, hEq⟩ := hKnown
        have hRest : m ∈ rest := by
          rcases List.mem_cons.1 hm with rfl | hRest
          · exact absurd hEq hElse
          · exact hRest
        rw [ih hUuids.2 ⟨m, hRest, hEq⟩]

private theorem keys_filter {names : List (String × String)} (h : (names.map Prod.fst).Nodup)
    (p : String × String → Bool) : ((names.filter p).map Prod.fst).Nodup :=
  h.sublist (List.filter_sublist.map Prod.fst)

/-- Whatever list is kept with a type put in, the index follows it, provided that no
other type answers to the name. -/
private theorem mirrors_keep {cache : TypeCache} {ts ts' : List GroupType} {g : GroupType}
    (h : cache.Mirrors ts) (hKept : replaceType g ts = ts')
    (hMem : ∀ k, k ∈ ts' ↔ k = g ∨ (k ∈ ts ∧ k.uuid ≠ g.uuid))
    (hFree : ∀ k ∈ ts, k.uuid ≠ g.uuid → ∀ name, g.answersTo name = true →
      k.answersTo name = false) : (cache.keep g).Mirrors ts' := by
  refine ⟨by rw [← hKept, ← h.kept]; rfl, ?_, ?_⟩
  · rw [keep, List.map_cons, List.nodup_cons]
    refine ⟨?_, keys_filter h.keys _⟩
    simp
  · intro name uuid
    have hIndex : (normalize name, uuid) ∈ (cache.keep g).names ↔
        (g.answersTo name = true ∧ uuid = g.uuid) ∨
          ((normalize name, uuid) ∈ cache.names ∧ g.answersTo name = false ∧ uuid ≠ g.uuid) := by
      rw [← Bool.not_eq_true, GroupType.answersTo_iff, eq_comm (a := lowercase g.name)]
      simp [keep]
    rw [hIndex, h.named]
    constructor
    · rintro (⟨hName, rfl⟩ | ⟨⟨k, hk, hName, rfl⟩, _, hNe⟩)
      · exact ⟨g, (hMem g).2 (Or.inl rfl), hName, rfl⟩
      · exact ⟨k, (hMem k).2 (Or.inr ⟨hk, hNe⟩), hName, rfl⟩
    · rintro ⟨k, hk, hName, rfl⟩
      rcases (hMem k).1 hk with rfl | ⟨hOld, hNe⟩
      · exact Or.inl ⟨hName, rfl⟩
      · refine Or.inr ⟨⟨k, hOld, hName, rfl⟩, ?_, hNe⟩
        rw [← Bool.not_eq_true]
        intro hClash
        rw [hFree k hOld hNe name hClash] at hName
        cases hName

/-- A new type whose name is free joins the end of the list. -/
theorem Mirrors.keep_new {cache : TypeCache} {ts : List GroupType} {g : GroupType}
    (h : cache.Mirrors ts) (hNew : ∀ k ∈ ts, k.uuid ≠ g.uuid)
    (hFree : ∀ k ∈ ts, ∀ name, g.answersTo name = true → k.answersTo name = false) :
    (cache.keep g).Mirrors (ts ++ [g]) := by
  refine mirrors_keep h (replaceType_of_new hNew) ?_ fun k hk _ => hFree k hk
  intro k
  rw [List.mem_append, List.mem_singleton]
  constructor
  · rintro (hk | hk)
    · exact Or.inr ⟨hk, hNew k hk⟩
    · exact Or.inl hk
  · rintro (hk | ⟨hk, _⟩)
    · exact Or.inr hk
    · exact Or.inl hk

/-- A changed type whose name is free takes the place of the old one. -/
theorem Mirrors.keep_known {cache : TypeCache} {ts : List GroupType} {g : GroupType}
    (h : cache.Mirrors ts) (hUuids : (ts.map GroupType.uuid).Nodup)
    (hKnown : ∃ k ∈ ts, k.uuid = g.uuid)
    (hFree : ∀ k ∈ ts, k.uuid ≠ g.uuid → ∀ name, g.answersTo name = true →
      k.answersTo name = false) :
    (cache.keep g).Mirrors (ts.map fun k => if k.uuid = g.uuid then g else k) := by
  refine mirrors_keep h (replaceType_of_known hUuids hKnown) ?_ hFree
  intro k
  rw [List.mem_map]
  constructor
  · rintro ⟨m, hm, rfl⟩
    by_cases hEq : m.uuid = g.uuid
    · exact Or.inl (if_pos hEq)
    · rw [if_neg hEq]
      exact Or.inr ⟨hm, hEq⟩
  · rintro (rfl | ⟨hk, hNe⟩)
    · obtain ⟨m, hm, hEq⟩ := hKnown
      exact ⟨m, hm, if_pos hEq⟩
    · exact ⟨k, hk, if_neg hNe⟩

/-- A forgotten type leaves the list. -/
theorem Mirrors.forget {cache : TypeCache} {ts : List GroupType} (h : cache.Mirrors ts)
    (uuid : String) : (cache.forget uuid).Mirrors (ts.filter fun g => g.uuid != uuid) := by
  refine ⟨by rw [TypeCache.forget, h.kept], keys_filter h.keys _, ?_⟩
  intro name other
  have hIndex : (normalize name, other) ∈ (cache.forget uuid).names ↔
      (normalize name, other) ∈ cache.names ∧ other ≠ uuid := by
    simp [TypeCache.forget]
  rw [hIndex, h.named]
  constructor
  · rintro ⟨⟨g, hg, hName, rfl⟩, hNe⟩
    exact ⟨g, List.mem_filter.2 ⟨hg, by simpa using hNe⟩, hName, rfl⟩
  · rintro ⟨g, hg, hName, rfl⟩
    obtain ⟨hOld, hNe⟩ := List.mem_filter.1 hg
    exact ⟨⟨g, hOld, hName, rfl⟩, by simpa using hNe⟩

/-! ## Loading -/

private theorem mirrors_foldl {cache : TypeCache} {ts rest : List GroupType}
    (h : cache.Mirrors ts) (hUuids : ((ts ++ rest).map GroupType.uuid).Nodup)
    (hNames : DistinctNames (ts ++ rest)) : (rest.foldl keep cache).Mirrors (ts ++ rest) := by
  induction rest generalizing cache ts with
  | nil => simpa using h
  | cons g rest ih =>
      have hSplit : ts ++ g :: rest = (ts ++ [g]) ++ rest := by simp
      have hNew : ∀ k ∈ ts, k.uuid ≠ g.uuid := by
        intro k hk
        rw [List.map_append, List.nodup_append] at hUuids
        exact hUuids.2.2 k.uuid (List.mem_map_of_mem hk) g.uuid (by simp)
      rw [hSplit] at hUuids hNames ⊢
      refine ih (h.keep_new hNew ?_) hUuids hNames
      intro k hk name hName
      rw [← Bool.not_eq_true]
      intro hClash
      exact hNew k hk (hNames k (by simp [hk]) g (by simp) name hClash hName)

/-- A cache loaded from types with distinct identifiers and names mirrors them. -/
theorem mirrors_ofTypes {ts : List GroupType} (hUuids : (ts.map GroupType.uuid).Nodup)
    (hNames : DistinctNames ts) : (ofTypes ts).Mirrors ts :=
  mirrors_foldl mirrors_nil hUuids hNames

end TypeCache

end Shelfmark
