import Shelfmark.Proofs.Catalogue.Finder
import Shelfmark.Proofs.Query.Sorting

/-!
# Finders answer in order

A finder without a page answers with the records of just those hits that satisfy the
criterion, in the order that it was asked for: every one precedes all that come after it.
The order is strict and total on what the finder looks at, so the answer is determined by
what is stored: `Reachable.answers_sorted`.

What is added here to sorting is that finders look at rows of the tables, which are told
apart by their keys and links.
-/

namespace Shelfmark

/-! ## What is looked at -/

/-- What a scope looks at: a row of its kind, or a link row with the row it leads to. -/
inductive Scope.Looks (t : Tables) : Scope → Hit → Prop where
  | record {kind : Kind} {row : Row} (hRow : row ∈ t.rows kind) :
      Looks t (.records kind) (kind.view row)
  | linked {kind link : Kind} {pair : Row × Row} (hLink : pair.1 ∈ t.rows link)
      (hRow : pair.2 ∈ t.rows kind) : Looks t (.linked kind link) (kind.viewLinked link pair)

namespace Scope.Looks

variable {t : Tables} {scope : Scope} {hit : Hit}

theorem sees (h : scope.Looks t hit) :
    (Env.ofHit hit).Sees (.records scope.kind) scope.self scope.link hit := by
  cases h with
  | record _ => exact ⟨rfl, rfl, rfl⟩
  | linked _ _ => exact ⟨rfl, rfl, ⟨_, rfl, rfl, rfl⟩⟩

theorem within (h : scope.Looks t hit) : hit.Within t := by
  cases h with
  | record hRow =>
      exact ⟨List.mem_map_of_mem hRow, by simp [Kind.view]⟩
  | linked hLink hRow =>
      refine ⟨List.mem_map_of_mem hRow, fun x hx => ?_⟩
      cases hx
      exact List.mem_map_of_mem hLink

private theorem row_of_keyValue (hSound : t.Sound) {kind : Kind} {a b : Row} (ha : a ∈ t.rows kind)
    (hb : b ∈ t.rows kind) (h : (a.key kind).sortValue .binary = (b.key kind).sortValue .binary) :
    a = b := by
  have hKey := Cell.sortValue_injective (Tables.plain_cell (hSound.fits kind a ha) kind.keyColumn)
    (Tables.plain_cell (hSound.fits kind b hb) kind.keyColumn) h
  exact List.inj_on_of_nodup_map (hSound.keys_nodup kind) ha hb hKey

/-- What a scope looks at is told apart by keys and links. -/
theorem apart (hSound : t.Sound) {a b : Hit} (ha : scope.Looks t a) (hb : scope.Looks t b)
    (hKey : a.keyValue = b.keyValue) (hLink : a.linkValue = b.linkValue) : a = b := by
  cases ha with
  | record hRowA =>
      cases hb with
      | record hRowB => rw [row_of_keyValue hSound hRowA hRowB hKey]
  | linked hLinkA hRowA =>
      cases hb with
      | linked hLinkB hRowB =>
          have hId := Int64.toInt_inj.1 (SortValue.number_strictMono.injective hLink)
          rw [Kind.viewLinked, Kind.viewLinked, row_of_keyValue hSound hRowA hRowB hKey,
            hSound.id_injective _ hLinkA hLinkB hId]

end Scope.Looks

namespace Finder

variable {c : Catalogue} {f : Finder}

theorem looks {hit : Hit} (hHit : hit ∈ f.hits c) : f.scope.Looks c.tables hit := by
  have hLinked : ∀ {kind link : Kind} {reference : String} {resource : Cell},
      hit ∈ (Summary.linked c.tables link kind reference resource).map (kind.viewLinked link) →
        (Scope.linked kind link).Looks c.tables hit := fun hIn => by
    obtain ⟨pair, hPair, rfl⟩ := List.mem_map.1 hIn
    obtain ⟨hLink, hRow⟩ := Tables.mem_of_mem_linked hPair
    exact .linked hLink hRow
  cases f with
  | relatedPersons resource => exact hLinked hHit
  | relatedGroups resource => exact hLinked hHit
  | relatedObjects resource =>
      obtain ⟨row, hRow, rfl⟩ := List.mem_map.1 hHit
      exact .record (List.mem_filter.1 hRow).1
  | _ =>
      obtain ⟨row, hRow, rfl⟩ := List.mem_map.1 hHit
      exact .record hRow

theorem view_injective (kind : Kind) : Function.Injective kind.view := fun a b h => by
  cases h
  rfl

theorem viewLinked_injective (kind link : Kind) : Function.Injective (kind.viewLinked link) :=
  fun a b h => by
    obtain ⟨_, _⟩ := a
    cases h
    rfl

/-- A finder looks at nothing twice. -/
theorem hits_nodup (hSound : c.tables.Sound) (f : Finder) : (f.hits c).Nodup := by
  have hRows : ∀ kind, (c.tables.rows kind).Nodup := fun kind => (hSound.ids kind).of_map
  have hLinked : ∀ (link : Kind) {kind : Kind} (_ : kind.keyColumn = "uuid") (reference : String)
      (resource : Cell),
      ((Summary.linked c.tables link kind reference resource).map (kind.viewLinked link)).Nodup :=
    fun link kind hKey reference resource =>
      (((hRows link).sublist (hSound.links_sublist link hKey reference resource)).of_map).map
        (viewLinked_injective kind link)
  cases f with
  | relatedPersons resource => exact hLinked .personRelation rfl _ _
  | relatedGroups resource => exact hLinked .groupRelation rfl _ _
  | relatedObjects resource => exact ((hRows .objectRelation).filter _).map (view_injective _)
  | resources | amalgams => exact (hRows .resource).map (view_injective _)
  | persons => exact (hRows .person).map (view_injective _)
  | groups => exact (hRows .group).map (view_injective _)
  | groupTypes => exact (hRows .groupType).map (view_injective _)
  | objects => exact (hRows .objectRelation).map (view_injective _)

/-! ## What is sorted by -/

/-- What a finder sorts by in its natural order. -/
def natural : Finder → SortSubject
  | resources => .property "titleSort"
  | persons => .property "nameSort"
  | groups => .property "titleSort"
  | groupTypes => .property "name"
  | objects => .property "tag"
  | amalgams => .property "titleSort"
  | relatedObjects _ => .relation
  | relatedPersons _ => .relation
  | relatedGroups _ => .relation

/-- What a finder sorts by in an order. -/
def subjects (f : Finder) : SortOrder → List (SortSubject × Direction)
  | .preferred direction => [(f.natural, direction)]
  | .byKeys keys => keys.map fun p => (.property p.1, p.2)

/-- The declared column tells the order in which records were related. -/
private theorem tells_declared (hSound : c.tables.Sound) (hNul : c.tables.NulFree) {column : Column}
    (hDeclared : f.declared = some column) (direction : Direction) {hit : Hit}
    (h : f.scope.Looks c.tables hit) :
    ({ column := column, direction := some direction } : SortKey).Tells c.tables f.natural hit := by
  have hRow := Source.nulFree_of_mem hSound hNul h.within.target
  have hPlain := (h.within.plain hSound).target
  cases f <;> cases hDeclared
  case relatedObjects resource =>
    cases h with
    | record _ => exact ⟨fun _ => Iff.rfl, hPlain "id", hRow "id"⟩
  all_goals
    cases h with
    | linked _ _ => exact ⟨fun _ => Iff.rfl, rfl, rfl⟩

/-- **The compiled keys of a finder tell what it sorts by, and the last ones end the order.** -/
theorem tells_of_sortKeys (hSound : c.tables.Sound) (hNul : c.tables.NulFree)
    (hNumbered : c.tables.Numbered) {order : SortOrder} {used : Nat} {keys : List SortKey}
    (hKeys : f.scope.sortKeys used f.declared order = .ok keys) :
    ∃ first, keys = first ++ f.scope.lastKeys ∧
      List.Forall₂ (fun key p => key.direction = some p.2 ∧
        ∀ hit, f.scope.Looks c.tables hit → key.Tells c.tables p.1 hit) first (f.subjects order) := by
  obtain ⟨first, hFirst, rfl⟩ := exists_of_map_ok hKeys
  refine ⟨first, rfl, ?_⟩
  have hProperties : ∀ properties, f.scope.propertyKeys used [] properties = .ok first →
      List.Forall₂ (fun key p => key.direction = some p.2 ∧
        ∀ hit, f.scope.Looks c.tables hit → key.Tells c.tables p.1 hit) first
        (properties.map fun p => (SortSubject.property p.1, p.2)) := fun properties hOk => by
    rw [List.forall₂_map_right_iff]
    exact (Scope.tells_of_propertyKeys hSound hNul hNumbered hOk).imp fun _ _ h =>
      ⟨h.1, fun hit hLooks => h.2 hit hLooks.sees hLooks.within⟩
  cases order with
  | byKeys properties => exact hProperties properties hFirst
  | preferred direction =>
      cases hDeclared : f.declared with
      | some column =>
          rw [hDeclared] at hFirst
          cases hFirst
          exact .cons ⟨rfl, fun hit hLooks => tells_declared hSound hNul hDeclared direction hLooks⟩
            .nil
      | none =>
          rw [hDeclared] at hFirst
          have hNatural := hProperties _ hFirst
          cases f <;> first | exact hNatural | cases hDeclared

/-! ## What is found, in order -/

/-- What a finder sorts by counts for one value in everything it looks at. -/
theorem valued (hSound : c.tables.Sound) (hNul : c.tables.NulFree) (hNumbered : c.tables.Numbered)
    {order : SortOrder} {used : Nat} {keys : List SortKey}
    (hKeys : f.scope.sortKeys used f.declared order = .ok keys) {hit : Hit} (hHit : hit ∈ f.hits c) :
    hit.Valued c.tables (f.subjects order) := by
  obtain ⟨first, _, hTells⟩ := tells_of_sortKeys hSound hNul hNumbered hKeys
  exact Hit.valued_of_tells (hTells.imp fun _ _ h => h.2 hit (looks hHit))

/-- A finder selects what satisfies the criterion. -/
theorem satisfies_iff (hSound : c.tables.Sound) {criterion : Option Criterion}
    {condition : Option Condition} {used : Nat}
    (hCondition : f.scope.condition? criterion = .ok (condition, used)) {hit : Hit}
    (hHit : hit ∈ f.hits c) :
    satisfies c.tables condition hit = true ↔ ∀ k ∈ criterion, k.Holds c.tables hit := by
  cases criterion with
  | none =>
      cases hCondition
      simp [satisfies]
  | some k =>
      obtain ⟨⟨compiled, _⟩, hCompile, hPair⟩ := exists_of_map_ok hCondition
      cases hPair
      have hLooks := looks hHit
      simpa [satisfies] using
        k.eval_compile hSound hLooks.sees (hLooks.within.plain hSound) hCompile

/-- Sorted items are seen in the order that the finder was asked for. -/
theorem sorted_pairwise (hSound : c.tables.Sound) (hNul : c.tables.NulFree)
    (hNumbered : c.tables.Numbered) {order : SortOrder} {used : Nat} {keys : List SortKey}
    (hKeys : f.scope.sortKeys used f.declared order = .ok keys) {α : Type} {view : α → Hit}
    {items : List α} (hItems : (items.map view).Sublist (f.hits c)) :
    ((sortBy c.tables keys view items).map view).Pairwise
      (Hit.Precedes c.tables (f.subjects order)) := by
  have hHits : ∀ item ∈ items, view item ∈ f.hits c := fun item hItem =>
    hItems.subset (List.mem_map_of_mem hItem)
  have hValued : ∀ item ∈ items, (view item).Valued c.tables (f.subjects order) :=
    fun item hItem => valued hSound hNul hNumbered hKeys (hHits item hItem)
  have hApart : ∀ a ∈ items, ∀ b ∈ items, (view a).keyValue = (view b).keyValue →
      (view a).linkValue = (view b).linkValue → view a = view b := fun a ha b hb =>
    (looks (hHits a ha)).apart hSound (looks (hHits b hb))
  obtain ⟨first, rfl, hTells⟩ := tells_of_sortKeys hSound hNul hNumbered hKeys
  have hPerm := sortBy_perm c.tables (first ++ f.scope.lastKeys) view items
  have hSorted : (sortBy c.tables (first ++ f.scope.lastKeys) view items).Pairwise fun a b =>
      ¬ Hit.Precedes c.tables (f.subjects order) (view b) (view a) := by
    refine sortBy_pairwise (fun a ha b hb => ?_) hValued hApart
    have hLooksA := looks (hHits a ha)
    have hLooksB := looks (hHits b hb)
    exact compareHits_append_eq_gt_iff
      (hTells.imp fun _ _ h => ⟨h.1, h.2 _ hLooksA, h.2 _ hLooksB⟩)
      (Scope.compare_lastKeys_eq_gt_iff hSound hLooksA.sees hLooksB.sees hLooksA.within
        hLooksB.within)
  have hNodup := (hPerm.map view).nodup_iff.2 ((hits_nodup hSound f).sublist hItems)
  refine List.pairwise_map.2 ((hSorted.and (List.pairwise_map.1 hNodup)).imp_of_mem ?_)
  intro a b ha hb hOrder
  have ha' := hPerm.mem_iff.1 ha
  have hb' := hPerm.mem_iff.1 hb
  have hCases := Hit.precedes_trichotomy (hValued a ha') (hValued b hb') (hApart a ha' b hb')
  exact hCases.resolve_right (not_or.2 ⟨hOrder.2, hOrder.1⟩)

end Finder

namespace Catalogue

open Classical in
/-- **A finder answers with what satisfies the criterion, in the order that it was asked
for.** In every reachable catalogue without NUL characters every finder answers, whatever it
is asked that makes sense. The records that it answers with are read from a permutation of
what it looks at and satisfies the criterion, in which every hit precedes all that come
after it. The order is strict and total on everything that the finder looks at. -/
theorem Reachable.answers_sorted {c : Catalogue} (h : Reachable c) (hNul : c.tables.NulFree)
    {f : Finder} (hAsked : f.Asked c) {criterion : Option Criterion} {order : SortOrder}
    (hCompiles : f.Compiles criterion order) :
    ∃ hits records, f.answer c criterion ⟨{}, order⟩ = .ok records ∧
      List.Forall₂ (f.Reads c) hits records ∧
      hits.Perm ((f.hits c).filter fun hit => ∀ k ∈ criterion, k.Holds c.tables hit) ∧
      hits.Pairwise (Hit.Precedes c.tables (f.subjects order)) ∧
      IsStrictTotalOrder {hit // hit ∈ f.hits c}
        fun a b => Hit.Precedes c.tables (f.subjects order) a b := by
  have hSynced := h.inv.synced
  have hSound := hSynced.sound
  obtain ⟨_, items, view, read, hPresents⟩ := Finder.exists_presents hSynced hAsked
  obtain ⟨⟨condition, used⟩, hCondition⟩ := hCompiles.condition
  obtain ⟨_, hGiven⟩ := hCompiles.keys
  obtain ⟨keys, hKeys⟩ := Scope.sortKeys_eq_ok used hGiven
  obtain ⟨records, hAnswer⟩ := hPresents.exists_answer ⟨{}, order⟩ hCompiles
  have hSelected := hAnswer
  rw [hPresents.answer, Tables.select_unpaged rfl hCondition hKeys] at hSelected
  generalize hFound : (items.filter fun item => satisfies c.tables condition (view item)) = found
    at hSelected
  have hMatching : found.map view =
      (f.hits c).filter fun hit => ∀ k ∈ criterion, k.Holds c.tables hit := by
    rw [← hFound, ← hPresents.hits, List.filter_map]
    refine congrArg _ (List.filter_congr fun item hItem => ?_)
    have hHit : view item ∈ f.hits c := hPresents.hits ▸ List.mem_map_of_mem hItem
    rw [Bool.eq_iff_iff, Function.comp_apply, decide_eq_true_eq]
    exact Finder.satisfies_iff hSound hCondition hHit
  have hPerm := sortBy_perm c.tables keys view found
  have hItems : ∀ item ∈ sortBy c.tables keys view found, item ∈ items := fun item hItem =>
    (List.mem_filter.1 (hFound ▸ hPerm.mem_iff.1 hItem)).1
  refine ⟨(sortBy c.tables keys view found).map view, records, hAnswer, ?_, ?_, ?_, ?_⟩
  · rw [List.forall₂_map_left_iff]
    refine ((List.forall₂_and_left _ _).2 ⟨hItems, forall₂_of_mapM hSelected⟩).imp ?_
    exact fun item record hRead => hPresents.reads item hRead.1 record hRead.2
  · rw [← hMatching]
    exact hPerm.map view
  · refine Finder.sorted_pairwise hSound hNul h.numbered hKeys ?_
    rw [hMatching]
    exact List.filter_sublist
  · refine Hit.strictTotalOrder (fun hit hHit => Finder.valued hSound hNul h.numbered hKeys hHit) ?_
    exact fun a ha b hb => (Finder.looks ha).apart hSound (Finder.looks hb)

/-- Types with the last group first, types without groups last and by their names. -/
def sampleOrder : SortOrder := .byKeys [("groups", .descending), ("name", .ascending)]

private theorem nulFree_sample : sample.tables.NulFree := by
  rw [sample_tables]
  intro kind
  cases kind <;> decide +kernel

/-- The four types of the sample, only one of which has a group. -/
theorem answers_sorted_sample :
    Reachable sample ∧ sample.tables.NulFree ∧
      ∃ hits types, sample.find GroupType none ⟨{}, sampleOrder⟩ = .ok types ∧
        List.Forall₂ (Finder.Reads sample .groupTypes) hits types ∧ hits.length = 4 ∧
        hits.Pairwise (Hit.Precedes sample.tables
          [(.property "groups", .descending), (.property "name", .ascending)]) := by
  have hCompiles : Finder.Compiles .groupTypes none sampleOrder := ⟨⟨_, rfl⟩, ⟨_, rfl⟩⟩
  obtain ⟨hits, types, hAnswer, hReads, hPerm, hSorted, _⟩ :=
    Reachable.answers_sorted reachable_sample nulFree_sample (f := .groupTypes) trivial hCompiles
  refine ⟨reachable_sample, nulFree_sample, hits, types, hAnswer, hReads, ?_, hSorted⟩
  rw [hPerm.length_eq, List.filter_eq_self.2 (by simp), Finder.hits, sample_tables]
  rfl

end Catalogue

end Shelfmark
