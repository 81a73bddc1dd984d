import Shelfmark.Proofs.Catalogue.Sorting
import Shelfmark.Proofs.Query.Naming

/-!
# Ways of asking about relations

What is related to a resource can be listed, or the resource can be looked for by something
that is related to it. The listing looks at the rows that links of the resource lead to; the
search looks at the rows that a route reaches. These are the same rows with the same links, so
a criterion holds of one of them here and there. That it makes sense in both places or in
neither is a matter of names alone.

A relation can also be seen from its other end. The route back goes through the same links and
has the two columns exchanged, and columns agree in both directions.

## Main results

* `Finder.exists_read` — what a finder answers, whatever its order.
* `Catalogue.mem_find_iff` — when a stored record is found.
* `Route.leads_flip` — a route and the way back lead to each other's start.
* `Catalogue.Reachable.relations_agree` — listing, searching and searching back agree.
-/

namespace Shelfmark

/-! ## Options that do not cut -/

/-- Whether options leave nothing out and ask for an order that makes sense in a scope. -/
structure Scope.Takes (scope : Scope) (declared : Option Column) (options : Options) : Prop where
  page : options.page = {}
  keys : ∃ keys, scope.sortKeys 0 declared options.order = .ok keys

theorem Scope.condition?_eq_error {scope : Scope} {criterion : Criterion} {fault : Fault}
    (h : criterion.condition scope = .error fault) :
    scope.condition? (some criterion) = .error fault := by
  have hCompile : criterion.compile scope 0 = .error fault := error_of_map_error h
  rw [condition?, hCompile]
  rfl

theorem Scope.condition?_eq_ok {scope : Scope} {criterion : Criterion} {condition : Condition}
    (h : criterion.condition scope = .ok condition) :
    ∃ used, scope.condition? (some criterion) = .ok (some condition, used) := by
  obtain ⟨⟨_, used⟩, hCompile, rfl⟩ := exists_of_map_ok h
  exact ⟨used, by rw [condition?, hCompile]; rfl⟩

variable {c : Catalogue} {t : Tables}

namespace Finder

variable {f : Finder} {options : Options} {criterion : Criterion}

theorem takes_default (f : Finder) : f.scope.Takes f.declared {} where
  page := rfl
  keys := (compiles_natural f .ascending).keys

/-- A finder fails for its criterion only. -/
theorem fault?_answer (h : c.Synced) (hAsked : f.Asked c)
    (hTakes : f.scope.Takes f.declared options) (criterion : Criterion) :
    fault? (f.answer c (some criterion) options) = fault? (criterion.condition f.scope) := by
  obtain ⟨_, items, view, read, hPresents⟩ := exists_presents h hAsked
  cases hCondition : criterion.condition f.scope with
  | error fault =>
      rw [hPresents.answer, Tables.select, Scope.condition?_eq_error hCondition]
      rfl
  | ok condition =>
      obtain ⟨used, hGiven⟩ := Scope.condition?_eq_ok hCondition
      obtain ⟨records, hAnswer⟩ := hPresents.exists_answer options ⟨⟨_, hGiven⟩, hTakes.keys⟩
      rw [hAnswer, fault?_ok, fault?_ok]

/-- What a finder answers is read from what it looks at and satisfies the criterion. -/
theorem exists_read (h : c.Synced) (hAsked : f.Asked c)
    (hTakes : f.scope.Takes f.declared options) {records : List f.Record}
    (hAnswer : f.answer c (some criterion) options = .ok records) :
    ∃ hits, List.Forall₂ (f.Reads c) hits records ∧
      ∀ hit, hit ∈ hits ↔ hit ∈ f.hits c ∧ criterion.Holds c.tables hit := by
  have hSense := fault?_answer h hAsked hTakes criterion
  rw [hAnswer, fault?_ok, eq_comm, fault?_eq_none_iff] at hSense
  obtain ⟨condition, hCondition⟩ := hSense
  obtain ⟨used, hGiven⟩ := Scope.condition?_eq_ok hCondition
  obtain ⟨_, hFirst⟩ := hTakes.keys
  obtain ⟨keys, hKeys⟩ := Scope.sortKeys_eq_ok used hFirst
  obtain ⟨_, items, view, read, hPresents⟩ := exists_presents h hAsked
  obtain ⟨found, hSelect, hPerm⟩ :
      ∃ found, c.tables.select f.scope f.declared (some criterion) options view items = .ok found ∧
        found.Perm (items.filter fun item => satisfies c.tables (some condition) (view item)) :=
    Tables.select_eq_ok hTakes.page hGiven hKeys
  have hRead : found.mapM read = .ok records := by
    rw [hPresents.answer, hSelect] at hAnswer
    exact hAnswer
  have hItems : ∀ item ∈ found, item ∈ items := fun item hItem =>
    (List.mem_filter.1 (hPerm.mem_iff.1 hItem)).1
  refine ⟨found.map view, ?_, fun hit => ?_⟩
  · rw [List.forall₂_map_left_iff]
    refine ((List.forall₂_and_left _ _).2 ⟨hItems, forall₂_of_mapM hRead⟩).imp ?_
    exact fun item record hRead => hPresents.reads item hRead.1 record hRead.2
  · rw [← hPresents.hits, List.mem_map, List.mem_map]
    have hHolds : ∀ item ∈ items, satisfies c.tables (some condition) (view item) = true ↔
        criterion.Holds c.tables (view item) := by
      intro item hItem
      have hHit : view item ∈ f.hits c := hPresents.hits ▸ List.mem_map_of_mem hItem
      simpa using satisfies_iff h.sound hGiven hHit
    constructor
    · rintro ⟨item, hItem, rfl⟩
      obtain ⟨hIn, hSatisfies⟩ := List.mem_filter.1 (hPerm.mem_iff.1 hItem)
      exact ⟨⟨item, hIn, rfl⟩, (hHolds item hIn).1 hSatisfies⟩
    · rintro ⟨⟨item, hIn, rfl⟩, hHit⟩
      exact ⟨item, hPerm.mem_iff.2 (List.mem_filter.2 ⟨hIn, (hHolds item hIn).2 hHit⟩), rfl⟩

end Finder

/-! ## One record among those found -/

namespace Catalogue

variable {α : Type} [Storable α] {row : Row} {record : α}

/-- What is fetched is read from a row that has the key. -/
theorem exists_row_of_fetch {key : Cell} {shown : String}
    (h : c.fetch α key shown = .ok record) :
    ∃ row, c.tables.find? (Storable.kind α) key = some row ∧
      row ∈ c.tables.rows (Storable.kind α) ∧ readRow α c.types row = .ok record := by
  unfold fetch at h
  split at h
  · cases h
  · rename_i row hFind
    exact ⟨row, hFind, mem_of_find? hFind, h⟩

/-- A stored record is found just when its row satisfies the criterion. -/
theorem mem_find_iff [Keyed α] (h : c.Synced) (hRow : row ∈ c.tables.rows (Storable.kind α))
    (hRead : readRow α c.types row = .ok record) {options : Options}
    (hTakes : (Scope.records (Storable.kind α)).Takes none options) {criterion : Criterion}
    {condition : Condition}
    (hCondition : criterion.condition (.records (Storable.kind α)) = .ok condition)
    {records : List α} (hFind : c.find α (some criterion) options = .ok records) :
    record ∈ records ↔ criterion.Holds c.tables ((Storable.kind α).view row) := by
  obtain ⟨rows, found, hFound, -, hRows, hReads, -, -⟩ :=
    findsExactly α h hTakes.page ⟨⟨condition, hCondition⟩, hTakes.keys⟩
  obtain rfl : records = found := Except.ok.inj (hFind.symm.trans hFound)
  have hAll := mapM_of_forall₂ hReads
  constructor
  · intro hMem
    obtain ⟨other, hOther, hSame⟩ := exists_of_mem_mapM hAll hMem
    obtain ⟨hIn, hHolds⟩ := (hRows other).1 hOther
    have hKey : other.key (Storable.kind α) = row.key (Storable.kind α) := by
      rw [Keyed.key_eq (h.sound.fits _ _ hIn) hSame, Keyed.key_eq (h.sound.fits _ _ hRow) hRead]
    rwa [List.inj_on_of_nodup_map (h.sound.keys_nodup _) hIn hRow hKey] at hHolds
  · intro hHolds
    obtain ⟨answer, hAnswer, hSame⟩ := exists_answer_of_mem hAll ((hRows row).2 ⟨hRow, hHolds⟩)
    rwa [Except.ok.inj (hRead.symm.trans hSame)]

end Catalogue

/-! ## What a route reaches -/

namespace Route

variable {r : Route} {kind link : Kind} {reference column : String} {row : Row} {uuid : Cell}
  {hit : Hit}

theorem reach_eq_joined (hFree : r.restriction = none) (outer : SourceRow) :
    r.reach t outer = r.joined t outer := by
  rw [reach, hFree]

/-- A route through links reaches what the links of the resource lead to. -/
theorem mem_reach_through (hFree : r.restriction = none) (hTarget : r.target = .records kind)
    (hJoin : r.join = .through link "resource_uuid" reference)
    (hUuid : row.cell .resource "uuid" = uuid) :
    hit ∈ r.reach t (.record .resource row) ↔
      hit ∈ (Summary.linked t link kind reference uuid).map (kind.viewLinked link) := by
  have hOuter : SourceRow.cell (.record .resource row) "uuid" = uuid := hUuid
  rw [reach_eq_joined hFree, joined, hJoin, hTarget]
  dsimp only
  rw [hOuter, Summary.linked]
  simp only [List.map_flatMap, Source.rows, List.filter_map, List.map_map]
  rfl

/-- A direct route reaches the rows that name the resource. -/
theorem mem_reach_direct (hFree : r.restriction = none) (hTarget : r.target = .records kind)
    (hJoin : r.join = .direct column "uuid") (hUuid : row.cell .resource "uuid" = uuid) :
    hit ∈ r.reach t (.record .resource row) ↔
      hit ∈ (t.rowsWhere kind column uuid).map kind.view := by
  have hOuter : SourceRow.cell (.record .resource row) "uuid" = uuid := hUuid
  rw [reach_eq_joined hFree, joined, hJoin, hTarget]
  dsimp only
  rw [hOuter, Tables.rowsWhere]
  simp only [sortRows, Source.rows, List.filter_map, List.mem_map, List.mem_mergeSort]
  constructor
  · rintro ⟨_, ⟨row, hRow, rfl⟩, rfl⟩
    exact ⟨row, hRow, rfl⟩
  · rintro ⟨row, hRow, rfl⟩
    exact ⟨_, ⟨row, hRow, rfl⟩, rfl⟩

end Route

/-- A finder of what is related to a resource looks at what a route reaches, and calls it by
the same kinds. -/
structure Finder.Follows (f : Finder) (resource : String) (kind : Kind) (route : Route) :
    Prop where
  asked : ∀ c : Catalogue, (∃ r, c.getResource resource = .ok r) → f.Asked c
  leads : Kind.routeTo? .resource kind = some route
  kind_eq : f.scope.kind = kind
  link_eq : f.scope.link.map Prod.fst = route.link?
  hits : ∀ (c : Catalogue) (row : Row), row.cell .resource "uuid" = Catalogue.uuidCell resource →
    ∀ hit, hit ∈ route.reach c.tables (.record .resource row) ↔ hit ∈ f.hits c

namespace Finder

theorem follows_persons (resource : String) :
    (relatedPersons resource).Follows resource .person (.persons "persons" none) where
  asked _ h := h
  leads := rfl
  kind_eq := rfl
  link_eq := rfl
  hits _ _ hUuid _ := Route.mem_reach_through rfl rfl rfl hUuid

theorem follows_groups (resource : String) :
    (relatedGroups resource).Follows resource .group (.groups "groups" none) where
  asked _ h := h
  leads := rfl
  kind_eq := rfl
  link_eq := rfl
  hits _ _ hUuid _ := Route.mem_reach_through rfl rfl rfl hUuid

theorem follows_objects (resource : String) :
    (relatedObjects resource).Follows resource .objectRelation (.objects "objects" none) where
  asked _ h := h
  leads := rfl
  kind_eq := rfl
  link_eq := rfl
  hits _ _ hUuid _ := Route.mem_reach_direct rfl rfl rfl hUuid

end Finder

/-! ## Two ways of asking -/

namespace Catalogue

/-- Whether a finder of what is related to a resource agrees with looking for the resource by
what is related to it. -/
structure AsksAlike (c : Catalogue) (f : Finder) (r : Resource) (kind : Kind)
    (criterion : Criterion) : Prop where
  /-- The criterion makes sense in both places, or it has the same fault in both. -/
  sense : fault? (criterion.condition f.scope) =
    fault? ((Criterion.related kind criterion).condition (.records .resource))
  /-- Both answer, unless the criterion has a fault. -/
  fails : ∀ options, f.scope.Takes f.declared options →
    ∀ other, (Scope.records .resource).Takes none other →
      fault? (f.answer c (some criterion) options) = fault? (criterion.condition f.scope) ∧
        fault? (c.find Resource (some (.related kind criterion)) other) =
          fault? (criterion.condition f.scope)
  /-- The one finds something just when the other finds the resource. -/
  finds : ∀ options, f.scope.Takes f.declared options →
    ∀ other, (Scope.records .resource).Takes none other →
      ∀ found resources, f.answer c (some criterion) options = .ok found →
        c.find Resource (some (.related kind criterion)) other = .ok resources →
          (found ≠ [] ↔ r ∈ resources)

/-- A record is related to what its route leads to. -/
theorem holds_related_iff {outer kind : Kind} {route : Route} (row : Row)
    (hRoute : outer.routeTo? kind = some route) {criterion : Criterion} :
    (Criterion.related kind criterion).Holds t (outer.view row) ↔
      ∃ hit, route.Leads t (.record outer row) hit ∧ criterion.Holds t hit := by
  rw [Criterion.Holds]
  constructor
  · rintro ⟨other, hMem, hTarget, hFree, hit, hLeads, hHolds⟩
    have hSame : outer.routeTo? kind = some other :=
      Kind.routeTo?_eq_some_iff.2 ⟨hMem, hTarget, hFree⟩
    obtain rfl : route = other := Option.some.inj (hRoute.symm.trans hSame)
    exact ⟨hit, hLeads, hHolds⟩
  · rintro ⟨hit, hLeads, hHolds⟩
    obtain ⟨hMem, hTarget, hFree⟩ := Kind.routeTo?_eq_some_iff.1 hRoute
    exact ⟨route, hMem, hTarget, hFree, hit, hLeads, hHolds⟩

/-- The finder finds something just when the resource is related to something. -/
theorem ne_nil_iff_holds (h : c.Synced) {f : Finder} {uuid : String} {kind : Kind} {route : Route}
    (hFollows : f.Follows uuid kind route) (hAsked : f.Asked c) {row : Row}
    (hRow : row ∈ c.tables.resources) (hUuid : row.cell .resource "uuid" = uuidCell uuid)
    {options : Options} (hTakes : f.scope.Takes f.declared options) {criterion : Criterion}
    {found : List f.Record} (hAnswer : f.answer c (some criterion) options = .ok found) :
    found ≠ [] ↔ (Criterion.related kind criterion).Holds c.tables (Kind.view .resource row) := by
  obtain ⟨hits, hReads, hHits⟩ := f.exists_read h hAsked hTakes hAnswer
  have hOuter : (SourceRow.record .resource row).Plain :=
    Tables.plain_cell (h.sound.fits .resource row hRow)
  have hSome : found ≠ [] ↔ ∃ hit, hit ∈ hits := by
    rw [List.ne_nil_iff_length_pos, ← hReads.length_eq, List.length_pos_iff_exists_mem]
  rw [holds_related_iff row hFollows.leads, hSome]
  refine exists_congr fun hit => ?_
  rw [hHits, ← hFollows.hits c row hUuid, Route.mem_reach_iff h.sound hOuter]

theorem asksAlike (h : c.Synced) {f : Finder} {uuid : String} {kind : Kind} {route : Route}
    (hFollows : f.Follows uuid kind route) {r : Resource} (hGet : c.getResource uuid = .ok r)
    (criterion : Criterion) : c.AsksAlike f r kind criterion := by
  have hSense : fault? ((Criterion.related kind criterion).condition (.records .resource)) =
      fault? (criterion.condition f.scope) :=
    criterion.fault?_condition_related hFollows.leads hFollows.kind_eq hFollows.link_eq
  have hAsked := hFollows.asked c ⟨r, hGet⟩
  have hFails : ∀ other, (Scope.records .resource).Takes none other →
      fault? (c.find Resource (some (.related kind criterion)) other) =
        fault? ((Criterion.related kind criterion).condition (.records .resource)) :=
    fun other hOther => Finder.resources.fault?_answer h trivial hOther _
  refine ⟨hSense.symm, fun options hTakes other hOther => ?_, ?_⟩
  · exact ⟨f.fault?_answer h hAsked hTakes criterion, (hFails other hOther).trans hSense⟩
  · intro options hTakes other hOther found resources hAnswer hFind
    obtain ⟨row, hFetch, hRow, hRead⟩ := exists_row_of_fetch hGet
    have hUuid := ((h.sound.find?_eq_some_iff .resource rfl).1 hFetch).2
    have hSensible := hFails other hOther
    rw [hFind, fault?_ok, eq_comm, fault?_eq_none_iff] at hSensible
    obtain ⟨condition, hCondition⟩ := hSensible
    rw [ne_nil_iff_holds h hFollows hAsked hRow hUuid hTakes hAnswer]
    exact (mem_find_iff h hRow hRead hOther hCondition hFind).symm

end Catalogue

/-! ## Both ends of a relation -/

theorem Cell.agrees_comm {a b : Cell} : a.Agrees b ↔ b.Agrees a := by
  unfold Cell.Agrees
  constructor
  · rintro ⟨rfl, hThere⟩
    exact ⟨rfl, hThere⟩
  · rintro ⟨rfl, hThere⟩
    exact ⟨rfl, hThere⟩

/-- The join of the way back. -/
def Join.flip : Join → Join
  | .direct column outerColumn => .direct outerColumn column
  | .through link anchor reference => .through link reference anchor

/-- Rows that a join ties together are tied together by the join of the way back. -/
theorem Join.ties_flip (join : Join) (a b : SourceRow) :
    (∃ link, join.Ties t a ⟨link, b⟩) ↔ ∃ link, join.flip.Ties t b ⟨link, a⟩ := by
  cases join with
  | direct column outerColumn =>
      constructor
      · rintro ⟨link, hNone, hAgrees⟩
        exact ⟨link, hNone, Cell.agrees_comm.1 hAgrees⟩
      · rintro ⟨link, hNone, hAgrees⟩
        exact ⟨link, hNone, Cell.agrees_comm.1 hAgrees⟩
  | through kind anchor reference =>
      constructor
      · rintro ⟨link, x, hx, hLink, hAnchor, hReference⟩
        exact ⟨link, x, hx, hLink, Cell.agrees_comm.1 hReference, Cell.agrees_comm.1 hAnchor⟩
      · rintro ⟨link, x, hx, hLink, hReference, hAnchor⟩
        exact ⟨link, x, hx, hLink, Cell.agrees_comm.1 hAnchor, Cell.agrees_comm.1 hReference⟩

/-- A route leads from one row to another just when the way back leads from the other to the
one. -/
theorem Route.leads_flip {kind other : Kind} {route back : Route}
    (hRoute : kind.routeTo? other = some route) (hBack : other.routeTo? kind = some back)
    (hFlip : back.join = route.join.flip) {a b : Row} (ha : a ∈ t.rows kind)
    (hb : b ∈ t.rows other) :
    (∃ link, route.Leads t (.record kind a) ⟨link, .record other b⟩) ↔
      ∃ link, back.Leads t (.record other b) ⟨link, .record kind a⟩ := by
  obtain ⟨-, hTarget, hFree⟩ := Kind.routeTo?_eq_some_iff.1 hRoute
  obtain ⟨-, hTarget', hFree'⟩ := Kind.routeTo?_eq_some_iff.1 hBack
  have hThere : SourceRow.record other b ∈ route.target.rows t := by
    rw [hTarget]
    exact List.mem_map_of_mem hb
  have hHere : SourceRow.record kind a ∈ back.target.rows t := by
    rw [hTarget']
    exact List.mem_map_of_mem ha
  have hTies := route.join.ties_flip (t := t) (.record kind a) (.record other b)
  rw [← hFlip] at hTies
  unfold Route.Leads
  rw [hFree, hFree']
  simpa [hThere, hHere] using hTies

/-- A name of a field designates the field of the record itself. -/
theorem Hit.shows_own_iff {hit : Hit} {f g : Field} {x : SourceRow}
    (hField : f ∈ hit.target.source.fields) :
    hit.Shows f.name g x ↔ g = f ∧ x = hit.target := by
  constructor
  · rintro (⟨hOther, hName⟩ | ⟨hNone, _, _, _⟩)
    · have hNodup := hit.target.source.fieldNames_nodup
      exact ⟨List.inj_on_of_nodup_map hNodup hOther hField hName, rfl⟩
    · exact absurd rfl (hNone f hField)
  · rintro ⟨rfl, rfl⟩
    exact .own hField rfl

theorem Kind.collation_key (kind : Kind) : kind.collation kind.keyColumn = .binary := by
  cases kind <;> rfl

/-- Whether a property with a value asks for the record of a kind with a key. -/
def Kind.AsksKey (kind : Kind) (property : String) (value : FieldValue) (key : Cell) : Prop :=
  ∃ f, kind.field? property = some f ∧ f.column = kind.keyColumn ∧ f.toCell value = .ok key

namespace Kind.AsksKey

variable {kind : Kind} {property : String} {value : FieldValue} {key : Cell}

/-- The test of the key holds of the row with the key. -/
theorem holds_iff (h : kind.AsksKey property value key) (link : Option SourceRow) (row : Row) :
    (Criterion.equal property value).Holds t ⟨link, .record kind row⟩ ↔ row.key kind = key := by
  obtain ⟨f, hFind, hColumn, hStores⟩ := h
  have hField : f ∈ kind.fields := List.mem_of_find?_eq_some hFind
  obtain rfl : f.name = property := by simpa using List.find?_some hFind
  have hOwn : ∀ {g x}, Hit.Shows ⟨link, .record kind row⟩ f.name g x ↔ g = f ∧ x = .record kind row :=
    Hit.shows_own_iff hField
  have hHere : Hit.Shows ⟨link, .record kind row⟩ f.name f (.record kind row) := hOwn.2 ⟨rfl, rfl⟩
  have hHas : SourceRow.Has (.record kind row) f value ↔ row.key kind = key := by
    simp [SourceRow.Has, hStores, SourceRow.cell, SourceRow.source, Source.collation, Cell.Meets,
      hColumn, kind.collation_key, Row.key]
  rw [Criterion.Holds, Hit.HasOne]
  simp only [Hit.designates_here_iff hHere, hOwn, List.mem_singleton, exists_eq_left]
  constructor
  · rintro ⟨_, _, ⟨rfl, rfl⟩, hValue⟩
    exact hHas.1 hValue
  · intro hKey
    exact ⟨f, _, ⟨rfl, rfl⟩, hHas.2 hKey⟩

/-- The test of the key makes sense wherever there is a row of the kind. -/
theorem exists_compile (h : kind.AsksKey property value key) (scope : Scope)
    (hKind : scope.kind = kind) (used : Nat) :
    ∃ compiled, (Criterion.equal property value).compile scope used = .ok compiled := by
  obtain ⟨f, hFind, -, hStores⟩ := h
  have hField : f ∈ (Source.records kind).fields := List.mem_of_find?_eq_some hFind
  obtain rfl : f.name = property := by simpa using List.find?_some hFind
  have hSplit : splitPath? f.name = none := splitPath?_eq_none_iff.2 (Source.noHash hField)
  subst hKind
  have hPath : ∃ path, scope.fieldPath? f.name = some path ∧ path.field = f := by
    rw [Scope.fieldPath?, hFind]
    exact ⟨_, rfl, rfl⟩
  obtain ⟨path, hPath, rfl⟩ := hPath
  have hResolve : scope.resolve Route.filterProperty used path.field.name = .ok (path, used) := by
    rw [Scope.resolve, hSplit]
    dsimp only
    rw [hPath]
  have hCells : comparedCells path.kind path.field [value] = .ok [key] := by
    simp [comparedCells, Fault.ofField, hStores, Except.map]
  refine ⟨(path.condition [key], used), ?_⟩
  rw [Criterion.compile, Scope.propertyCondition_eq, hResolve]
  simp [Except.bind, hCells, Except.map]

end Kind.AsksKey

namespace Catalogue

/-- A record is related to one with a key just when its route leads there. -/
theorem holds_related_key_iff (hSound : t.Sound) {kind other : Kind} {route : Route}
    (hRoute : kind.routeTo? other = some route) (a : Row) {b : Row} (hb : b ∈ t.rows other)
    {property : String} {value : FieldValue} (hAsks : other.AsksKey property value (b.key other)) :
    (Criterion.related other (.equal property value)).Holds t (kind.view a) ↔
      ∃ link, route.Leads t (.record kind a) ⟨link, .record other b⟩ := by
  rw [holds_related_iff a hRoute]
  obtain ⟨-, hTarget, -⟩ := Kind.routeTo?_eq_some_iff.1 hRoute
  constructor
  · rintro ⟨⟨link, target⟩, hLeads, hHolds⟩
    have hIn : target ∈ (Source.records other).rows t := hTarget ▸ hLeads.1
    obtain ⟨row, hRow, rfl⟩ := List.mem_map.1 hIn
    have hKey := (hAsks.holds_iff link row).1 hHolds
    rw [List.inj_on_of_nodup_map (hSound.keys_nodup other) hRow hb hKey] at hLeads
    exact ⟨link, hLeads⟩
  · rintro ⟨link, hLeads⟩
    exact ⟨_, hLeads, (hAsks.holds_iff link b).2 rfl⟩

/-- A finder answers when it is asked for what is related to a record with a key. -/
theorem exists_find_related (α : Type) [Storable α] [Keyed α] (h : c.Synced) {other : Kind}
    {route : Route} (hRoute : (Storable.kind α).routeTo? other = some route) {property : String}
    {value : FieldValue} {key : Cell} (hAsks : other.AsksKey property value key)
    {options : Options} (hTakes : (Scope.records (Storable.kind α)).Takes none options) :
    ∃ records condition,
      (Criterion.related other (.equal property value)).condition (.records (Storable.kind α)) =
        .ok condition ∧
      c.find α (some (.related other (.equal property value))) options = .ok records := by
  obtain ⟨compiled, hCompile⟩ := hAsks.exists_compile (.inner other route 1) rfl 1
  have hCondition : ∃ condition,
      (Criterion.related other (.equal property value)).condition (.records (Storable.kind α)) =
        .ok condition := by
    rw [Criterion.condition, Criterion.compile_related _ hRoute, hCompile]
    exact ⟨_, rfl⟩
  obtain ⟨condition, hCondition⟩ := hCondition
  obtain ⟨_, records, hFind, -⟩ := findsExactly α h hTakes.page ⟨⟨_, hCondition⟩, hTakes.keys⟩
  exact ⟨records, condition, hCondition, hFind⟩

/-- Whether a relation is seen from both ends: the resource is found by what is related to it
just when the other record is found by its resource. -/
def SeesBothEnds {α : Type} [Storable α] (c : Catalogue) (r : Resource) (record : α)
    (key : Criterion) : Prop :=
  ∀ options, (Scope.records .resource).Takes none options →
    ∀ other, (Scope.records (Storable.kind α)).Takes none other →
      ∃ (resources : List Resource) (records : List α),
        c.find Resource (some (.related (Storable.kind α) key)) options = .ok resources ∧
          c.find α (some (.related .resource (.equal "uuid" (.text r.uuid)))) other = .ok records ∧
          (r ∈ resources ↔ record ∈ records)

theorem asksKey_uuid {kind : Kind} (hKey : kind.keyColumn = "uuid") {row : Row}
    (hFits : row.Fits kind) {s : String} (h : row.key kind = .text s) :
    kind.AsksKey "uuid" (.text s) (row.key kind) := by
  obtain ⟨f, hFind, hColumn, hType⟩ :
      ∃ f, kind.field? "uuid" = some f ∧ f.column = "uuid" ∧ f.type = .identifier := by
    cases kind <;> first | exact ⟨_, rfl, rfl, rfl⟩ | exact absurd hKey (by decide)
  obtain ⟨u, hu, hNormal, hThere⟩ := hFits.key_text hKey
  have hText : row.key kind = .text u := by rw [Row.key, hKey, hu]
  obtain rfl : u = s := Cell.text.inj (hText.symm.trans h)
  refine ⟨f, hFind, hColumn.trans hKey.symm, ?_⟩
  rw [h, Field.toCell, hType]
  · simp [Field.storeValue, Field.storeIdentifier, hNormal, hThere]
  · intro hNull
    cases hNull

theorem asksKey_id {row : Row} {id : Int64} (h : row.key .objectRelation = .integer id) :
    Kind.AsksKey .objectRelation "id" (.integer id) (row.key .objectRelation) :=
  ⟨ObjectField.id, rfl, rfl, by rw [h]; rfl⟩

theorem seesBothEnds (α : Type) [Storable α] [Keyed α] (h : c.Synced) {route back : Route}
    (hRoute : Kind.routeTo? .resource (Storable.kind α) = some route)
    (hBack : (Storable.kind α).routeTo? .resource = some back)
    (hFlip : back.join = route.join.flip) {uuid : String} {r : Resource}
    (hGet : c.getResource uuid = .ok r) {key : Cell} {shown : String} {record : α}
    (hFetch : c.fetch α key shown = .ok record) {property : String} {value : FieldValue}
    (hAsks : ∀ row : Row, row.Fits (Storable.kind α) → row.key (Storable.kind α) = Keyed.key record →
      (Storable.kind α).AsksKey property value (row.key (Storable.kind α))) :
    c.SeesBothEnds r record (.equal property value) := by
  intro options hOptions other hOther
  obtain ⟨a, -, ha, hReadA⟩ := exists_row_of_fetch hGet
  obtain ⟨b, -, hb, hReadB⟩ := exists_row_of_fetch hFetch
  have hFitsA := h.sound.fits _ a ha
  have hFitsB := h.sound.fits _ b hb
  have hAsksA := asksKey_uuid rfl hFitsA (Keyed.key_eq hFitsA hReadA)
  have hAsksB := hAsks b hFitsB (Keyed.key_eq hFitsB hReadB)
  obtain ⟨resources, _, hCondition, hFind⟩ :=
    exists_find_related Resource h hRoute hAsksB hOptions
  obtain ⟨records, _, hCondition', hFind'⟩ := exists_find_related α h hBack hAsksA hOther
  refine ⟨resources, records, hFind, hFind', ?_⟩
  calc r ∈ resources
      ↔ ∃ link, route.Leads c.tables (.record .resource a) ⟨link, .record _ b⟩ := by
        rw [mem_find_iff h ha hReadA hOptions hCondition hFind]
        exact holds_related_key_iff h.sound hRoute a hb hAsksB
    _ ↔ ∃ link, back.Leads c.tables (.record _ b) ⟨link, .record .resource a⟩ :=
        Route.leads_flip hRoute hBack hFlip ha hb
    _ ↔ record ∈ records := by
        rw [mem_find_iff h hb hReadB hOther hCondition' hFind']
        exact (holds_related_key_iff h.sound hBack b ha hAsksA).symm

/-- **All ways of asking about a relation agree.** In every reachable catalogue and for every
resource in it, a criterion makes sense of what is related to the resource just when it does
behind a relation; then something related is found just when the resource is. And a record is
among those that a resource is found by just when the resource is among those that the record
is found by. -/
theorem Reachable.relations_agree {c : Catalogue} (h : Reachable c) {uuid : String} {r : Resource}
    (hGet : c.getResource uuid = .ok r) :
    (∀ criterion, c.AsksAlike (.relatedPersons uuid) r .person criterion ∧
      c.AsksAlike (.relatedGroups uuid) r .group criterion ∧
      c.AsksAlike (.relatedObjects uuid) r .objectRelation criterion) ∧
      (∀ u p, c.getPerson u = .ok p → c.SeesBothEnds r p (.equal "uuid" (.text p.uuid))) ∧
      (∀ u g, c.getGroup u = .ok g → c.SeesBothEnds r g (.equal "uuid" (.text g.uuid))) ∧
      ∀ id o, c.getObject id = .ok o → c.SeesBothEnds r o (.equal "id" (.integer o.id)) := by
  have hSynced := h.inv.synced
  refine ⟨fun criterion => ⟨?_, ?_, ?_⟩, fun u p hPerson => ?_, fun u g hGroup => ?_,
    fun id o hObject => ?_⟩
  · exact asksAlike hSynced (Finder.follows_persons uuid) hGet criterion
  · exact asksAlike hSynced (Finder.follows_groups uuid) hGet criterion
  · exact asksAlike hSynced (Finder.follows_objects uuid) hGet criterion
  · refine seesBothEnds Person hSynced rfl rfl rfl hGet hPerson fun row hFits hKey => ?_
    exact asksKey_uuid rfl hFits hKey
  · refine seesBothEnds Group hSynced rfl rfl rfl hGet hGroup fun row hFits hKey => ?_
    exact asksKey_uuid rfl hFits hKey
  · refine seesBothEnds ObjectRelation hSynced rfl rfl rfl hGet hObject fun row _ hKey => ?_
    exact asksKey_id hKey

/-- The series of the sample, as it is read. -/
def sampleNovels : Group := { sampleSeries with groupType := ⟨seriesTypeUuid, "Series", true, true⟩ }

/-- The sample relates its resource to the first place of a series. -/
theorem relations_agree_sample :
    Reachable sample ∧ sample.getResource "f" = .ok sampleResource ∧
      (∃ resources,
        sample.find Resource (some (.related .group (.equal "groupIndex" (.integer 1)))) {} =
            .ok resources ∧ sampleResource ∈ resources) ∧
      sample.SeesBothEnds sampleResource sampleNovels (.equal "uuid" (.text "s")) := by
  have hGet : sample.getResource "f" = .ok sampleResource := by decide +kernel
  have hGroup : sample.getGroup "s" = .ok sampleNovels := by decide +kernel
  have hRelated : sample.relatedGroups "f" (some (.equal "groupIndex" (.integer 1))) {} =
      .ok [⟨sampleNovels, some 1, ""⟩] := by
    decide +kernel
  obtain ⟨hAsks, -, hGroups, -⟩ := Reachable.relations_agree reachable_sample hGet
  have hAlike := (hAsks (.equal "groupIndex" (.integer 1))).2.1
  have hTakes := Finder.takes_default (.relatedGroups "f")
  have hOther := Finder.takes_default .resources
  obtain ⟨hAnswers, hFails⟩ := hAlike.fails {} hTakes {} hOther
  obtain ⟨resources, hFind⟩ := fault?_eq_none_iff.1
    (hFails.trans (hAnswers.symm.trans (congrArg fault? hRelated)))
  have hFound := hAlike.finds {} hTakes {} hOther _ resources hRelated hFind
  exact ⟨reachable_sample, hGet, ⟨resources, hFind, hFound.1 (List.cons_ne_nil _ _)⟩,
    hGroups "s" sampleNovels hGroup⟩

end Catalogue

end Shelfmark
