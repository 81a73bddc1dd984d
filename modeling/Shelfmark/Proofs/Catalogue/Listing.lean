import Shelfmark.Proofs.Catalogue.Sorting

/-!
# Relations are listed as they are stored

What is related to a resource is sorted by the identifiers of the relations, unless another order
is asked for. The relations are stored in just this order. So sorting leaves them where they are,
and a listing without a criterion and without an order reads, one after the other, what the
tables relate to the resource: `Finder.reads_hits`. In descending order it reads the same
the other way round: `Finder.answer_reversed`.
-/

namespace Shelfmark

namespace Finder

variable {c : Catalogue} {f : Finder} {column : Column}

/-! ## The order of relations -/

/-- What a finder of relations looks at ascends in the column of its natural order. -/
theorem hits_ascending (hSound : c.tables.Sound) (hNumbered : c.tables.Numbered)
    (hDeclared : f.declared = some column) :
    (f.hits c).Pairwise fun a b => ∃ i j : Int64, (Env.ofHit a).cell column = .integer i ∧
      (Env.ofHit b).cell column = .integer j ∧ i.toInt < j.toInt := by
  have hLinked : ∀ (link : Kind) {kind : Kind} (_ : kind.keyColumn = "uuid") (reference : String)
      (resource : Cell),
      ((Summary.linked c.tables link kind reference resource).map (kind.viewLinked link)).Pairwise
        fun a b => ∃ i j : Int64, (Env.ofHit a).cell ⟨.selfLink, "rowid", .binary⟩ = .integer i ∧
          (Env.ofHit b).cell ⟨.selfLink, "rowid", .binary⟩ = .integer j ∧ i.toInt < j.toInt := by
    intro link kind hKey reference resource
    have hIds := (hNumbered.ascending link).sublist
      (hSound.links_sublist link hKey reference resource)
    exact List.pairwise_map.2
      ((List.pairwise_map.1 hIds).imp fun hLess => ⟨_, _, rfl, rfl, hLess⟩)
  cases f with
  | relatedObjects resource =>
      cases hDeclared
      exact List.pairwise_map.2
        (((hNumbered.ascending .objectRelation).filter _).imp fun hLess => ⟨_, _, rfl, rfl, hLess⟩)
  | relatedPersons resource =>
      cases hDeclared
      exact hLinked .personRelation rfl _ _
  | relatedGroups resource =>
      cases hDeclared
      exact hLinked .groupRelation rfl _ _
  | _ => cases hDeclared

/-- Everything that a finder of relations looks at has a number in the column of its natural
order. -/
private theorem exists_number (hDeclared : f.declared = some column) {hit : Hit}
    (hHit : hit ∈ f.hits c) : ∃ i : Int64, (Env.ofHit hit).cell column = .integer i := by
  cases f with
  | relatedObjects resource =>
      cases hDeclared
      obtain ⟨row, -, rfl⟩ := List.mem_map.1 hHit
      exact ⟨row.id, rfl⟩
  | relatedPersons resource =>
      cases hDeclared
      obtain ⟨pair, -, rfl⟩ := List.mem_map.1 hHit
      exact ⟨pair.1.id, rfl⟩
  | relatedGroups resource =>
      cases hDeclared
      obtain ⟨pair, -, rfl⟩ := List.mem_map.1 hHit
      exact ⟨pair.1.id, rfl⟩
  | _ => cases hDeclared

/-- An ascending column that comes first decides the order. -/
private theorem compareHits_of_lt {t : Tables} {a b : Hit} {i j : Int64} (last : List SortKey)
    (ha : (Env.ofHit a).cell column = .integer i) (hb : (Env.ofHit b).cell column = .integer j)
    (hLess : i.toInt < j.toInt) :
    compareHits t ({ column := column, direction := some .ascending } :: last) a b = .lt := by
  have hFirst : ({ column := column, direction := some .ascending } : SortKey).compareHits t a b =
      .lt := by
    show ((Env.ofHit a).cell column).order _ ((Env.ofHit b).cell column) = .lt
    rw [ha, hb]
    exact Int.compare_eq_lt.2 hLess
  rw [compareHits_cons, hFirst]
  rfl

/-- The number of a cell, which is only asked of cells that have one. -/
private def numberOf : Cell → Int
  | .integer i => i.toInt
  | _ => 0

private theorem numbers_ascending (hSound : c.tables.Sound) (hNumbered : c.tables.Numbered)
    (hDeclared : f.declared = some column) :
    (f.hits c).Pairwise fun a b =>
      numberOf ((Env.ofHit a).cell column) < numberOf ((Env.ofHit b).cell column) := by
  refine (hits_ascending hSound hNumbered hDeclared).imp ?_
  rintro a b ⟨i, j, ha, hb, hLess⟩
  rw [ha, hb]
  exact hLess

/-- A descending column that comes first turns the order round. -/
private theorem compareHits_descending (hSound : c.tables.Sound) (hNumbered : c.tables.Numbered)
    (hDeclared : f.declared = some column) {a b : Hit} (ha : a ∈ f.hits c) (hb : b ∈ f.hits c) :
    compareHits c.tables ({ column := column, direction := some .descending } :: f.scope.lastKeys)
        a b = .gt ↔
      numberOf ((Env.ofHit a).cell column) < numberOf ((Env.ofHit b).cell column) := by
  have hNodup : ((f.hits c).map fun hit => numberOf ((Env.ofHit hit).cell column)).Nodup :=
    List.pairwise_map.2 ((numbers_ascending hSound hNumbered hDeclared).imp
      fun hLess => Int.ne_of_lt hLess)
  obtain ⟨i, hi⟩ := exists_number hDeclared ha
  obtain ⟨j, hj⟩ := exists_number hDeclared hb
  have hFirst : ({ column := column, direction := some .descending } : SortKey).compareHits c.tables
      a b = (compare i.toInt j.toInt).swap := by
    show (((Env.ofHit a).cell column).order _ ((Env.ofHit b).cell column)).swap = _
    rw [hi, hj]
    rfl
  rw [compareHits_cons, hFirst, Ordering.then_eq_gt, Ordering.swap_eq_gt, Ordering.swap_eq_eq,
    Int.compare_eq_lt, Int.compare_eq_eq]
  have hNumbers : numberOf ((Env.ofHit a).cell column) = i.toInt ∧
      numberOf ((Env.ofHit b).cell column) = j.toInt := by
    rw [hi, hj]
    exact ⟨rfl, rfl⟩
  rw [hNumbers.1, hNumbers.2]
  refine or_iff_left ?_
  rintro ⟨hSame, hLast⟩
  -- Hits with the same number are the same, and nothing precedes itself.
  obtain rfl : a = b := List.inj_on_of_nodup_map hNodup ha hb
    (hNumbers.1.trans (hSame.trans hNumbers.2.symm))
  have hLooks := looks ha
  have hBefore : Hit.Precedes c.tables [] a a :=
    (Scope.compare_lastKeys_eq_gt_iff hSound hLooks.sees hLooks.sees hLooks.within
      hLooks.within).1 hLast
  exact Hit.Precedes.irrefl (fun p hp => by cases hp) hBefore

/-! ## Listings -/

private theorem sortKeys_declared (hDeclared : f.declared = some column) (direction : Direction) :
    f.scope.sortKeys 0 f.declared (.preferred direction) =
      .ok ({ column := column, direction := some direction } :: f.scope.lastKeys) := by
  rw [hDeclared]
  rfl

/-- Without a criterion and without an order everything is selected and stays in its place. -/
private theorem select_ascending (hSound : c.tables.Sound) (hNumbered : c.tables.Numbered)
    (hDeclared : f.declared = some column) {α : Type} {items : List α} {view : α → Hit}
    (hItems : items.map view = f.hits c) :
    c.tables.select f.scope f.declared none {} view items = .ok items := by
  have hOrdered : (items.map view).Pairwise fun a b => compareHits c.tables
      ({ column := column, direction := some .ascending } :: f.scope.lastKeys) a b ≠ .gt := by
    rw [hItems]
    refine (hits_ascending hSound hNumbered hDeclared).imp ?_
    rintro a b ⟨i, j, ha, hb, hLess⟩
    rw [compareHits_of_lt _ ha hb hLess]
    decide
  rw [Tables.select_unpaged rfl rfl (sortKeys_declared hDeclared .ascending)]
  simp only [satisfies, List.filter_true]
  rw [sortBy_eq_self hOrdered]

/-- In descending order everything is selected and turned round. -/
private theorem select_descending (hSound : c.tables.Sound) (hNumbered : c.tables.Numbered)
    (hDeclared : f.declared = some column) {α : Type} {items : List α} {view : α → Hit}
    (hItems : items.map view = f.hits c) :
    c.tables.select f.scope f.declared none { order := .preferred .descending } view items =
      .ok items.reverse := by
  have hHits : ∀ item ∈ items, view item ∈ f.hits c := fun item hItem =>
    hItems ▸ List.mem_map_of_mem hItem
  have hAscending := numbers_ascending hSound hNumbered hDeclared
  rw [← hItems, List.pairwise_map] at hAscending
  rw [Tables.select_unpaged rfl rfl (sortKeys_declared hDeclared .descending)]
  simp only [satisfies, List.filter_true]
  rw [sortBy_eq_reverse (fun a ha b hb =>
    compareHits_descending hSound hNumbered hDeclared (hHits a ha) (hHits b hb)) hAscending]

/-- **A listing of relations reads all that a finder looks at, in the order in which it is
stored.** -/
theorem reads_hits (h : c.Synced) (hNumbered : c.tables.Numbered) (hAsked : f.Asked c)
    (hDeclared : f.declared = some column) {records : List f.Record}
    (hAnswer : f.answer c none {} = .ok records) : List.Forall₂ (f.Reads c) (f.hits c) records := by
  obtain ⟨_, items, view, read, hPresents⟩ := exists_presents h hAsked
  rw [hPresents.answer, select_ascending h.sound hNumbered hDeclared hPresents.hits] at hAnswer
  rw [← hPresents.hits, List.forall₂_map_left_iff]
  refine ((List.forall₂_and_left _ _).2
    ⟨fun _ hItem => hItem, forall₂_of_mapM (f := read) hAnswer⟩).imp ?_
  exact fun item record hReads => hPresents.reads item hReads.1 record hReads.2

/-- **In descending order a listing of relations is turned round.** -/
theorem answer_reversed (h : c.Synced) (hNumbered : c.tables.Numbered) (hAsked : f.Asked c)
    (hDeclared : f.declared = some column) {records : List f.Record}
    (hAnswer : f.answer c none {} = .ok records) :
    f.answer c none { order := .preferred .descending } = .ok records.reverse := by
  obtain ⟨_, items, view, read, hPresents⟩ := exists_presents h hAsked
  rw [hPresents.answer, select_ascending h.sound hNumbered hDeclared hPresents.hits] at hAnswer
  rw [hPresents.answer, select_descending h.sound hNumbered hDeclared hPresents.hits]
  exact mapM_of_forall₂ (f := read) (List.rel_reverse (forall₂_of_mapM (f := read) hAnswer))

end Finder

namespace Catalogue

variable {c : Catalogue} {resource : String}

/-- What is read of a link is the record at its end and the link. -/
private theorem reads_of_readLinked {α β : Type} [Storable α] [Storable β] {types : TypeCache}
    {pair : Row × Row} {record : α} {link : β}
    (h : readLinked α β types pair = .ok (record, link)) :
    readRow α types pair.2 = .ok record ∧ readRow β types pair.1 = .ok link := by
  rw [readLinked_eq] at h
  cases hRecord : readRow α types pair.2 with
  | error fault =>
      rw [hRecord] at h
      cases h
  | ok x =>
      rw [hRecord] at h
      obtain ⟨y, hLink, hPair⟩ := exists_of_map_ok h
      cases hPair
      exact ⟨rfl, hLink⟩

theorem relatedObjects_listed (h : c.Synced) (hNumbered : c.tables.Numbered)
    (hAsked : ∃ r, c.getResource resource = .ok r) {objects : List ObjectRelation}
    (hAnswer : c.relatedObjects resource none {} = .ok objects) :
    List.Forall₂ (fun row found => readRow ObjectRelation c.types row = .ok found)
      (c.tables.rowsWhere .objectRelation "resource_uuid" (uuidCell resource)) objects := by
  have hFinder : (Finder.relatedObjects resource).Asked c := hAsked
  have hReads : List.Forall₂ ((Finder.relatedObjects resource).Reads c)
      ((Finder.relatedObjects resource).hits c) objects :=
    Finder.reads_hits h hNumbered hFinder rfl hAnswer
  refine (List.forall₂_map_left_iff.1 hReads).imp ?_
  rintro row _ ⟨other, hSame, hRead⟩
  obtain rfl := Finder.view_injective _ hSame
  exact hRead

theorem relatedPersons_listed (h : c.Synced) (hNumbered : c.tables.Numbered)
    (hAsked : ∃ r, c.getResource resource = .ok r) {persons : List RelatedPerson}
    (hAnswer : c.relatedPersons resource none {} = .ok persons) :
    List.Forall₂ (fun pair found => readRow Person c.types pair.2 = .ok found.person ∧
        ∃ link, readRow PersonLink c.types pair.1 = .ok link ∧ found.relation = link.relation)
      (Summary.linked c.tables .personRelation .person "person_uuid" (uuidCell resource))
      persons := by
  have hFinder : (Finder.relatedPersons resource).Asked c := hAsked
  have hReads : List.Forall₂ ((Finder.relatedPersons resource).Reads c)
      ((Finder.relatedPersons resource).hits c) persons :=
    Finder.reads_hits h hNumbered hFinder rfl hAnswer
  refine (List.forall₂_map_left_iff.1 hReads).imp ?_
  rintro pair _ ⟨p, link, ⟨other, hSame, hLinked⟩, rfl⟩
  obtain rfl := Finder.viewLinked_injective _ _ hSame
  obtain ⟨hPerson, hLink⟩ := reads_of_readLinked hLinked
  exact ⟨hPerson, link, hLink, rfl⟩

theorem relatedGroups_listed (h : c.Synced) (hNumbered : c.tables.Numbered)
    (hAsked : ∃ r, c.getResource resource = .ok r) {groups : List RelatedGroup}
    (hAnswer : c.relatedGroups resource none {} = .ok groups) :
    List.Forall₂ (fun pair found => readRow Group c.types pair.2 = .ok found.group ∧
        ∃ link, readRow GroupLink c.types pair.1 = .ok link ∧
          found.groupIndex = link.groupIndex ∧ found.relationTag = link.relationTag)
      (Summary.linked c.tables .groupRelation .group "group_uuid" (uuidCell resource)) groups := by
  have hFinder : (Finder.relatedGroups resource).Asked c := hAsked
  have hReads : List.Forall₂ ((Finder.relatedGroups resource).Reads c)
      ((Finder.relatedGroups resource).hits c) groups :=
    Finder.reads_hits h hNumbered hFinder rfl hAnswer
  refine (List.forall₂_map_left_iff.1 hReads).imp ?_
  rintro pair _ ⟨g, link, ⟨other, hSame, hLinked⟩, rfl⟩
  obtain rfl := Finder.viewLinked_injective _ _ hSame
  obtain ⟨hGroup, hLink⟩ := reads_of_readLinked hLinked
  exact ⟨hGroup, link, hLink, rfl, rfl⟩

end Catalogue

end Shelfmark
