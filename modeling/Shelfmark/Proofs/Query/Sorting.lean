import Shelfmark.Proofs.Query.Compilation
import Shelfmark.Proofs.Query.Ordering
import Shelfmark.Proofs.Store.NulFree
import Shelfmark.Proofs.Store.Numbered

/-!
# Sorting follows the order

A compiled sort key tells what its subject counts for: `Env.Sees.tells_of_resolve`. For a key
behind a route this rests on the order in which rows are reached, which is that of their
places, so that the first row that is reached is the one with the lowest place. Comparing
the values of all keys then says which of two hits precedes the other, and sorting, which
only needs a comparison that is total and transitive on the sorted items, puts them in that
order.

Text must be free of NUL characters here, because what stands behind one is not compared
where case is ignored.
-/

namespace Shelfmark

/-! ## Sorting lists -/

/-- A comparison that is transitive and total on a list sorts it. -/
theorem pairwise_mergeSort_of_mem {α : Type} {le : α → α → Bool} {xs : List α}
    (hTrans : ∀ a ∈ xs, ∀ b ∈ xs, ∀ c ∈ xs, le a b = true → le b c = true → le a c = true)
    (hTotal : ∀ a ∈ xs, ∀ b ∈ xs, (le a b || le b a) = true) :
    (xs.mergeSort le).Pairwise fun a b => le a b = true := by
  -- The items of the list are a type of their own, on which the comparison is lawful.
  have hMap : (xs.attach.mergeSort fun a b => le a.1 b.1).map Subtype.val = xs.mergeSort le := by
    rw [List.map_mergeSort (s := le) fun _ _ _ _ => rfl, List.attach_map_subtype_val]
  rw [← hMap, List.pairwise_map]
  refine List.pairwise_mergeSort ?_ ?_ _
  · exact fun a b c => hTrans a a.2 b b.2 c c.2
  · exact fun a b => hTotal a a.2 b b.2

/-- A comparison by values sorts a list by them. -/
theorem pairwise_mergeSort_of_value {α β : Type} [LinearOrder β] {le : α → α → Bool}
    (value : α → β) {xs : List α}
    (hLe : ∀ a ∈ xs, ∀ b ∈ xs, le a b = true ↔ value a ≤ value b) :
    (xs.mergeSort le).Pairwise fun a b => value a ≤ value b := by
  have hSorted : (xs.mergeSort le).Pairwise fun a b => le a b = true := by
    refine pairwise_mergeSort_of_mem ?_ ?_
    · intro a ha b hb c hc hab hbc
      rw [hLe a ha b hb] at hab
      rw [hLe b hb c hc] at hbc
      exact (hLe a ha c hc).2 (hab.trans hbc)
    · intro a ha b hb
      rw [Bool.or_eq_true, hLe a ha b hb, hLe b hb a ha]
      exact le_total (value a) (value b)
  refine hSorted.imp_of_mem fun {a b} ha hb hab => ?_
  exact (hLe a (List.mem_mergeSort.1 ha) b (List.mem_mergeSort.1 hb)).1 hab

/-- A comparison by descending numbers turns a list round that ascends in them. -/
theorem mergeSort_eq_reverse {α : Type} {le : α → α → Bool} (number : α → Int) {xs : List α}
    (hLe : ∀ a ∈ xs, ∀ b ∈ xs, le a b = true ↔ number b ≤ number a)
    (hAscending : xs.Pairwise fun a b => number a < number b) : xs.mergeSort le = xs.reverse := by
  have hNodup : (xs.map number).Nodup :=
    List.pairwise_map.2 (hAscending.imp fun hLess => Int.ne_of_lt hLess)
  have hDescends : (xs.mergeSort le).Pairwise fun a b => number b ≤ number a :=
    pairwise_mergeSort_of_value (fun a => OrderDual.toDual (number a)) hLe
  refine List.Perm.eq_of_pairwise ?_ hDescends ?_ ?_
  · intro a b ha hb hab hba
    exact List.inj_on_of_nodup_map hNodup (List.mem_mergeSort.1 ha) (List.mem_reverse.1 hb)
      (le_antisymm hba hab)
  · exact List.pairwise_reverse.2 (hAscending.imp fun hLess => Int.le_of_lt hLess)
  · exact (List.mergeSort_perm xs le).trans (List.reverse_perm xs).symm

/-! ## Rows of the tables -/

/-- A row without NUL characters. -/
def SourceRow.NulFree (row : SourceRow) : Prop := ∀ column, (row.cell column).isNulFree = true

/-- A hit whose rows are rows of the tables. -/
structure Hit.Within (t : Tables) (hit : Hit) : Prop where
  target : hit.target ∈ hit.target.source.rows t
  link : ∀ x ∈ hit.link, x ∈ x.source.rows t

variable {t : Tables}

theorem Source.nulFree_of_mem (hSound : t.Sound) (hNul : t.NulFree) {source : Source}
    {row : SourceRow} (h : row ∈ source.rows t) : row.NulFree := by
  cases source with
  | records kind =>
      obtain ⟨r, hr, rfl⟩ := List.mem_map.1 h
      exact hNul.cell kind hr
  | summaries =>
      obtain ⟨s, hs, rfl⟩ := List.mem_map.1 h
      obtain ⟨r, hr, rfl⟩ := List.mem_map.1 hs
      exact Summary.nulFree_cell hSound hNul hr

theorem Hit.Within.plain (hSound : t.Sound) {hit : Hit} (h : hit.Within t) : hit.Plain :=
  ⟨(Source.plain_of_mem hSound h.target).2,
    fun x hx => (Source.plain_of_mem hSound (h.link x hx)).2⟩

/-- A route leads to rows of the tables. -/
theorem Route.Leads.within (hSound : t.Sound) {r : Route} {outer : SourceRow} {hit : Hit}
    (h : r.Leads t outer hit) : hit.Within t := by
  obtain ⟨hTarget, hTies, _⟩ := h
  refine ⟨(Source.plain_of_mem hSound hTarget).1 ▸ hTarget, fun y hy => ?_⟩
  cases hJoin : r.join with
  | direct column outerColumn =>
      rw [hJoin] at hTies
      rw [hTies.1] at hy
      cases hy
  | through link anchor reference =>
      rw [hJoin] at hTies
      obtain ⟨x, hx, hLink, _⟩ := hTies
      rw [hLink] at hy
      cases hy
      exact List.mem_map_of_mem hx

/-- A name shows fields of the rows of a hit. -/
theorem Hit.Shows.within {hit : Hit} {name : String} {f : Field} {row : SourceRow}
    (h : hit.Shows name f row) (hWithin : hit.Within t) :
    row ∈ row.source.rows t ∧ f ∈ row.source.fields := by
  cases h with
  | own hField _ => exact ⟨hWithin.target, hField⟩
  | link _ hLink hField _ => exact ⟨hWithin.link row hLink, hField⟩

/-! ## The order in which rows are reached -/

/-- Rows of a source are told apart by their keys. -/
theorem Source.keys_nodup (hSound : t.Sound) (source : Source) :
    ((source.rows t).map fun row => row.cell source.keyColumn).Nodup := by
  cases source with
  | records kind =>
      rw [Source.rows, List.map_map]
      exact hSound.keys_nodup kind
  | summaries =>
      rw [Source.rows, Tables.summaries, List.map_map, List.map_map]
      exact hSound.uuids .resource rfl

/-- Rows in the order of a column ascend in its values. -/
theorem sortRows_pairwise (column : String) {rows : List SourceRow}
    (hPlain : ∀ row ∈ rows, row.Plain) :
    (sortRows column rows).Pairwise fun a b =>
      (a.cell column).sortValue .binary ≤ (b.cell column).sortValue .binary := by
  have hLe : ∀ a ∈ rows, ∀ b ∈ rows,
      ((a.cell column).order .binary (b.cell column) != .gt) = true ↔
        (a.cell column).sortValue .binary ≤ (b.cell column).sortValue .binary := by
    intro a ha b hb
    rw [bne_iff_ne]
    exact (Cell.order_compares .binary (hPlain a ha column) (hPlain b hb column)
      fun hNocase => by cases hNocase).ne_gt
  refine (pairwise_mergeSort_of_mem ?_ ?_).imp_of_mem ?_
  · intro a ha b hb c hc hab hbc
    rw [hLe a ha b hb] at hab
    rw [hLe b hb c hc] at hbc
    exact (hLe a ha c hc).2 (hab.trans hbc)
  · intro a ha b hb
    rw [Bool.or_eq_true, hLe a ha b hb, hLe b hb a ha]
    exact le_total _ _
  · intro a b ha hb hSorted
    exact (hLe a (List.mem_mergeSort.1 ha) b (List.mem_mergeSort.1 hb)).1 hSorted

/-- Links lead to rows that have an identifier. -/
theorem Kind.linked_target {kind : Kind} {r : Route} (h : r ∈ kind.routes) :
    r.link? = none ∨ r.target.keyColumn = "uuid" := by
  revert r
  cases kind <;> decide

private theorem direct_ascending (hSound : t.Sound) (source : Source) (p : SourceRow → Bool) :
    ((sortRows source.keyColumn ((source.rows t).filter p)).map fun row =>
      ({ target := row } : Hit)).Pairwise fun a b => a.place < b.place := by
  have hRows : ∀ row ∈ (source.rows t).filter p, row.source = source ∧ row.Plain := fun row hRow =>
    Source.plain_of_mem hSound (List.mem_filter.1 hRow).1
  have hSorted := sortRows_pairwise source.keyColumn fun row hRow => (hRows row hRow).2
  have hKeys : ((sortRows source.keyColumn ((source.rows t).filter p)).map fun row =>
      row.cell source.keyColumn).Nodup :=
    ((List.mergeSort_perm _ _).map _).nodup_iff.2
      ((source.keys_nodup hSound).sublist (List.filter_sublist.map _))
  refine List.pairwise_map.2 ((hSorted.and (List.pairwise_map.1 hKeys)).imp_of_mem ?_)
  intro a b ha hb hOrder
  obtain ⟨hSourceA, hPlainA⟩ := hRows a (List.mem_mergeSort.1 ha)
  obtain ⟨hSourceB, hPlainB⟩ := hRows b (List.mem_mergeSort.1 hb)
  refine lt_of_le_of_ne ?_ fun hSame => hOrder.2 ?_
  · simpa [Hit.place, Hit.keyValue, hSourceA, hSourceB] using hOrder.1
  · refine Cell.sortValue_injective (hPlainA _) (hPlainB _) ?_
    simpa [Hit.place, Hit.keyValue, hSourceA, hSourceB] using hSame

private theorem through_ascending (hSound : t.Sound) (hNumbered : t.Numbered) {source : Source}
    (hKey : source.keyColumn = "uuid") (link : Kind) (reference : String) (p : Row → Bool) :
    (((t.rows link).filter p).flatMap fun x =>
      ((source.rows t).filter fun row => (row.cell "uuid").same (x.cell link reference)).map
        fun row => ({ link := some (.record link x), target := row } : Hit)).Pairwise
      fun a b => a.place < b.place := by
  refine List.pairwise_flatMap.2 ⟨fun x hx => ?_, ?_⟩
  · -- A link leads to one row at most.
    have hCell := Tables.plain_cell (hSound.fits link x (List.mem_filter.1 hx).1) reference
    have hKeys := List.pairwise_map.1 (hKey ▸ source.keys_nodup hSound)
    refine List.pairwise_map.2 ((hKeys.filter _).imp_of_mem ?_)
    intro a b ha hb hApart
    obtain ⟨hRowA, hSameA⟩ := List.mem_filter.1 ha
    obtain ⟨hRowB, hSameB⟩ := List.mem_filter.1 hb
    have hA := (Cell.same_iff_agrees ((Source.plain_of_mem hSound hRowA).2 _) hCell).1 hSameA
    have hB := (Cell.same_iff_agrees ((Source.plain_of_mem hSound hRowB).2 _) hCell).1 hSameB
    exact absurd (hA.1.trans hB.1.symm) hApart
  · refine ((hNumbered.ascending link).filter p).imp ?_
    rintro x y hLess a ha b hb
    obtain ⟨_, _, rfl⟩ := List.mem_map.1 ha
    obtain ⟨_, _, rfl⟩ := List.mem_map.1 hb
    exact SortValue.number_strictMono hLess

/-- **What a route reaches comes in the order of its places.** -/
theorem Route.reach_ascending (hSound : t.Sound) (hNumbered : t.Numbered) {kind : Kind} {r : Route}
    (hRoute : r ∈ kind.routes) (outer : SourceRow) :
    (r.reach t outer).Pairwise fun a b => a.place < b.place := by
  suffices hJoined : (r.joined t outer).Pairwise fun a b => a.place < b.place by
    unfold Route.reach
    cases r.restriction with
    | none => exact hJoined
    | some rule => exact hJoined.filter _
  have hTarget := Kind.linked_target hRoute
  unfold Route.joined
  cases hJoin : r.join with
  | direct column outerColumn => exact direct_ascending hSound _ _
  | through link anchor reference =>
      exact through_ascending hSound hNumbered (hTarget.resolve_left (by simp [link?, hJoin])) _ _ _

/-- The first row that is reached has the lowest place. -/
theorem Route.first_of_reach (hSound : t.Sound) (hNumbered : t.Numbered) {kind : Kind} {r : Route}
    (hRoute : r ∈ kind.routes) {outer : SourceRow} (hOuter : outer.Plain) {hit : Hit}
    {rest : List Hit} (hReach : r.reach t outer = hit :: rest) : r.First t outer hit := by
  have hAscending := Route.reach_ascending hSound hNumbered hRoute outer
  rw [hReach, List.pairwise_cons] at hAscending
  refine ⟨(Route.mem_reach_iff hSound hOuter).1 (by simp [hReach]), fun other hLeads hOther => ?_⟩
  have hIn := (Route.mem_reach_iff hSound hOuter).2 hLeads
  rw [hReach, List.mem_cons] at hIn
  exact hAscending.1 other (hIn.resolve_left hOther)

theorem Route.First.unique {r : Route} {outer : SourceRow} {a b : Hit} (ha : r.First t outer a)
    (hb : r.First t outer b) : a = b := by
  by_contra hOther
  exact lt_asymm (ha.2 b hb.1 (Ne.symm hOther)) (hb.2 a ha.1 hOther)

/-! ## What sort keys tell -/

/-- Whether a sort key tells what a subject counts for in a hit. -/
structure SortKey.Tells (t : Tables) (key : SortKey) (subject : SortSubject) (hit : Hit) : Prop where
  counts : ∀ v, hit.CountsFor t subject v ↔
    v = (key.value t (.ofHit hit)).sortValue key.collation
  plain : (key.value t (.ofHit hit)).isPlain = true
  nulFree : (key.value t (.ofHit hit)).isNulFree = true

/-- Columns that ignore case belong to fields that do. -/
theorem Source.nocase_of_collation {source : Source} {f : Field} (h : f ∈ source.fields)
    (hCollation : source.collation f.column = .nocase) : f.nocase = true := by
  revert f
  cases source with
  | records kind => cases kind <;> decide
  | summaries => decide

/-- The cell that a key shows of a cell of a field: an absent index is absent. -/
def Field.sortCell (f : Field) (cell : Cell) : Cell :=
  if f.type = .index && cell.same (.integer (-1)) then .null else cell

/-- What a key shows of a field is what the field counts for. -/
theorem SourceRow.sortValue_sortCell (hSound : t.Sound) {row : SourceRow}
    (hRow : row ∈ row.source.rows t) {f : Field} (hField : f ∈ row.source.fields) :
    (f.sortCell (row.cell f.column)).sortValue
      (if f.nocase then .nocase else row.source.collation f.column) = row.sortValue f := by
  have hCollation : (if f.nocase then Collation.nocase else row.source.collation f.column) =
      if f.nocase then .nocase else .binary := by
    cases hDeclared : row.source.collation f.column with
    | binary => rfl
    | nocase => rw [Source.nocase_of_collation hField hDeclared]; rfl
  have hAbsent : (f.type = .index && (row.cell f.column).same (.integer (-1))) = true ↔
      f.type = .index ∧ row.cell f.column = .integer (-1) := by
    rw [Bool.and_eq_true, decide_eq_true_eq,
      Cell.same_iff_agrees ((Source.plain_of_mem hSound hRow).2 _) rfl, Cell.Agrees]
    refine and_congr_right fun _ => and_iff_left_of_imp fun hCell => ?_
    rw [hCell]
    exact Cell.noConfusion
  rw [hCollation, Field.sortCell, SourceRow.sortValue]
  by_cases hMissing : f.type = .index ∧ row.cell f.column = .integer (-1)
  · rw [if_pos (hAbsent.2 hMissing), if_pos hMissing]
    rfl
  · rw [if_neg (mt hAbsent.1 hMissing), if_neg hMissing]

theorem Field.sortCell_of {P : Cell → Prop} (f : Field) {cell : Cell} (hNull : P .null)
    (hCell : P cell) : P (f.sortCell cell) := by
  unfold sortCell
  split
  · exact hNull
  · exact hCell

variable {env : Env} {source : Source} {row : RowName} {link : Option (Kind × RowName)}
  {hit : Hit} {name property : String} {scope : Scope} {kind : Kind}

/-- What a key shows of a plain name is what the name counts for. -/
theorem Env.Sees.sortCell (hSound : t.Sound) (hNul : t.NulFree)
    (h : env.Sees source row link hit) (hWithin : hit.Within t) {column : Column} {f : Field}
    (hShown : source.shown? row link name = some (column, f)) :
    ∃ r, (∀ g x, hit.Shows name g x ↔ g = f ∧ x = r) ∧
      (f.sortCell (env.cell column)).sortValue (if f.nocase then .nocase else column.collation) =
        r.sortValue f ∧
      (f.sortCell (env.cell column)).isPlain = true ∧
      (f.sortCell (env.cell column)).isNulFree = true := by
  obtain ⟨r, hKnown, hName, hCollation, hShows⟩ := h.shows_iff hShown
  obtain ⟨hRow, hField⟩ := ((hShows f r).2 ⟨rfl, rfl⟩).within hWithin
  have hCell : env.cell column = r.cell f.column := by simp [Env.cell, hKnown, hName]
  rw [hCell, hCollation]
  exact ⟨r, hShows, SourceRow.sortValue_sortCell hSound hRow hField,
    f.sortCell_of (P := fun cell => cell.isPlain = true) rfl ((Source.plain_of_mem hSound hRow).2 _),
    f.sortCell_of (P := fun cell => cell.isNulFree = true) rfl
      (Source.nulFree_of_mem hSound hNul hRow _)⟩

/-- What a key behind a route shows is what the route gives. -/
theorem Env.Sees.gives_iff (hSound : t.Sound) (hNul : t.NulFree) (hNumbered : t.Numbered)
    (h : env.Sees (.records scope.kind) scope.self scope.link hit) (hWithin : hit.Within t)
    {route : Route} (hRoute : route ∈ scope.kind.routes) {number : Nat} {path : Path}
    (hPath : scope.routePath? route number name = some path) (direction : Direction) :
    let key := path.sortKey direction
    (∀ v, route.Gives t hit.target name v ↔ v = (key.value t env).sortValue key.collation) ∧
      (key.value t env).isPlain = true ∧ (key.value t env).isNulFree = true := by
  intro key
  have hOuter := (hWithin.plain hSound).target
  have hVia : key.via = some ⟨route, scope.self, number⟩ := Scope.via_of_routePath? hPath
  have hReached : env.reach t route scope.self = route.reach t hit.target := by
    rw [Env.reach, h.target]
  cases hReach : route.reach t hit.target with
  | nil =>
      have hNothing : ∀ reached, ¬ route.Leads t hit.target reached := fun reached hLeads => by
        have hIn := (Route.mem_reach_iff hSound hOuter).2 hLeads
        rw [hReach] at hIn
        cases hIn
      have hAbsent : path.field.sortCell .null = .null :=
        path.field.sortCell_of (P := (· = Cell.null)) rfl rfl
      have hValue : key.value t env = .null := by
        rw [← hAbsent]
        simp only [SortKey.value, hVia, hReached, hReach]
        rfl
      rw [hValue]
      refine ⟨fun v => ⟨?_, ?_⟩, rfl, rfl⟩
      · rintro (⟨hFirst, _⟩ | _)
        · exact absurd hFirst.1 (hNothing _)
        · rfl
      · rintro rfl
        exact .nothing hNothing
  | cons reached rest =>
      have hFirst := Route.first_of_reach hSound hNumbered hRoute hOuter hReach
      have hValue : key.value t env =
          path.field.sortCell ((env.bind number reached).cell path.column) := by
        simp only [SortKey.value, hVia, hReached, hReach]
        rfl
      rw [hValue]
      have hShown := scope.shown?_of_routePath? route number name
      rw [hPath, Option.map_some] at hShown
      obtain ⟨r, hShows, hCounts, hPlain, hFree⟩ :=
        (hFirst.1.sees hSound env number).sortCell hSound hNul (hFirst.1.within hSound) hShown
      refine ⟨fun v => ?_, hPlain, hFree⟩
      refine Iff.trans ⟨?_, ?_⟩ (Eq.congr_right hCounts.symm)
      · rintro (⟨hOther, hField⟩ | hNothing)
        · obtain rfl := hOther.unique hFirst
          obtain ⟨rfl, rfl⟩ := (hShows _ _).1 hField
          rfl
        · exact absurd hFirst.1 (hNothing _)
      · rintro rfl
        exact .first hFirst ((hShows _ _).2 ⟨rfl, rfl⟩)

/-! ## What properties count for -/

/-- A path counts for what its route gives for its inner name. -/
theorem Hit.counts_path_iff (hSource : hit.target.source = .records kind) {route : Route}
    (hRoute : kind.route? name = some route) {inner : String}
    (hSplit : splitPath? property = some (name, inner)) {v : SortValue} :
    hit.Counts t property v ↔ route.Gives t hit.target inner v := by
  have hRoutes := SourceRow.routes_eq hSource
  constructor
  · rintro (hShows | ⟨hOther, hGives⟩ | ⟨hOther, _, _⟩)
    · rw [splitPath?_eq_none_iff.2 hShows.noHash] at hSplit
      cases hSplit
    · rw [splitPath?_append (noHash_of_mem_routes hSource hOther)] at hSplit
      cases hSplit
      rw [Kind.route?_eq_some_iff.2 ⟨hRoutes ▸ hOther, rfl⟩] at hRoute
      cases hRoute
      exact hGives
    · rw [splitPath?_eq_none_iff.2 (noHash_of_mem_routes hSource hOther)] at hSplit
      cases hSplit
  · intro hGives
    obtain ⟨hMem, rfl⟩ := Kind.route?_eq_some_iff.1 hRoute
    rw [eq_of_splitPath? hSplit]
    exact .path (hRoutes ▸ hMem) hGives

/-- A name with a field nearby counts for that field. -/
theorem Hit.counts_here_iff {f : Field} {r : SourceRow}
    (hShows : ∀ g x, hit.Shows property g x ↔ g = f ∧ x = r) {v : SortValue} :
    hit.Counts t property v ↔ v = r.sortValue f := by
  have hHere : hit.Shows property f r := (hShows f r).2 ⟨rfl, rfl⟩
  constructor
  · rintro (hOther | ⟨_, _⟩ | ⟨_, hFar, _⟩)
    · obtain ⟨rfl, rfl⟩ := (hShows _ _).1 hOther
      rfl
    · exact absurd (hash_mem_path _ _) hHere.noHash
    · exact absurd hHere (hFar f r)
  · rintro rfl
    exact .here hHere

/-- A name without a field nearby counts for the usual property of its route. -/
theorem Hit.counts_usual_iff (hSource : hit.target.source = .records kind) {route : Route}
    (hRoute : kind.route? property = some route) (hFar : ∀ f y, ¬ hit.Shows property f y)
    {v : SortValue} :
    hit.Counts t property v ↔ route.Gives t hit.target route.sortProperty v := by
  have hRoutes := SourceRow.routes_eq hSource
  obtain ⟨hMem, rfl⟩ := Kind.route?_eq_some_iff.1 hRoute
  constructor
  · generalize hProperty : route.name = name
    rintro (hHere | ⟨_, _⟩ | ⟨hOther, _, hGives⟩)
    · exact absurd hHere (hProperty ▸ hFar _ _)
    · have hHash : '#' ∈ route.name.toList := hProperty ▸ hash_mem_path _ _
      exact absurd hHash (noHash_of_mem_routes hSource (hRoutes ▸ hMem))
    · rw [Kind.route?_eq_some_iff.2 ⟨hRoutes ▸ hOther, hProperty.symm⟩] at hRoute
      cases hRoute
      exact hGives
  · exact .usual (hRoutes ▸ hMem) hFar

/-- **A compiled sort key tells what its property counts for.** -/
theorem Env.Sees.tells_of_resolve (hSound : t.Sound) (hNul : t.NulFree) (hNumbered : t.Numbered)
    (h : (Env.ofHit hit).Sees (.records scope.kind) scope.self scope.link hit)
    (hWithin : hit.Within t) {used after : Nat} {path : Path}
    (hResolve : scope.resolve Route.sortProperty used property = .ok (path, after))
    (direction : Direction) : (path.sortKey direction).Tells t (.property property) hit := by
  have hShown := scope.shown?_of_fieldPath? property
  rcases Scope.resolve_eq_ok hResolve with
    ⟨name, inner, route, hSplit, hRoute, hPath⟩ | hField | ⟨hNone, route, hRoute, hPath⟩
  · have hMem := (Kind.route?_eq_some_iff.1 hRoute).1
    obtain ⟨hGives, hPlain, hFree⟩ :=
      h.gives_iff hSound hNul hNumbered hWithin hMem hPath direction
    exact ⟨fun v => (Hit.counts_path_iff h.source hRoute hSplit).trans (hGives v), hPlain, hFree⟩
  · rw [hField, Option.map_some] at hShown
    obtain ⟨r, hShows, hCounts, hPlain, hFree⟩ := h.sortCell hSound hNul hWithin hShown
    have hValue : (path.sortKey direction).value t (.ofHit hit) =
        path.field.sortCell ((Env.ofHit hit).cell path.column) := by
      rw [SortKey.value, show (path.sortKey direction).via = none from Scope.via_of_fieldPath? hField]
      rfl
    rw [← hValue] at hCounts hPlain hFree
    exact ⟨fun v => (Hit.counts_here_iff hShows).trans (Eq.congr_right hCounts.symm), hPlain, hFree⟩
  · rw [hNone, Option.map_none] at hShown
    have hMem := (Kind.route?_eq_some_iff.1 hRoute).1
    obtain ⟨hGives, hPlain, hFree⟩ :=
      h.gives_iff hSound hNul hNumbered hWithin hMem hPath direction
    exact ⟨fun v => (Hit.counts_usual_iff h.source hRoute (h.not_shows hShown)).trans (hGives v),
      hPlain, hFree⟩

/-- The keys of several properties tell what they count for. -/
theorem Scope.tells_of_propertyKeys (hSound : t.Sound) (hNul : t.NulFree) (hNumbered : t.Numbered)
    {properties : List (String × Direction)} {used : Nat} {seen : List PropertyKey}
    {keys : List SortKey} (hKeys : scope.propertyKeys used seen properties = .ok keys) :
    List.Forall₂ (fun key p => key.direction = some p.2 ∧
      ∀ hit : Hit, (Env.ofHit hit).Sees (.records scope.kind) scope.self scope.link hit →
        hit.Within t → key.Tells t (.property p.1) hit) keys properties := by
  induction properties generalizing used seen keys with
  | nil =>
      cases hKeys
      exact .nil
  | cons p rest ih =>
      obtain ⟨property, direction⟩ := p
      unfold propertyKeys at hKeys
      split at hKeys
      · cases hKeys
      · rename_i hResolve
        split at hKeys
        · cases hKeys
        · obtain ⟨others, hOthers, rfl⟩ := exists_of_map_ok hKeys
          exact .cons ⟨rfl, fun hit hSees hWithin =>
            hSees.tells_of_resolve hSound hNul hNumbered hWithin hResolve direction⟩ (ih hOthers)

/-- What is told by keys has one value. -/
theorem Hit.valued_of_tells {subjects : List (SortSubject × Direction)} {keys : List SortKey}
    (h : List.Forall₂ (fun key p => key.Tells t p.1 hit) keys subjects) :
    hit.Valued t subjects := by
  induction h with
  | nil => exact fun p hp => by cases hp
  | cons hTells _ ih =>
      intro q hq
      rcases List.mem_cons.1 hq with rfl | hRest
      · exact ⟨_, (hTells.counts _).2 rfl, fun v hv => (hTells.counts v).1 hv⟩
      · exact ih q hRest

/-! ## Comparing hits -/

/-- How a key compares two hits. -/
def SortKey.compareHits (t : Tables) (key : SortKey) (a b : Hit) : Ordering :=
  key.compare (key.value t (.ofHit a)) (key.value t (.ofHit b))

/-- How several keys compare two hits. -/
def compareHits (t : Tables) (keys : List SortKey) (a b : Hit) : Ordering :=
  compareKeys keys (keys.map fun key => key.value t (.ofHit a))
    (keys.map fun key => key.value t (.ofHit b))

@[simp] theorem compareHits_nil (a b : Hit) : compareHits t [] a b = .eq := rfl

@[simp] theorem compareHits_cons (key : SortKey) (keys : List SortKey) (a b : Hit) :
    compareHits t (key :: keys) a b = (key.compareHits t a b).then (compareHits t keys a b) := rfl

/-- A comparison turned around says which value comes first in a direction. -/
private theorem turn_eq_gt_iff {direction : Direction} {o : Ordering} {v w : SortValue}
    (h : o.Compares v w) : direction.turn o = .gt ↔ direction.Less w v := by
  cases direction with
  | ascending => exact h.eq_gt
  | descending => exact Ordering.swap_eq_gt.trans h.eq_lt

private theorem turn_eq_eq_iff {direction : Direction} {o : Ordering} {v w : SortValue}
    (h : o.Compares v w) : direction.turn o = .eq ↔ w = v := by
  rw [@eq_comm _ w, ← h.eq_eq]
  cases direction with
  | ascending => rfl
  | descending => exact Ordering.swap_eq_eq

/-- Subjects decide before the keys that end every order. -/
theorem compareHits_append_eq_gt_iff {keys last : List SortKey}
    {subjects : List (SortSubject × Direction)} {a b : Hit}
    (h : List.Forall₂ (fun key p => key.direction = some p.2 ∧ key.Tells t p.1 a ∧ key.Tells t p.1 b)
      keys subjects)
    (hLast : compareHits t last a b = .gt ↔ Hit.Precedes t [] b a) :
    compareHits t (keys ++ last) a b = .gt ↔ Hit.Precedes t subjects b a := by
  induction h with
  | nil => exact hLast
  | @cons key p keys subjects hHead _ ih =>
      obtain ⟨hDirection, hA, hB⟩ := hHead
      have hCompares := Cell.order_compares key.collation hA.plain hB.plain
        fun _ => hA.nulFree
      have hTurn : key.compareHits t a b =
          p.2.turn ((key.value t (.ofHit a)).order key.collation (key.value t (.ofHit b))) := by
        rw [SortKey.compareHits, SortKey.compare, hDirection]
        rfl
      rw [List.cons_append, compareHits_cons, Ordering.then_eq_gt, hTurn, turn_eq_gt_iff hCompares,
        turn_eq_eq_iff hCompares, ih]
      exact (Hit.precedes_cons_iff hB.counts hA.counts).symm

private theorem Hit.Plain.cell (h : hit.Plain) (column : Column) :
    ((Env.ofHit hit).cell column).isPlain = true := by
  obtain ⟨row, name, collation⟩ := column
  cases row with
  | self => exact h.target name
  | selfLink =>
      cases hLink : hit.link with
      | none => simp [Env.cell, Env.ofHit, hLink, Cell.isPlain]
      | some x => simpa [Env.cell, Env.ofHit, hLink] using h.link x hLink name
  | target | link => rfl

/-- A key without a direction compares hits by the values of its column. -/
private theorem column_compares {column : Column} (hBinary : column.collation = .binary) {a b : Hit}
    (ha : a.Plain) (hb : b.Plain) :
    (({ column := column } : SortKey).compareHits t a b).Compares
      (((Env.ofHit a).cell column).sortValue .binary)
      (((Env.ofHit b).cell column).sortValue .binary) := by
  have hOrder : ({ column := column } : SortKey).compareHits t a b =
      ((Env.ofHit a).cell column).order .binary ((Env.ofHit b).cell column) := by
    rw [← hBinary]
    rfl
  rw [hOrder]
  exact Cell.order_compares .binary (ha.cell column) (hb.cell column) fun hNocase => by cases hNocase

private theorem Env.Sees.keyValue (h : (Env.ofHit hit).Sees (.records kind) row link hit) :
    ((Env.ofHit hit).cell (kind.column row kind.keyColumn)).sortValue .binary = hit.keyValue := by
  rw [Hit.keyValue, h.source, Env.cell, Kind.column, h.target]
  rfl

private theorem Env.Sees.linkValue {linkRow : RowName}
    (h : (Env.ofHit hit).Sees source row (some (kind, linkRow)) hit) :
    ((Env.ofHit hit).cell (kind.column linkRow "rowid")).sortValue .binary = hit.linkValue := by
  obtain ⟨x, hLink, _, hKnown⟩ := h.link
  rw [Hit.linkValue, hLink, Env.cell, Kind.column, hKnown]
  rfl

/-- The keys that end every order compare the keys of records and then the links. -/
theorem Scope.compare_lastKeys_eq_gt_iff (hSound : t.Sound) {a b : Hit}
    (ha : (Env.ofHit a).Sees (.records scope.kind) scope.self scope.link a)
    (hb : (Env.ofHit b).Sees (.records scope.kind) scope.self scope.link b)
    (hWithinA : a.Within t) (hWithinB : b.Within t) :
    compareHits t scope.lastKeys a b = .gt ↔ Hit.Precedes t [] b a := by
  have hPlainA := hWithinA.plain hSound
  have hPlainB := hWithinB.plain hSound
  have hKeyColumn : (scope.kind.column scope.self scope.kind.keyColumn).collation = .binary := by
    cases scope.kind <;> rfl
  have hKey := column_compares (t := t) hKeyColumn hPlainA hPlainB
  rw [ha.keyValue, hb.keyValue] at hKey
  rw [Hit.precedes_nil_iff, ← hKey.eq_gt, @eq_comm _ b.keyValue, ← hKey.eq_eq, Scope.lastKeys,
    compareHits_cons, Ordering.then_eq_gt]
  refine or_congr_right (and_congr_right fun _ => ?_)
  have hLinkA := ha.link
  have hLinkB := hb.link
  cases hScope : scope.link with
  | none =>
      rw [hScope] at hLinkA hLinkB
      have hNoLinks : a.linkValue = b.linkValue := by
        rw [Hit.linkValue, Hit.linkValue, hLinkA, hLinkB]
      rw [hNoLinks]
      exact iff_of_false (by simp) (lt_irrefl _)
  | some p =>
      have hRowid : (p.1.column p.2 "rowid").collation = .binary := by
        cases p.1 <;> rfl
      have hLink := column_compares (t := t) hRowid hPlainA hPlainB
      rw [hScope] at ha hb
      rw [ha.linkValue, hb.linkValue] at hLink
      rw [← hLink.eq_gt]
      simp

/-! ## Sorting hits -/

private theorem sortBy_eq_mergeSort {α : Type} (keys : List SortKey) (view : α → Hit)
    (items : List α) :
    sortBy t keys view items =
      items.mergeSort fun a b => compareHits t keys (view a) (view b) != .gt := by
  unfold sortBy
  dsimp only
  rw [List.map_mergeSort (s := fun a b => compareHits t keys (view a) (view b) != .gt)]
  · simp only [List.map_map, Function.comp_def, List.map_id']
  · intro a ha b hb
    obtain ⟨x, _, rfl⟩ := List.mem_map.1 ha
    obtain ⟨y, _, rfl⟩ := List.mem_map.1 hb
    rfl

/-- Items that are in order stay where they are. -/
theorem sortBy_eq_self {α : Type} {keys : List SortKey} {view : α → Hit} {items : List α}
    (h : (items.map view).Pairwise fun a b => compareHits t keys a b ≠ .gt) :
    sortBy t keys view items = items := by
  rw [sortBy_eq_mergeSort]
  exact List.mergeSort_of_pairwise ((List.pairwise_map.1 h).imp fun hOrder => bne_iff_ne.2 hOrder)

/-- Items that are sorted against the order of their numbers are turned round. -/
theorem sortBy_eq_reverse {α : Type} {keys : List SortKey} {view : α → Hit} {number : α → Int}
    {items : List α}
    (hCompare : ∀ a ∈ items, ∀ b ∈ items,
      compareHits t keys (view a) (view b) = .gt ↔ number a < number b)
    (hAscending : items.Pairwise fun a b => number a < number b) :
    sortBy t keys view items = items.reverse := by
  rw [sortBy_eq_mergeSort]
  refine mergeSort_eq_reverse number (fun a ha b hb => ?_) hAscending
  rw [bne_iff_ne, ne_eq, hCompare a ha b hb, Int.not_lt]

/-- Items that are compared by values are sorted by them. -/
theorem sortBy_pairwise_of_value {α β : Type} [LinearOrder β] {keys : List SortKey}
    {view : α → Hit} (value : α → β) {items : List α}
    (hCompare : ∀ a ∈ items, ∀ b ∈ items,
      compareHits t keys (view a) (view b) = .gt ↔ value b < value a) :
    (sortBy t keys view items).Pairwise fun a b => value a ≤ value b := by
  rw [sortBy_eq_mergeSort]
  refine pairwise_mergeSort_of_value value fun a ha b hb => ?_
  rw [bne_iff_ne, ne_eq, hCompare a ha b hb, not_lt]

/-- **Sorted items do not come before items that precede them.** -/
theorem sortBy_pairwise {α : Type} {keys : List SortKey} {view : α → Hit} {items : List α}
    {subjects : List (SortSubject × Direction)}
    (hCompare : ∀ a ∈ items, ∀ b ∈ items,
      compareHits t keys (view a) (view b) = .gt ↔ Hit.Precedes t subjects (view b) (view a))
    (hValued : ∀ item ∈ items, (view item).Valued t subjects)
    (hApart : ∀ a ∈ items, ∀ b ∈ items, (view a).keyValue = (view b).keyValue →
      (view a).linkValue = (view b).linkValue → view a = view b) :
    (sortBy t keys view items).Pairwise fun a b => ¬ Hit.Precedes t subjects (view b) (view a) := by
  have hLe : ∀ a ∈ items, ∀ b ∈ items, (compareHits t keys (view a) (view b) != .gt) = true ↔
      ¬ Hit.Precedes t subjects (view b) (view a) := fun a ha b hb => by
    rw [bne_iff_ne, ne_eq, hCompare a ha b hb]
  rw [sortBy_eq_mergeSort]
  refine (pairwise_mergeSort_of_mem ?_ ?_).imp_of_mem ?_
  · intro a ha b hb c hc hab hbc
    rw [hLe a ha b hb] at hab
    rw [hLe b hb c hc] at hbc
    exact (hLe a ha c hc).2
      (Hit.not_precedes_trans (hValued a ha) (hValued b hb) (hApart a ha b hb) hab hbc)
  · intro a ha b hb
    rw [Bool.or_eq_true, hLe a ha b hb, hLe b hb a ha]
    by_contra hBoth
    obtain ⟨hBack, hForth⟩ := not_or.1 hBoth
    exact Hit.Precedes.irrefl (hValued a ha)
      ((not_not.1 hForth).trans (hValued b hb) (not_not.1 hBack))
  · intro a b ha hb hSorted
    exact (hLe a (List.mem_mergeSort.1 ha) b (List.mem_mergeSort.1 hb)).1 hSorted

end Shelfmark
