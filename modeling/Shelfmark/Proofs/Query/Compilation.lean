import Shelfmark.Proofs.Answers
import Shelfmark.Proofs.Query.Satisfaction
import Shelfmark.Proofs.Store.Sound

/-!
# Conditions say what criteria say

A compiled criterion holds of the rows that an environment names just when the record
satisfies the criterion: `eval_compile`. The induction runs over the criterion; what makes
it go through is that an environment `Sees` the record and its link under the names of the
scope, and keeps doing so for every row that a route reaches, under the names of the
subquery.

Rows are taken from sound tables, where cells are plain and plain cells are compared by
what they are.
-/

namespace Shelfmark

/-! ## Comparing cells -/

namespace Cell

theorem isNull_iff {cell : Cell} : cell.isNull = true ↔ cell = .null := by
  cases cell <;> simp [isNull]

theorem isNull_eq_false_iff {cell : Cell} : cell.isNull = false ↔ cell ≠ .null := by
  cases cell <;> simp [isNull]

/-- Plain cells are equal in a column when they are there and meet each other. -/
theorem equals_iff_meets {collation : Collation} {a b : Cell} (ha : a.isPlain = true)
    (hb : b.isPlain = true) :
    a.equals collation b = true ↔ b ≠ .null ∧ a.Meets collation b := by
  rw [equals_iff, isNull_eq_false_iff, isNull_eq_false_iff]
  unfold Meets
  cases a with
  | real | blob => cases ha
  | null => cases b <;> simp
  | integer i =>
      cases b with
      | real | blob => cases hb
      | null | text => simp [order, rank, compare, compareOfLessAndEq]
      | integer j => simp [order, Int64.toInt_inj]
  | text s =>
      cases b with
      | real | blob => cases hb
      | null | integer => simp [order, rank, compare, compareOfLessAndEq]
      | text u =>
          cases collation with
          | binary => simp [order, Collation.compareText, compareChars_eq_iff, String.toList_inj]
          | nocase =>
              have hFolded : (foldedStart s.toList = foldedStart u.toList ∧
                  Text.byteLength s.toList = Text.byteLength u.toList) ↔ EqualFolded s u := Iff.rfl
              simp only [order, Collation.compareText, compareFolded_eq_iff, hFolded]
              constructor
              · rintro ⟨-, hText, hEqual⟩
                exact ⟨hText, Or.inr ⟨trivial, s, u, rfl, rfl, hEqual⟩⟩
              · rintro ⟨hText, hSame | ⟨-, _, _, hs, hu, hEqual⟩⟩
                · cases hSame
                  exact ⟨hText, hText, .refl s⟩
                · cases hs
                  cases hu
                  exact ⟨Cell.noConfusion, hText, hEqual⟩

theorem same_iff_agrees {a b : Cell} (ha : a.isPlain = true) (hb : b.isPlain = true) :
    a.same b = true ↔ a.Agrees b := by
  rw [same, equals_iff_meets ha hb, Meets, Agrees]
  constructor
  · rintro ⟨hNull, hSame | ⟨hCollation, _⟩⟩
    · exact ⟨hSame, hSame ▸ hNull⟩
    · cases hCollation
  · rintro ⟨hSame, hNull⟩
    exact ⟨hSame ▸ hNull, Or.inl hSame⟩

end Cell

/-! ## Rows of sources -/

/-- A row whose cells are such as fields store. -/
def SourceRow.Plain (row : SourceRow) : Prop := ∀ column, (row.cell column).isPlain = true

/-- A hit whose rows are plain. -/
structure Hit.Plain (hit : Hit) : Prop where
  target : hit.target.Plain
  link : ∀ x ∈ hit.link, x.Plain

variable {t : Tables}

theorem Summary.plain_joinCells (separator : String) (cells : List Cell) :
    (joinCells separator cells).isPlain = true := by
  unfold joinCells
  split <;> rfl

theorem Summary.plain_cell (hSound : t.Sound) {row : Row} (hRow : row ∈ t.resources)
    (column : String) : ((ofResource t row).cell column).isPlain = true :=
  Tables.summary_cell_of_forall (P := fun cell => cell.isPlain = true) rfl
    (fun kind row hRow => Tables.plain_cell (hSound.fits kind row hRow)) hRow
    (plain_joinCells _ _) (plain_joinCells _ _) column

/-- The rows of a source are its rows, and they are plain. -/
theorem Source.plain_of_mem (hSound : t.Sound) {source : Source} {row : SourceRow}
    (h : row ∈ source.rows t) : row.source = source ∧ row.Plain := by
  cases source with
  | records kind =>
      obtain ⟨r, hr, rfl⟩ := List.mem_map.1 h
      exact ⟨rfl, Tables.plain_cell (hSound.fits kind r hr)⟩
  | summaries =>
      obtain ⟨s, hs, rfl⟩ := List.mem_map.1 h
      obtain ⟨r, hr, rfl⟩ := List.mem_map.1 hs
      exact ⟨rfl, Summary.plain_cell hSound hr⟩

/-! ## Routes -/

theorem Hit.obeys_iff {hit : Hit} {rule : Restriction} :
    hit.obeys rule = true ↔ hit.Keeps rule := by
  unfold Hit.obeys Hit.Keeps
  by_cases hSide : rule.onLink
  · cases hLink : hit.link with
    | none => simp [hSide]
    | some x => simp [hSide, Cell.same_text_iff]
  · simp [hSide, Cell.same_text_iff]

/-- Joining finds what the columns tie to the outer row. -/
theorem Route.mem_joined_iff (hSound : t.Sound) {r : Route} {outer : SourceRow}
    (hOuter : outer.Plain) {hit : Hit} :
    hit ∈ r.joined t outer ↔ hit.target ∈ r.target.rows t ∧ r.join.Ties t outer hit := by
  obtain ⟨hitLink, target⟩ := hit
  have hPlain : ∀ row ∈ r.target.rows t, row.Plain := fun row hRow =>
    (Source.plain_of_mem hSound hRow).2
  unfold Route.joined
  cases r.join with
  | direct column outerColumn =>
      simp only [sortRows, List.mem_map, List.mem_mergeSort, List.mem_filter]
      constructor
      · rintro ⟨row, ⟨hRow, hSame⟩, hHit⟩
        cases hHit
        exact ⟨hRow, rfl, (Cell.same_iff_agrees (hPlain target hRow _) (hOuter _)).1 hSame⟩
      · rintro ⟨hRow, rfl, hAgrees⟩
        exact ⟨target, ⟨hRow, (Cell.same_iff_agrees (hPlain target hRow _) (hOuter _)).2 hAgrees⟩,
          rfl⟩
  | through link anchor reference =>
      have hLinks : ∀ x ∈ t.rows link, ∀ c, (x.cell link c).isPlain = true := fun x hx =>
        Tables.plain_cell (hSound.fits link x hx)
      simp only [Tables.rowsWhere, List.mem_flatMap, List.mem_map, List.mem_filter]
      constructor
      · rintro ⟨x, ⟨hx, hAnchor⟩, row, ⟨hRow, hReference⟩, hHit⟩
        cases hHit
        exact ⟨hRow, x, hx, rfl, (Cell.same_iff_agrees (hLinks x hx _) (hOuter _)).1 hAnchor,
          (Cell.same_iff_agrees (hPlain target hRow _) (hLinks x hx _)).1 hReference⟩
      · rintro ⟨hRow, x, hx, rfl, hAnchor, hReference⟩
        exact ⟨x, ⟨hx, (Cell.same_iff_agrees (hLinks x hx _) (hOuter _)).2 hAnchor⟩, target,
          ⟨hRow, (Cell.same_iff_agrees (hPlain target hRow _) (hLinks x hx _)).2 hReference⟩, rfl⟩

/-- **What a route reaches is what it leads to.** -/
theorem Route.mem_reach_iff (hSound : t.Sound) {r : Route} {outer : SourceRow}
    (hOuter : outer.Plain) {hit : Hit} : hit ∈ r.reach t outer ↔ r.Leads t outer hit := by
  unfold Route.reach Route.Leads
  cases r.restriction with
  | none => simp [Route.mem_joined_iff hSound hOuter]
  | some rule =>
      simp [List.mem_filter, Route.mem_joined_iff hSound hOuter, Hit.obeys_iff, and_assoc]

/-! ## What names designate -/

/-- An environment that knows a hit by the names of its row and of its link. -/
structure Env.Sees (env : Env) (source : Source) (name : RowName)
    (link : Option (Kind × RowName)) (hit : Hit) : Prop where
  target : env name = some hit.target
  source : hit.target.source = source
  link : match link with
    | none => hit.link = none
    | some (kind, name) =>
        ∃ x, hit.link = some x ∧ x.source = .records kind ∧ env name = some x

/-- A row at the end of a route is seen by the names of its subquery. -/
theorem Route.Leads.sees (hSound : t.Sound) {r : Route} {outer : SourceRow} {hit : Hit}
    (h : r.Leads t outer hit) (env : Env) (number : Nat) :
    (env.bind number hit).Sees r.target (.target number)
      (r.link?.map fun kind => (kind, .link number)) hit := by
  obtain ⟨hTarget, hTies, _⟩ := h
  refine ⟨by simp [Env.bind], (Source.plain_of_mem hSound hTarget).1, ?_⟩
  unfold Route.link?
  cases hJoin : r.join with
  | direct column outerColumn =>
      rw [hJoin] at hTies
      exact hTies.1
  | through link anchor reference =>
      rw [hJoin] at hTies
      obtain ⟨x, _, hLink, _⟩ := hTies
      exact ⟨.record link x, hLink, rfl, by simp [Env.bind, hLink]⟩

theorem Route.Leads.plain (hSound : t.Sound) {r : Route} {outer : SourceRow} {hit : Hit}
    (h : r.Leads t outer hit) : hit.Plain := by
  obtain ⟨hTarget, hTies, _⟩ := h
  refine ⟨(Source.plain_of_mem hSound hTarget).2, fun y hy => ?_⟩
  cases hJoin : r.join with
  | direct column outerColumn =>
      rw [hJoin] at hTies
      rw [hTies.1] at hy
      cases hy
  | through link anchor reference =>
      rw [hJoin] at hTies
      obtain ⟨x, hx, hLink, _⟩ := hTies
      rw [hLink] at hy
      cases hy
      exact Tables.plain_cell (hSound.fits link x hx)

theorem Source.fieldNames_nodup (source : Source) : (source.fields.map Field.name).Nodup := by
  cases source with
  | records kind => cases kind <;> decide
  | summaries => decide

/-- The column and the field of a plain name, under the names of a row and of its link. -/
def Source.shown? (source : Source) (row : RowName) (link : Option (Kind × RowName))
    (name : String) : Option (Column × Field) :=
  match source.fields.find? fun f => f.name = name with
  | some f => some (source.column row f.column, f)
  | none =>
      match link with
      | none => none
      | some (kind, x) => (kind.field? name).map fun f => (kind.column x f.column, f)

theorem Scope.shown?_of_fieldPath? (scope : Scope) (name : String) :
    (Source.records scope.kind).shown? scope.self scope.link name =
      (scope.fieldPath? name).map fun path => (path.column, path.field) := by
  unfold fieldPath? Source.shown? Kind.field?
  simp only [Source.fields, Source.column]
  cases scope.kind.fields.find? fun f => f.name = name with
  | some f => rfl
  | none =>
      cases scope.link with
      | none => rfl
      | some link => simp [Option.map_map, Function.comp_def]

theorem Scope.via_of_fieldPath? {scope : Scope} {name : String} {path : Path}
    (h : scope.fieldPath? name = some path) : path.via = none := by
  unfold fieldPath? at h
  split at h
  · cases h
    rfl
  · split at h
    · cases h
    · obtain ⟨f, _, rfl⟩ := Option.map_eq_some_iff.1 h
      rfl

theorem Scope.shown?_of_routePath? (scope : Scope) (route : Route) (number : Nat)
    (name : String) :
    route.target.shown? (.target number) (route.link?.map fun kind => (kind, .link number)) name =
      (scope.routePath? route number name).map fun path => (path.column, path.field) := by
  unfold routePath? Source.shown?
  cases route.target.fields.find? fun f => f.name = name with
  | some f => rfl
  | none =>
      cases route.link? with
      | none => rfl
      | some link => simp [Option.map_map, Function.comp_def]

theorem Scope.via_of_routePath? {scope : Scope} {route : Route} {number : Nat} {name : String}
    {path : Path} (h : scope.routePath? route number name = some path) :
    path.via = some ⟨route, scope.self, number⟩ := by
  unfold routePath? at h
  extract_lets via at h
  split at h
  · cases h
    rfl
  · split at h
    · cases h
    · obtain ⟨f, _, rfl⟩ := Option.map_eq_some_iff.1 h
      rfl

variable {env : Env} {source : Source} {row : RowName} {link : Option (Kind × RowName)}
  {hit : Hit} {name : String}

private theorem find?_name_iff (source : Source) {f : Field} :
    source.fields.find? (fun g => g.name = name) = some f ↔ f ∈ source.fields ∧ f.name = name :=
  find?_key_iff source.fieldNames_nodup

private theorem find?_name_eq_none (h : source.fields.find? (fun g => g.name = name) = none) :
    ∀ g ∈ source.fields, g.name ≠ name := fun g hg => by
  simpa using List.find?_eq_none.1 h g hg

/-- A plain name with a field designates that field, in a row that the environment knows. -/
theorem Env.Sees.shows_iff (h : env.Sees source row link hit) {column : Column} {f : Field}
    (hShown : source.shown? row link name = some (column, f)) :
    ∃ r, env column.row = some r ∧ column.name = f.column ∧
      column.collation = r.source.collation f.column ∧
      ∀ g x, hit.Shows name g x ↔ g = f ∧ x = r := by
  obtain ⟨hTarget, rfl, hLink⟩ := h
  unfold Source.shown? at hShown
  split at hShown
  case h_1 own hOwn =>
    cases hShown
    obtain ⟨hField, hName⟩ := (find?_name_iff _).1 hOwn
    refine ⟨hit.target, ?_, ?_, ?_, fun g x => ⟨?_, ?_⟩⟩
    · cases hSource : hit.target.source <;> exact hTarget
    · cases hSource : hit.target.source <;> rfl
    · cases hSource : hit.target.source <;> rfl
    · rintro (⟨hField', hName'⟩ | ⟨hOther, _, _, _⟩)
      · exact ⟨Option.some.inj (((find?_name_iff _).2 ⟨hField', hName'⟩).symm.trans hOwn), rfl⟩
      · exact absurd hName (hOther f hField)
    · rintro ⟨rfl, rfl⟩
      exact .own hField hName
  case h_2 hNone =>
    have hOther := find?_name_eq_none hNone
    split at hShown
    · cases hShown
    · rename_i kind linkName
      obtain ⟨own, hOwn, hPair⟩ := Option.map_eq_some_iff.1 hShown
      cases hPair
      obtain ⟨r, hIsLink, hSource, hKnown⟩ := hLink
      obtain ⟨hField, hName⟩ := (find?_name_iff (.records kind)).1 hOwn
      refine ⟨r, hKnown, rfl, by rw [hSource]; rfl, fun g x => ⟨?_, ?_⟩⟩
      · rintro (⟨hField', hName'⟩ | ⟨_, hLink', hField', hName'⟩)
        · exact absurd hName' (hOther g hField')
        · rw [hIsLink] at hLink'
          cases hLink'
          rw [hSource] at hField'
          exact ⟨Option.some.inj (((find?_name_iff _).2 ⟨hField', hName'⟩).symm.trans hOwn), rfl⟩
      · rintro ⟨rfl, rfl⟩
        exact .link hOther hIsLink (by rw [hSource]; exact hField) hName

/-- A plain name without a field designates nothing. -/
theorem Env.Sees.not_shows (h : env.Sees source row link hit)
    (hShown : source.shown? row link name = none) (g : Field) (x : SourceRow) :
    ¬ hit.Shows name g x := by
  obtain ⟨-, rfl, hLink⟩ := h
  unfold Source.shown? at hShown
  split at hShown
  · cases hShown
  · rename_i hNone
    rintro (⟨hField, hName⟩ | ⟨_, hIsLink, hField, hName⟩)
    · exact find?_name_eq_none hNone g hField hName
    · split at hShown
      · rw [hLink] at hIsLink
        cases hIsLink
      · rename_i kind linkName
        obtain ⟨r, hIsLink', hSource, _⟩ := hLink
        rw [hIsLink'] at hIsLink
        cases hIsLink
        rw [hSource] at hField
        exact find?_name_eq_none (Option.map_eq_none_iff.1 hShown) g hField hName

/-! ## Paths -/

theorem splitPath?_eq_none_iff {property : String} :
    splitPath? property = none ↔ '#' ∉ property.toList := by
  simp [splitPath?]

/-- A path splits at its first hash sign. -/
theorem splitPath?_append {name inner : String} (h : '#' ∉ name.toList) :
    splitPath? (name ++ "#" ++ inner) = some (name, inner) := by
  have hAll : ∀ c ∈ name.toList, (c != '#') = true := fun c hc => by
    simpa using fun hHash : c = '#' => h (hHash ▸ hc)
  simp [splitPath?, List.takeWhile_append_of_pos hAll, List.dropWhile_append_of_pos hAll]

private theorem split_at_hash {cs : List Char} (h : '#' ∈ cs) :
    cs.takeWhile (· != '#') ++ '#' :: (cs.dropWhile (· != '#')).drop 1 = cs := by
  induction cs with
  | nil => cases h
  | cons c cs ih =>
      by_cases hc : c = '#'
      · simp [hc]
      · have hRest : '#' ∈ cs := (List.mem_cons.1 h).resolve_left (Ne.symm hc)
        simpa [hc] using ih hRest

theorem eq_of_splitPath? {property inner : String}
    (h : splitPath? property = some (name, inner)) : property = name ++ "#" ++ inner := by
  unfold splitPath? at h
  dsimp only at h
  split at h
  · rename_i hHash
    cases h
    refine String.toList_inj.1 ?_
    simpa using (split_at_hash (List.contains_iff_mem.1 hHash)).symm
  · cases h

theorem Source.noHash {f : Field} (h : f ∈ source.fields) : '#' ∉ f.name.toList := by
  revert f
  cases source with
  | records kind => cases kind <;> decide
  | summaries => decide

theorem Hit.Shows.noHash {f : Field} {x : SourceRow} (h : hit.Shows name f x) :
    '#' ∉ name.toList := by
  cases h with
  | own hField hName => exact hName ▸ Source.noHash hField
  | link _ _ hField hName => exact hName ▸ Source.noHash hField

theorem routeNames (kind : Kind) :
    (kind.routes.map Route.name).Nodup ∧ ∀ r ∈ kind.routes, '#' ∉ r.name.toList := by
  cases kind <;> decide

theorem Kind.route?_eq_some_iff {kind : Kind} {route : Route} :
    kind.route? name = some route ↔ route ∈ kind.routes ∧ route.name = name :=
  find?_key_iff (routeNames kind).1

/-! ## Tests -/

theorem comparedCells_eq_ok {kind : Kind} {f : Field} {values : List FieldValue}
    {cells : List Cell} (h : comparedCells kind f values = .ok cells) :
    List.Forall₂ (fun value cell => f.toCell value = .ok cell) values cells := by
  induction values generalizing cells with
  | nil =>
      cases h
      exact .nil
  | cons value values ih =>
      unfold comparedCells at h
      cases hCell : f.toCell value with
      | error cause =>
          rw [hCell] at h
          cases h
      | ok cell =>
          rw [hCell] at h
          obtain ⟨rest, hRest, rfl⟩ := exists_of_map_ok h
          exact .cons hCell (ih hRest)

private theorem exists_stored_iff {f : Field} {values : List FieldValue} {cells : List Cell}
    (h : List.Forall₂ (fun value cell => f.toCell value = .ok cell) values cells)
    (P : Cell → Prop) :
    (∃ c ∈ cells, P c) ↔ ∃ value ∈ values, ∃ c, f.toCell value = .ok c ∧ P c := by
  induction h with
  | nil => simp
  | cons hHead _ ih => simp [ih, hHead]

/-- A cell is among some when it meets one of them. -/
theorem Cell.among_iff {cell : Cell} {collation : Collation} {cells : List Cell}
    (hCell : cell.isPlain = true) (hCells : ∀ c ∈ cells, c.isPlain = true) :
    cell.among collation (cells.filter fun c => !c.isNull) (cells.any Cell.isNull) = true ↔
      ∃ c ∈ cells, cell.Meets collation c := by
  simp only [among, Bool.or_eq_true, Bool.and_eq_true, List.any_eq_true, List.mem_filter,
    Bool.not_eq_eq_eq_not, Bool.not_true]
  constructor
  · rintro (⟨c, ⟨hc, _⟩, hEquals⟩ | ⟨⟨c, hc, hNull⟩, hAbsent⟩)
    · exact ⟨c, hc, ((equals_iff_meets hCell (hCells c hc)).1 hEquals).2⟩
    · exact ⟨c, hc, Or.inl (by rw [isNull_iff.1 hAbsent, isNull_iff.1 hNull])⟩
  · rintro ⟨c, hc, hMeets⟩
    by_cases hNull : c = .null
    · subst hNull
      rcases hMeets with rfl | ⟨_, _, _, _, hText, _⟩
      · exact Or.inr ⟨⟨_, hc, rfl⟩, rfl⟩
      · cases hText
    · exact Or.inl ⟨c, ⟨hc, isNull_eq_false_iff.2 hNull⟩,
        (equals_iff_meets hCell (hCells c hc)).2 ⟨hNull, hMeets⟩⟩

/-- A cell is among the compared ones when the field has one of the values. -/
theorem among_iff_has {kind : Kind} {f : Field} {values : List FieldValue} {cells : List Cell}
    (h : comparedCells kind f values = .ok cells) {x : SourceRow} (hPlain : x.Plain) :
    (x.cell f.column).among (x.source.collation f.column) (cells.filter fun c => !c.isNull)
        (cells.any Cell.isNull) = true ↔
      ∃ value ∈ values, x.Has f value := by
  have hStored := comparedCells_eq_ok h
  have hCells : ∀ c ∈ cells, c.isPlain = true := fun c hc => by
    obtain ⟨value, _, _, hStores, rfl⟩ := (exists_stored_iff hStored (· = c)).1 ⟨c, hc, rfl⟩
    exact Field.Stores.plain ⟨value, hStores⟩
  rw [Cell.among_iff (hPlain _) hCells, exists_stored_iff hStored]
  rfl

/-- The test of a column that a plain name designates. -/
theorem Env.Sees.eval_test (h : env.Sees source row link hit) (hPlain : hit.Plain)
    {column : Column} {f : Field} (hShown : source.shown? row link name = some (column, f))
    {kind : Kind} {values : List FieldValue} {cells : List Cell}
    (hCells : comparedCells kind f values = .ok cells) :
    (Condition.test column (cells.filter fun c => !c.isNull) (cells.any Cell.isNull)).eval t env
        = true ↔ ∃ g x, hit.Shows name g x ∧ ∃ value ∈ values, x.Has g value := by
  obtain ⟨r, hKnown, hName, hCollation, hShows⟩ := h.shows_iff hShown
  have hRow : r.Plain := by
    cases (hShows f r).2 ⟨rfl, rfl⟩ with
    | own _ _ => exact hPlain.target
    | link _ hLink _ _ => exact hPlain.link r hLink
  have hCell : env.cell column = r.cell f.column := by simp [Env.cell, hKnown, hName]
  rw [Condition.eval, hCell, hCollation, among_iff_has hCells hRow]
  simp only [hShows]
  constructor
  · exact fun hHas => ⟨f, r, ⟨rfl, rfl⟩, hHas⟩
  · rintro ⟨_, _, ⟨rfl, rfl⟩, hHas⟩
    exact hHas

/-- The test of a property at the end of a route. -/
theorem Env.Sees.eval_reaches (hSound : t.Sound) (hPlain : hit.Plain) {scope : Scope}
    (h : env.Sees (.records scope.kind) scope.self scope.link hit) {route : Route} {number : Nat}
    {path : Path} (hPath : scope.routePath? route number name = some path)
    {kind : Kind} {values : List FieldValue} {cells : List Cell}
    (hCells : comparedCells kind path.field values = .ok cells) :
    (path.condition cells).eval t env = true ↔
      ∃ g x, (∃ reached, route.Leads t hit.target reached ∧ reached.Shows name g x) ∧
        ∃ value ∈ values, x.Has g value := by
  have hShown := scope.shown?_of_routePath? route number name
  rw [hPath, Option.map_some] at hShown
  rw [Path.condition, Scope.via_of_routePath? hPath]
  dsimp only
  rw [Condition.eval, List.any_eq_true, Env.reach, h.target]
  simp only [Route.mem_reach_iff hSound hPlain.target]
  constructor
  · rintro ⟨reached, hLeads, hTest⟩
    obtain ⟨g, x, hShows, hHas⟩ :=
      ((hLeads.sees hSound env number).eval_test (hLeads.plain hSound) hShown hCells).1 hTest
    exact ⟨g, x, ⟨reached, hLeads, hShows⟩, hHas⟩
  · rintro ⟨g, x, ⟨reached, hLeads, hShows⟩, hHas⟩
    refine ⟨reached, hLeads, ?_⟩
    exact ((hLeads.sees hSound env number).eval_test (hLeads.plain hSound) hShown hCells).2
      ⟨g, x, hShows, hHas⟩

/-! ## Properties -/

theorem SourceRow.routes_eq {x : SourceRow} {kind : Kind} (h : x.source = .records kind) :
    x.routes = kind.routes := by
  cases x with
  | record _ _ =>
      cases h
      rfl
  | summary _ => cases h

variable {kind : Kind} {property : String} {g : Field} {x : SourceRow} {route : Route}

theorem noHash_of_mem_routes (hSource : hit.target.source = .records kind)
    (hRoute : route ∈ hit.target.routes) : '#' ∉ route.name.toList :=
  (routeNames kind).2 route (SourceRow.routes_eq hSource ▸ hRoute)

/-- A path designates what its inner name does at the end of its route. -/
theorem Hit.designates_path_iff (hSource : hit.target.source = .records kind)
    (hRoute : kind.route? name = some route) {inner : String}
    (hSplit : splitPath? property = some (name, inner)) :
    hit.Designates t property g x ↔
      ∃ reached, route.Leads t hit.target reached ∧ reached.Shows inner g x := by
  have hRoutes := SourceRow.routes_eq hSource
  constructor
  · rintro (hShows | ⟨hOther, hLeads, hShows⟩ | ⟨hOther, _, _, _⟩)
    · rw [splitPath?_eq_none_iff.2 hShows.noHash] at hSplit
      cases hSplit
    · rw [splitPath?_append (noHash_of_mem_routes hSource hOther)] at hSplit
      cases hSplit
      rw [Kind.route?_eq_some_iff.2 ⟨hRoutes ▸ hOther, rfl⟩] at hRoute
      cases hRoute
      exact ⟨_, hLeads, hShows⟩
    · rw [splitPath?_eq_none_iff.2 (noHash_of_mem_routes hSource hOther)] at hSplit
      cases hSplit
  · rintro ⟨reached, hLeads, hShows⟩
    obtain ⟨hMem, rfl⟩ := Kind.route?_eq_some_iff.1 hRoute
    rw [eq_of_splitPath? hSplit]
    exact .path (hRoutes ▸ hMem) hLeads hShows

theorem hash_mem_path (name inner : String) : '#' ∈ (name ++ "#" ++ inner).toList := by
  simp

/-- A name with a field nearby designates just that field. -/
theorem Hit.designates_here_iff {f : Field} {y : SourceRow} (hShows : hit.Shows property f y) :
    hit.Designates t property g x ↔ hit.Shows property g x := by
  refine ⟨?_, .here⟩
  rintro (hHere | ⟨_, _, _⟩ | ⟨_, hFar, _, _⟩)
  · exact hHere
  · exact absurd (hash_mem_path _ _) hShows.noHash
  · exact absurd hShows (hFar f y)

/-- A name without a field nearby designates the usual property of its route. -/
theorem Hit.designates_usual_iff (hSource : hit.target.source = .records kind)
    (hRoute : kind.route? property = some route) (hFar : ∀ f y, ¬ hit.Shows property f y) :
    hit.Designates t property g x ↔
      ∃ reached, route.Leads t hit.target reached ∧ reached.Shows route.filterProperty g x := by
  have hRoutes := SourceRow.routes_eq hSource
  obtain ⟨hMem, rfl⟩ := Kind.route?_eq_some_iff.1 hRoute
  constructor
  · generalize hProperty : route.name = name
    rintro (hHere | ⟨hOther, _, _⟩ | ⟨hOther, _, hLeads, hShows⟩)
    · exact absurd hHere (hProperty ▸ hFar g x)
    · have hHash : '#' ∈ route.name.toList := hProperty ▸ hash_mem_path _ _
      exact absurd hHash (noHash_of_mem_routes hSource (hRoutes ▸ hMem))
    · rw [Kind.route?_eq_some_iff.2 ⟨hRoutes ▸ hOther, hProperty.symm⟩] at hRoute
      cases hRoute
      exact ⟨_, hLeads, hShows⟩
  · rintro ⟨reached, hLeads, hShows⟩
    exact .usual (hRoutes ▸ hMem) hFar hLeads hShows

/-- The three ways of a property: a path, a field nearby, or the name of a route. -/
theorem Scope.resolve_eq_ok {scope : Scope} {usual : Route → String} {used after : Nat}
    {path : Path} (h : scope.resolve usual used property = .ok (path, after)) :
    (∃ name inner route, splitPath? property = some (name, inner) ∧
      scope.kind.route? name = some route ∧
      scope.routePath? route (used + 1) inner = some path) ∨
    scope.fieldPath? property = some path ∨
    (scope.fieldPath? property = none ∧ ∃ route, scope.kind.route? property = some route ∧
      scope.routePath? route (used + 1) (usual route) = some path) := by
  unfold resolve at h
  dsimp only at h
  split at h
  · rename_i name inner hSplit
    split at h
    · cases h
    · rename_i route hName
      split at h
      · cases h
      · rename_i hPath
        cases h
        exact Or.inl ⟨name, inner, route, hSplit, hName, hPath⟩
  · split at h
    · rename_i hField
      cases h
      exact Or.inr (Or.inl hField)
    · rename_i hNone
      split at h
      · cases h
      · rename_i route hName
        split at h
        · cases h
        · rename_i hPath
          cases h
          exact Or.inr (Or.inr ⟨hNone, route, hName, hPath⟩)

/-- **The condition of a property says that it has one of the values.** -/
theorem Env.Sees.eval_propertyCondition (hSound : t.Sound) (hPlain : hit.Plain) {scope : Scope}
    (h : env.Sees (.records scope.kind) scope.self scope.link hit) {values : List FieldValue}
    {used after : Nat} {condition : Condition}
    (hCompile : scope.propertyCondition used property values = .ok (condition, after)) :
    condition.eval t env = true ↔ hit.HasOne t property values := by
  unfold Scope.propertyCondition at hCompile
  split at hCompile
  · cases hCompile
  · rename_i path _ hResolve
    split at hCompile
    · cases hCompile
    · rename_i cells hCells
      cases hCompile
      unfold Hit.HasOne
      have hShown := scope.shown?_of_fieldPath? property
      rcases Scope.resolve_eq_ok hResolve with
        ⟨name, inner, route, hSplit, hRoute, hPath⟩ | hField | ⟨hNone, route, hRoute, hPath⟩
      · rw [h.eval_reaches hSound hPlain hPath hCells]
        simp only [Hit.designates_path_iff h.source hRoute hSplit]
      · rw [hField, Option.map_some] at hShown
        obtain ⟨r, _, _, _, hShows⟩ := h.shows_iff hShown
        have hHere : hit.Shows property path.field r := (hShows _ _).2 ⟨rfl, rfl⟩
        rw [Path.condition, Scope.via_of_fieldPath? hField]
        simp only [Hit.designates_here_iff hHere]
        exact h.eval_test hPlain hShown hCells
      · rw [hNone, Option.map_none] at hShown
        rw [h.eval_reaches hSound hPlain hPath hCells]
        simp only [Hit.designates_usual_iff h.source hRoute (h.not_shows hShown)]

/-! ## Criteria -/

/-- One route at most leads to all related records of a kind. -/
theorem Kind.routeTo?_eq_some_iff {kind target : Kind} {route : Route} :
    kind.routeTo? target = some route ↔
      route ∈ kind.routes ∧ route.target = .records target ∧ route.restriction = none := by
  have hOnly : (kind.routes.filter fun r => r.target = .records target && r.restriction.isNone) =
      (kind.routeTo? target).toList := by
    cases kind <;> cases target <;> rfl
  rw [← Option.mem_toList, ← hOnly]
  simp

namespace Criterion

mutual

/-- **A compiled criterion says what the criterion says.** -/
theorem eval_compile {t : Tables} (hSound : t.Sound) {c : Criterion} {scope : Scope} {env : Env}
    {hit : Hit} (h : env.Sees (.records scope.kind) scope.self scope.link hit)
    (hPlain : hit.Plain) {used after : Nat} {condition : Condition}
    (hCompile : c.compile scope used = .ok (condition, after)) :
    condition.eval t env = true ↔ c.Holds t hit := by
  match c with
  | .equal property value => exact h.eval_propertyCondition hSound hPlain hCompile
  | .oneOf property values => exact h.eval_propertyCondition hSound hPlain hCompile
  | .both left right =>
      unfold compile at hCompile
      split at hCompile
      · cases hCompile
      · rename_i hLeft
        split at hCompile
        · cases hCompile
        · rename_i hRight
          cases hCompile
          rw [Condition.eval, Bool.and_eq_true, Holds, eval_compile hSound h hPlain hLeft,
            eval_compile hSound h hPlain hRight]
  | .anyOf terms =>
      unfold compile at hCompile
      split at hCompile
      · cases hCompile
      · rename_i hTerms
        cases hCompile
        rw [Condition.eval, Holds, eval_compileAll hSound h hPlain hTerms]
  | .related kind inner =>
      unfold compile at hCompile
      split at hCompile
      · cases hCompile
      · rename_i route hRoute
        split at hCompile
        · cases hCompile
        · rename_i hInner
          cases hCompile
          obtain ⟨_, hTarget, _⟩ := Kind.routeTo?_eq_some_iff.1 hRoute
          rw [Condition.eval, Holds, List.any_eq_true, Env.reach, h.target,
            SourceRow.routes_eq h.source]
          simp only [Route.mem_reach_iff hSound hPlain.target]
          -- Behind the route the rows are seen by the names of the subquery.
          have hBehind : ∀ reached, route.Leads t hit.target reached →
              (Condition.eval t _ (env.bind (used + 1) reached) = true ↔ inner.Holds t reached) :=
            fun reached hLeads =>
              eval_compile hSound (hTarget ▸ hLeads.sees hSound env (used + 1))
                (hLeads.plain hSound) hInner
          constructor
          · rintro ⟨reached, hLeads, hEval⟩
            obtain ⟨hMem, hTarget, hFree⟩ := Kind.routeTo?_eq_some_iff.1 hRoute
            exact ⟨route, hMem, hTarget, hFree, reached, hLeads, (hBehind reached hLeads).1 hEval⟩
          · rintro ⟨other, hMem, hTarget', hFree, reached, hLeads, hHolds⟩
            rw [Kind.routeTo?_eq_some_iff.2 ⟨hMem, hTarget', hFree⟩] at hRoute
            cases hRoute
            exact ⟨reached, hLeads, (hBehind reached hLeads).2 hHolds⟩

theorem eval_compileAll {t : Tables} (hSound : t.Sound) {cs : List Criterion} {scope : Scope}
    {env : Env} {hit : Hit} (h : env.Sees (.records scope.kind) scope.self scope.link hit)
    (hPlain : hit.Plain) {used after : Nat} {conditions : List Condition}
    (hCompile : compileAll scope used cs = .ok (conditions, after)) :
    Condition.evalAny t conditions env = true ↔ OneHolds t cs hit := by
  match cs with
  | [] =>
      cases hCompile
      simp [Condition.evalAny, OneHolds]
  | c :: cs =>
      unfold compileAll at hCompile
      split at hCompile
      · cases hCompile
      · rename_i hHead
        split at hCompile
        · cases hCompile
        · rename_i hRest
          cases hCompile
          rw [Condition.evalAny, Bool.or_eq_true, OneHolds, eval_compile hSound h hPlain hHead,
            eval_compileAll hSound h hPlain hRest]

end

end Criterion

end Shelfmark
