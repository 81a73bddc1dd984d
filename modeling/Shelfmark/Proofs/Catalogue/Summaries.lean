import Shelfmark.Proofs.Catalogue.Listing
import Shelfmark.Proofs.Catalogue.Relations
import Shelfmark.Proofs.Query.Paraphrase
import Shelfmark.Record.Variables

/-!
# Summaries

The store has a view with a row for each resource: the names of the authors and the titles of the
tags are joined, and the series is there with the place in it. All this can also be told from a
resource with everything related to it, which is read by other statements and filtered by the
program. The two tell the same, and nothing of it is evident:

* the view joins rows in the order of the links, while a listing is sorted (`Finder.reads_hits`);
* the view compares stored words and identifiers, the program roles and types;
* an index that is absent is stored as `-1`, an absent cell of the view is null, and for a label
  both are empty text.

`Amalgam.summary` is the row of the view as the program would fill it in.

## Main results

* `Summary.ofResource_eq` — the row of the view is `Amalgam.summary`.
* `Catalogue.mem_find_summary_iff` — which values of the summary find a resource.
* `Catalogue.Reachable.summary_agrees` — the two readings of a resource agree.
-/

namespace Shelfmark

/-! ## Summaries as the program tells them -/

/-- The cell of a value that may be absent. -/
def Cell.ofOption {α : Type} (f : α → Cell) : Option α → Cell
  | some a => f a
  | none => .null

/-- What a label shows of a cell. -/
def Cell.shown : Cell → Template.Value
  | .text s => .text s
  | .integer i => .ofInt64 i
  | _ => .text ""

/-- Texts joined by a separator; nothing when there is no text. -/
def joinTexts? (separator : String) : List String → Option String
  | [] => none
  | texts => some (separator.intercalate texts)

namespace Amalgam

/-- The names of the authors. -/
def authors? (a : Amalgam) : Option String := joinTexts? " & " (a.names .author)

/-- The titles of the tags. -/
def tags? (a : Amalgam) : Option String := joinTexts? ", " (a.titles tagTypeUuid)

/-- The title of the series. -/
def series? (a : Amalgam) : Option String := (a.titles seriesTypeUuid).head?

/-- The place in the series. -/
def seriesIndex? (a : Amalgam) : Option Int64 :=
  (a.groupsOf seriesTypeUuid).head?.bind RelatedGroup.groupIndex

/-- The summary of a resource, told from what is related to it. -/
def summary (a : Amalgam) : Summary where
  uuid := .text a.resource.uuid
  authors := .ofOption .text a.authors?
  tags := .ofOption .text a.tags?
  series := .ofOption .text a.series?
  seriesIndex := .ofOption .integer a.seriesIndex?

/-- The values of the summary under the names that callers use. -/
def summarized (a : Amalgam) : List (String × FieldValue) :=
  [("authors", .ofOption .text a.authors?), ("tags", .ofOption .text a.tags?),
    ("series", .ofOption .text a.series?), ("seriesIndex", .ofOption .integer a.seriesIndex?)]

/-- What a label shows of a series is what the summary has. -/
theorem resolve_series (a : Amalgam) (specifier : Option String) :
    a.resolve "series" specifier = some a.summary.series.shown ∧
      a.resolve "series_index" specifier = some a.summary.seriesIndex.shown := by
  constructor
  · show some (known (a.series?.map .text)) = some (Cell.ofOption .text a.series?).shown
    cases a.series? <;> rfl
  · show some (known (a.seriesIndex?.map .ofInt64)) =
      some (Cell.ofOption .integer a.seriesIndex?).shown
    cases a.seriesIndex? <;> rfl

end Amalgam

/-! ## What was listed tells its rows -/

/-- Whether what was listed of a person tells what the view reads of a link and a person. -/
structure RelatedPerson.Tells (pair : Row × Row) (found : RelatedPerson) : Prop where
  name : pair.2.cell .person "name" = .text found.person.name
  role : pair.1.cell .personRelation "relation" = .text found.relation.word

/-- Whether what was listed of a group tells what the view reads of a link and a group. -/
structure RelatedGroup.Tells (pair : Row × Row) (found : RelatedGroup) : Prop where
  title : pair.2.cell .group "title" = .text found.group.title
  type : pair.2.cell .group "type_uuid" = .text found.group.groupType.uuid
  index : ∃ i : Int64, pair.1.cell .groupRelation "group_index" = .integer i ∧
    found.groupIndex = if i < 0 then none else some i

namespace Catalogue

variable {c : Catalogue} {uuid : String}

private theorem persons_tell (h : c.Synced) (hNumbered : c.tables.Numbered)
    (hAsked : ∃ r, c.getResource uuid = .ok r) {persons : List RelatedPerson}
    (hAnswer : c.relatedPersons uuid none {} = .ok persons) :
    List.Forall₂ RelatedPerson.Tells
      (Summary.linked c.tables .personRelation .person "person_uuid" (uuidCell uuid)) persons := by
  have hListed := relatedPersons_listed h hNumbered hAsked hAnswer
  refine ((List.forall₂_and_left _ _).2 ⟨fun _ hPair => hPair, hListed⟩).imp ?_
  rintro pair found ⟨hPair, hPerson, link, hLink, hRole⟩
  obtain ⟨hLinkRow, hPersonRow⟩ := Tables.mem_of_mem_linked hPair
  exact
    { name := name_of_readRow (h.sound.fits .person _ hPersonRow) hPerson
      role := by rw [hRole, relation_of_readRow (h.sound.fits .personRelation _ hLinkRow) hLink] }

private theorem groups_tell (h : c.Synced) (hNumbered : c.tables.Numbered)
    (hAsked : ∃ r, c.getResource uuid = .ok r) {groups : List RelatedGroup}
    (hAnswer : c.relatedGroups uuid none {} = .ok groups) :
    List.Forall₂ RelatedGroup.Tells
      (Summary.linked c.tables .groupRelation .group "group_uuid" (uuidCell uuid)) groups := by
  have hListed := relatedGroups_listed h hNumbered hAsked hAnswer
  refine ((List.forall₂_and_left _ _).2 ⟨fun _ hPair => hPair, hListed⟩).imp ?_
  rintro pair found ⟨hPair, hGroup, link, hLink, hIndex, -⟩
  obtain ⟨hLinkRow, hGroupRow⟩ := Tables.mem_of_mem_linked hPair
  obtain ⟨hTitle, hType⟩ := title_of_readRow (h.sound.fits .group _ hGroupRow) hGroup
  have hPlace := index_of_readRow (h.sound.fits .groupRelation _ hLinkRow) hLink
  exact { title := hTitle, type := hType, index := hIndex ▸ hPlace }

end Catalogue

/-! ## The row of the view -/

namespace Summary

private theorem map_eq_of_forall₂ {α β γ : Type} {R : α → β → Prop} {xs : List α} {ys : List β}
    (h : List.Forall₂ R xs ys) {f : α → γ} {g : β → γ} (hTell : ∀ x y, R x y → f x = g y) :
    xs.map f = ys.map g := by
  rw [← List.forall₂_eq_eq_eq, List.forall₂_map_left_iff, List.forall₂_map_right_iff]
  exact h.imp hTell

theorem joinCells_texts (separator : String) (texts : List String) :
    joinCells separator (texts.map .text) = .ofOption .text (joinTexts? separator texts) := by
  have hTexts : (texts.map Cell.text).filterMap Cell.joined? = texts := by
    simp [List.filterMap_map, Function.comp_def, Cell.joined?]
  rw [joinCells, hTexts]
  cases texts <;> rfl

/-- An index is shown unless it stands for an absent one. -/
private theorem shown_index (i : Int64) :
    (if (Cell.integer i).isNull || (Cell.integer i).order .binary (.integer 0) = .lt then Cell.null
      else .integer i) = .ofOption .integer (if i < 0 then none else some i) := by
  have hLess : (Cell.integer i).order .binary (.integer 0) = .lt ↔ i < 0 := by
    rw [Int64.lt_iff_toInt_lt]
    exact Int.compare_eq_lt
  by_cases hNegative : i < 0 <;> simp [hLess, hNegative, Cell.isNull, Cell.ofOption]

variable {c : Catalogue} {a : Amalgam} {resource : Cell}

/-- The names that the view joins. -/
private theorem names_eq (role : PersonRole)
    (h : List.Forall₂ RelatedPerson.Tells
      (linked c.tables .personRelation .person "person_uuid" resource) a.persons) :
    ((linked c.tables .personRelation .person "person_uuid" resource).filter fun p =>
        (p.1.cell .personRelation "relation").same (.text role.word)).map
      (fun p => p.2.cell .person "name") = (a.names role).map .text := by
  rw [Amalgam.names, Amalgam.personsWith, List.map_map, List.map_map]
  refine map_eq_of_forall₂ (List.rel_filter ?_ h) fun _ _ hTell => hTell.name
  intro pair found hTell
  have hWord : found.relation.word = role.word ↔ found.relation = role := by
    cases found.relation <;> cases role <;> decide
  simp [hTell.role, Cell.same_text_iff, hWord]

/-- The groups of a type that the view looks at. -/
private theorem groupsOf_tell (type : String)
    (h : List.Forall₂ RelatedGroup.Tells
      (linked c.tables .groupRelation .group "group_uuid" resource) a.groups) :
    List.Forall₂ RelatedGroup.Tells
      ((linked c.tables .groupRelation .group "group_uuid" resource).filter fun p =>
        (p.2.cell .group "type_uuid").same (.text type)) (a.groupsOf type) := by
  refine List.rel_filter ?_ h
  intro pair found hTell
  simp [hTell.type, Cell.same_text_iff]

/-- The titles that the view joins. -/
private theorem titles_eq {pairs : List (Row × Row)} {type : String}
    (h : List.Forall₂ RelatedGroup.Tells pairs (a.groupsOf type)) :
    pairs.map (fun p => p.2.cell .group "title") = (a.titles type).map .text := by
  rw [Amalgam.titles, List.map_map]
  exact map_eq_of_forall₂ h fun _ _ hTell => hTell.title

/-- No place in a series is negative. -/
private theorem seriesIndex_nonneg {pairs : List (Row × Row)}
    (h : List.Forall₂ RelatedGroup.Tells pairs (a.groupsOf seriesTypeUuid)) {i : Int64}
    (hPlace : a.seriesIndex? = some i) : 0 ≤ i := by
  rw [Amalgam.seriesIndex?] at hPlace
  generalize a.groupsOf seriesTypeUuid = groups at h hPlace
  cases h with
  | nil => cases hPlace
  | cons hFirst _ =>
      obtain ⟨j, -, hIndex⟩ := hFirst.index
      rw [List.head?_cons, Option.bind_some, hIndex] at hPlace
      by_cases hNegative : j < 0
      · simp [hNegative] at hPlace
      · simp only [hNegative, if_false, Option.some.injEq] at hPlace
        exact hPlace ▸ Int64.not_lt.1 hNegative

/-- **The view and the program fill in the same row.** -/
theorem ofResource_eq (h : c.Synced) (hNumbered : c.tables.Numbered) {row : Row}
    (hUuid : row.cell .resource "uuid" = .text a.resource.uuid)
    (hGet : c.getResource a.resource.uuid = .ok a.resource)
    (hNormal : Catalogue.uuidCell a.resource.uuid = .text a.resource.uuid)
    (hPersons : c.relatedPersons a.resource.uuid none {} = .ok a.persons)
    (hGroups : c.relatedGroups a.resource.uuid none {} = .ok a.groups) :
    ofResource c.tables row = a.summary := by
  have hPersonsTell := Catalogue.persons_tell h hNumbered ⟨_, hGet⟩ hPersons
  have hGroupsTell := Catalogue.groups_tell h hNumbered ⟨_, hGet⟩ hGroups
  rw [hNormal] at hPersonsTell hGroupsTell
  have hTags := groupsOf_tell tagTypeUuid hGroupsTell
  have hSeries := groupsOf_tell seriesTypeUuid hGroupsTell
  unfold ofResource Amalgam.summary
  dsimp only
  rw [hUuid, names_eq .author hPersonsTell, joinCells_texts, titles_eq hTags, joinCells_texts]
  simp only [Amalgam.authors?, Amalgam.tags?, Amalgam.series?, Amalgam.seriesIndex?,
    Amalgam.titles]
  generalize (linked c.tables .groupRelation .group "group_uuid" (.text a.resource.uuid)).filter
    (fun p => (p.2.cell .group "type_uuid").same (.text seriesTypeUuid)) = pairs at hSeries ⊢
  generalize a.groupsOf seriesTypeUuid = groups at hSeries ⊢
  cases hSeries with
  | nil => rfl
  | cons hFirst _ =>
      obtain ⟨i, hCell, hIndex⟩ := hFirst.index
      simp only [List.head?_cons, List.map_cons, Option.map_some, Option.getD_some,
        Option.bind_some, hFirst.title, hCell, hIndex, shown_index]
      rfl

end Summary

/-- A resource has one row of the view. -/
theorem Tables.Sound.summaries_of {t : Tables} (h : t.Sound) {row : Row} (hRow : row ∈ t.resources)
    {uuid : String} (hUuid : row.cell .resource "uuid" = .text uuid) :
    (t.summaries.filter fun s => s.uuid = .text uuid) = [Summary.ofResource t row] := by
  have hRows : (t.resources.filter fun x => x.cell .resource "uuid" = .text uuid) =
      t.rowsWhere .resource "uuid" (.text uuid) :=
    List.filter_congr fun x _ => by simp [← Cell.same_text_iff]
  have hOne : t.rowsWhere .resource "uuid" (.text uuid) = [row] := by
    have hMem : row ∈ t.rowsWhere .resource "uuid" (.text uuid) :=
      List.mem_filter.2 ⟨hRow, Cell.same_text_iff.2 hUuid⟩
    have hLength : (t.rowsWhere .resource "uuid" (.text uuid)).length ≤ 1 :=
      h.rowsWhere_uuid_length rfl (.text uuid)
    obtain ⟨other, hOther⟩ := List.length_eq_one_iff.1
      (le_antisymm hLength (List.length_pos_of_mem hMem))
    rw [hOther, List.mem_singleton] at hMem
    rw [hOther, hMem]
  rw [Tables.summaries, List.filter_map]
  exact congrArg (List.map (Summary.ofResource t)) (hRows.trans hOne)

/-! ## Finding resources by their summaries -/

/-- A resource leads to its summary and to nothing else. -/
theorem Route.leads_summary_iff {t : Tables} (h : t.Sound) {row : Row} (hRow : row ∈ t.resources)
    {reached : Hit} :
    Route.summary.Leads t (.record .resource row) reached ↔
      reached = { target := .summary (.ofResource t row) } := by
  constructor
  · obtain ⟨link, target⟩ := reached
    rintro ⟨hTarget, ⟨hLink, hSame, -⟩, -⟩
    obtain ⟨s, hSummary, rfl⟩ := List.mem_map.1 hTarget
    obtain ⟨other, hOther, rfl⟩ := List.mem_map.1 hSummary
    have hUuid : other.cell .resource "uuid" = row.cell .resource "uuid" := hSame
    obtain rfl : other = row := h.uuid_injective .resource rfl hOther hRow hUuid
    cases hLink
    rfl
  · rintro rfl
    obtain ⟨uuid, hUuid, -⟩ := (h.fits .resource row hRow).key_text rfl
    have hThere : row.cell .resource "uuid" ≠ .null := by
      rw [hUuid]
      exact Cell.noConfusion
    exact ⟨List.mem_map_of_mem (List.mem_map_of_mem hRow), ⟨rfl, rfl, hThere⟩,
      fun _ hRule => by cases hRule⟩

private theorem summary_hash : "summary#" = Route.summary.name ++ "#" := by decide

/-- What a property of the summary says of a resource. -/
theorem Criterion.holds_summary_iff {t : Tables} (h : t.Sound) {row : Row}
    (hRow : row ∈ t.resources) {f : Field} (hField : f ∈ summaryFields) (value : FieldValue) :
    (Criterion.equal ("summary#" ++ f.name) value).Holds t (Kind.view .resource row) ↔
      f.toCell value = .ok ((Summary.ofResource t row).cell f.column) := by
  have hSplit : splitPath? ("summary#" ++ f.name) = some (Route.summary.name, f.name) := by
    rw [summary_hash]
    exact splitPath?_append (by decide)
  have hRoute : Kind.route? .resource Route.summary.name = some .summary := rfl
  have hSource : (Kind.view .resource row).target.source = .records .resource := rfl
  have hDesignates {g : Field} {x : SourceRow} :
      Hit.Designates t (Kind.view .resource row) ("summary#" ++ f.name) g x ↔
        g = f ∧ x = .summary (.ofResource t row) := by
    rw [Hit.designates_path_iff hSource hRoute hSplit]
    constructor
    · rintro ⟨reached, hLeads, hShows⟩
      obtain rfl := (Route.leads_summary_iff h hRow).1 hLeads
      exact (Hit.shows_own_iff hField).1 hShows
    · intro hSame
      exact ⟨_, (Route.leads_summary_iff h hRow).2 rfl, (Hit.shows_own_iff hField).2 hSame⟩
  have hHas : SourceRow.Has (.summary (.ofResource t row)) f value ↔
      f.toCell value = .ok ((Summary.ofResource t row).cell f.column) := by
    simp [SourceRow.Has, SourceRow.source, Source.collation, Cell.Meets, SourceRow.cell]
  rw [Criterion.Holds, Hit.HasOne, ← hHas]
  simp [hDesignates]

/-- A property of the summary makes sense with every value that its field takes. -/
theorem Criterion.exists_condition_summary {f : Field} (hField : f ∈ summaryFields)
    {value : FieldValue} {cell : Cell} (hStores : f.toCell value = .ok cell) :
    ∃ condition, (Criterion.equal ("summary#" ++ f.name) value).condition (.records .resource) =
      .ok condition := by
  have hPath : ∃ path, (Scope.records .resource).routePath? .summary (0 + 1) f.name = some path ∧
      path.field = f := by
    simp only [summaryFields, List.mem_cons, List.not_mem_nil, or_false] at hField
    rcases hField with rfl | rfl | rfl | rfl | rfl <;> exact ⟨_, rfl, rfl⟩
  obtain ⟨path, hPath, rfl⟩ := hPath
  have hRoute : Route.summary ∈ (Scope.records .resource).kind.routes := by decide
  have hCells : comparedCells path.kind path.field [value] = .ok [cell] := by
    simp [comparedCells, Fault.ofField, hStores, Except.map]
  refine ⟨path.condition [cell], ?_⟩
  rw [Criterion.condition, Criterion.compile, Scope.propertyCondition_eq, summary_hash,
    Scope.resolve_path hRoute hPath]
  simp [Except.bind, hCells, Except.map]

namespace Catalogue

variable {c : Catalogue} {row : Row} {r : Resource}

/-- **A resource is found by a property of the summary just with the value that is in the row of
the view.** -/
theorem mem_find_summary_iff (h : c.Synced) (hRow : row ∈ c.tables.resources)
    (hRead : readRow Resource c.types row = .ok r) {f : Field} (hField : f ∈ summaryFields)
    (value : FieldValue) {options : Options}
    (hTakes : (Scope.records .resource).Takes none options) :
    (∃ found, c.find Resource (some (.equal ("summary#" ++ f.name) value)) options = .ok found ∧
        r ∈ found) ↔
      f.toCell value = .ok ((Summary.ofResource c.tables row).cell f.column) := by
  have hHolds := Criterion.holds_summary_iff h.sound hRow hField value
  constructor
  · rintro ⟨found, hFind, hMem⟩
    have hSense : fault? (c.find Resource (some (.equal ("summary#" ++ f.name) value)) options) =
        fault? ((Criterion.equal ("summary#" ++ f.name) value).condition (.records .resource)) :=
      Finder.resources.fault?_answer h trivial hTakes _
    rw [hFind, fault?_ok, eq_comm, fault?_eq_none_iff] at hSense
    obtain ⟨condition, hCondition⟩ := hSense
    exact hHolds.1 ((mem_find_iff h hRow hRead hTakes hCondition hFind).1 hMem)
  · intro hStores
    obtain ⟨condition, hCondition⟩ := Criterion.exists_condition_summary hField hStores
    obtain ⟨_, found, hFind, -⟩ :=
      findsExactly Resource h hTakes.page ⟨⟨_, hCondition⟩, hTakes.keys⟩
    exact ⟨found, hFind,
      (mem_find_iff h hRow hRead hTakes hCondition hFind).2 (hHolds.2 hStores)⟩

end Catalogue

/-! ## The two readings -/

/-- A text field that may be empty stores a text only for this text. -/
private theorem Field.toCell_text_iff {f : Field} (hType : f.type = .text)
    (hNullable : f.nullable = true) {value : FieldValue} {text : Option String} :
    f.toCell value = .ok (.ofOption .text text) ↔ value = .ofOption .text text := by
  cases value <;> cases text <;>
    simp [Field.toCell, Field.storeValue, hType, hNullable, Cell.ofOption, FieldValue.ofOption]

/-- An integer field that may be empty stores an integer only for this integer. -/
private theorem Field.toCell_integer_iff {f : Field} {least greatest : Int64}
    (hType : f.type = .integer least greatest) (hNullable : f.nullable = true) {value : FieldValue}
    {index : Option Int64} (hIn : ∀ i, index = some i → least ≤ i ∧ i ≤ greatest) :
    f.toCell value = .ok (.ofOption .integer index) ↔ value = .ofOption .integer index := by
  cases value with
  | integer j =>
      by_cases hBetween : least ≤ j ∧ j ≤ greatest
      · cases index <;> simp [Field.toCell, Field.storeValue, hType, hBetween, Cell.ofOption,
          FieldValue.ofOption]
      · have hRefused : f.toCell (.integer j) = .error (.outside j least greatest) := by
          simp [Field.toCell, Field.storeValue, hType, hBetween]
        have hOther : FieldValue.integer j ≠ .ofOption .integer index := by
          intro hSame
          cases index with
          | none => cases hSame
          | some i =>
              cases hSame
              exact hBetween (hIn j rfl)
        simp [hRefused, hOther]
  | _ =>
      cases index <;>
        simp [Field.toCell, Field.storeValue, hType, hNullable, Cell.ofOption, FieldValue.ofOption]

/-- The field of a summary stores just the value that the summary was told to have. -/
private theorem Amalgam.exists_field_of_summarized {a : Amalgam}
    (hIndex : ∀ i, a.seriesIndex? = some i → 0 ≤ i) {p : String × FieldValue}
    (hp : p ∈ a.summarized) :
    ∃ f ∈ summaryFields, f.name = p.1 ∧
      ∀ value, f.toCell value = .ok (a.summary.cell f.column) ↔ value = p.2 := by
  have hPlace : ∀ i, a.seriesIndex? = some i → 0 ≤ i ∧ i ≤ Int64.maxValue :=
    fun i hi => ⟨hIndex i hi, Int64.le_maxValue i⟩
  simp only [summarized, List.mem_cons, List.not_mem_nil, or_false] at hp
  rcases hp with rfl | rfl | rfl | rfl
  · exact ⟨summaryFields[1], by simp [summaryFields], rfl, fun _ => Field.toCell_text_iff rfl rfl⟩
  · exact ⟨summaryFields[2], by simp [summaryFields], rfl, fun _ => Field.toCell_text_iff rfl rfl⟩
  · exact ⟨summaryFields[3], by simp [summaryFields], rfl, fun _ => Field.toCell_text_iff rfl rfl⟩
  · exact ⟨summaryFields[4], by simp [summaryFields], rfl,
      fun _ => Field.toCell_integer_iff rfl rfl hPlace⟩

namespace Catalogue

variable {c : Catalogue} {r : Resource} {uuid : String}

private theorem amalgamate_eq_ok {a : Amalgam} (h : c.amalgamate r = .ok a) :
    a.resource = r ∧ c.relatedPersons r.uuid none {} = .ok a.persons ∧
      c.relatedGroups r.uuid none {} = .ok a.groups := by
  unfold amalgamate at h
  split at h
  · cases h
  · rename_i hPersons
    split at h
    · cases h
    · rename_i hGroups
      obtain ⟨objects, -, rfl⟩ := exists_of_map_ok h
      exact ⟨rfl, hPersons, hGroups⟩

/-- **Two readings of a resource agree.** In every reachable catalogue each resource that is
there can be read with everything related to it, and its one row of the view is what this tells.
So a property of the summary finds the resource with this value and with no other, and a label
shows the series and the place in it as they are in the view. -/
theorem Reachable.summary_agrees (h : Reachable c) (hGet : c.getResource uuid = .ok r) :
    ∃ a, c.getAmalgam uuid = .ok a ∧ a.resource = r ∧
      (c.tables.summaries.filter fun s => s.uuid = .text r.uuid) = [a.summary] ∧
      (∀ p ∈ a.summarized, ∀ value options, (Scope.records .resource).Takes none options →
        ((∃ found, c.find Resource (some (.equal ("summary#" ++ p.1) value)) options = .ok found ∧
          r ∈ found) ↔ value = p.2)) ∧
      ∀ specifier, a.resolve "series" specifier = some a.summary.series.shown ∧
        a.resolve "series_index" specifier = some a.summary.seriesIndex.shown := by
  have hSynced := h.inv.synced
  obtain ⟨row, -, hRow, hRead⟩ := exists_row_of_fetch hGet
  obtain ⟨hUuid, hNormal, hOwn⟩ := getResource_of_row hSynced hRow hRead
  obtain ⟨a, hAmalgam⟩ := Finder.exists_amalgam hSynced hRow hRead
  obtain ⟨rfl, hPersons, hGroups⟩ := amalgamate_eq_ok hAmalgam
  have hView : Summary.ofResource c.tables row = a.summary :=
    Summary.ofResource_eq hSynced h.numbered hUuid hOwn hNormal hPersons hGroups
  have hSeriesTell := Summary.groupsOf_tell seriesTypeUuid
    (groups_tell hSynced h.numbered ⟨_, hOwn⟩ hGroups)
  refine ⟨a, ?_, rfl, ?_, fun p hp value options hTakes => ?_, a.resolve_series⟩
  · rw [getAmalgam, hGet]
    exact hAmalgam
  · rw [hSynced.sound.summaries_of hRow hUuid, hView]
  · obtain ⟨f, hField, hName, hStores⟩ := Amalgam.exists_field_of_summarized
      (fun _ hPlace => Summary.seriesIndex_nonneg hSeriesTell hPlace) hp
    rw [← hName, mem_find_summary_iff hSynced hRow hRead hField value hTakes, hView, hStores]

/-- The sample with two authors and a tag. -/
def sampleWritten : Catalogue :=
  (Step.runAll sample
    [.addPerson sampleUuid ⟨"k", "Stephen King", "King"⟩,
      .addPerson sampleUuid ⟨"p", "Peter Straub", "Straub"⟩,
      .addGroup sampleUuid ⟨"h", "Horror", "Horror", ⟨tagTypeUuid, "", false, false⟩⟩,
      .addPersonRelation "f" "p" .author, .addPersonRelation "f" "k" .author,
      .addGroupRelation "f" "h" none none]).2

theorem reachable_sampleWritten : Reachable sampleWritten :=
  reachable_sample.run (Run.publicSteps .refl (by decide) (by decide +kernel))

theorem summary_agrees_sample :
    Reachable sampleWritten ∧ sampleWritten.getResource "f" = .ok sampleResource ∧
      ∃ a, sampleWritten.getAmalgam "f" = .ok a ∧
        a.summary = ⟨.text "f", .text "Peter Straub & Stephen King", .text "Horror",
          .text "Novels", .integer 1⟩ ∧
        ∃ found, sampleWritten.find Resource
            (some (.equal "summary#authors" (.text "Peter Straub & Stephen King"))) {} =
          .ok found ∧ sampleResource ∈ found := by
  have hHeld : sampleWritten.getResource "f" = .ok sampleResource ∧
      (sampleWritten.tables.summaries.filter fun s => s.uuid = .text "f") =
        [⟨.text "f", .text "Peter Straub & Stephen King", .text "Horror", .text "Novels",
          .integer 1⟩] := by
    decide +kernel
  obtain ⟨hGet, hRow⟩ := hHeld
  obtain ⟨a, hAmalgam, -, hView, hFinds, -⟩ :=
    Reachable.summary_agrees reachable_sampleWritten hGet
  have hSummary := (List.singleton_inj.1 (hRow.symm.trans hView)).symm
  have hAuthors : a.authors? = some "Peter Straub & Stephen King" := by
    have hCell : Cell.ofOption .text a.authors? = .text "Peter Straub & Stephen King" :=
      congrArg Summary.authors hSummary
    cases hNames : a.authors? with
    | none =>
        rw [hNames] at hCell
        cases hCell
    | some names =>
        rw [hNames] at hCell
        rw [Cell.text.inj hCell]
  refine ⟨reachable_sampleWritten, hGet, a, hAmalgam, hSummary, ?_⟩
  refine (hFinds ("authors", .ofOption .text a.authors?) (by simp [Amalgam.summarized]) _ {}
    (Finder.takes_default .resources)).2 ?_
  rw [hAuthors]
  rfl

end Catalogue

end Shelfmark
