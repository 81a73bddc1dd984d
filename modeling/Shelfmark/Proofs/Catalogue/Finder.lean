import Shelfmark.Proofs.Catalogue.Finding
import Shelfmark.Proofs.Catalogue.Memory
import Shelfmark.Proofs.Catalogue.Numbering

/-!
# Finders

The operations that answer with lists of records are collected in `Finder`: those that look
at all records of a kind, those that look at what is related to a resource, and the one
that answers with resources and everything related to them.

They are all made alike. A finder has items, it selects some of them, and it reads what is
selected. `Presents` says this of a finder, and `Finder.exists_presents` says it of all of
them. In a catalogue that is in order every item can be read, so what a finder answers is
what it selects, item by item.
-/

namespace Shelfmark

/-- A resource is there under the normal form of its identifier. -/
theorem Catalogue.getResource_normalize (c : Catalogue) (uuid : String) :
    c.getResource (normalize uuid) = c.getResource uuid := by
  rw [getResource, getResource, uuidCell, uuidCell, normalize_normalize]

/-- A resource that was read from a row is there under its identifier, which is a normal form. -/
theorem Catalogue.getResource_of_row {c : Catalogue} (h : c.Synced) {row : Row}
    (hRow : row ∈ c.tables.resources) {r : Resource}
    (hRead : readRow Resource c.types row = .ok r) :
    row.cell .resource "uuid" = .text r.uuid ∧ uuidCell r.uuid = .text r.uuid ∧
      c.getResource r.uuid = .ok r := by
  have hFits : row.Fits .resource := h.sound.fits .resource row hRow
  have hKey : row.cell .resource "uuid" = .text r.uuid := key_of_readRow_resource hFits hRead
  have hNormal : uuidCell r.uuid = .text r.uuid := by
    obtain ⟨s, hs, hNormal, _⟩ := hFits.key_text rfl
    rw [uuidCell, Cell.text.inj (hKey.symm.trans hs), hNormal]
  refine ⟨hKey, hNormal, ?_⟩
  have hFind := (h.sound.find?_eq_some_iff .resource rfl).2 ⟨hRow, hKey⟩
  rw [getResource, hNormal, fetch, show Storable.kind Resource = .resource from rfl, hFind]
  exact hRead

/-- The operations that answer with lists of records. -/
inductive Finder where
  | resources
  | persons
  | groups
  | groupTypes
  | objects
  | amalgams
  | relatedObjects (resource : String)
  | relatedPersons (resource : String)
  | relatedGroups (resource : String)

namespace Finder

/-! ## The finders one by one -/

/-- What a finder finds. -/
def Record : Finder → Type
  | resources => Resource
  | persons => Person
  | groups => Group
  | groupTypes => GroupType
  | objects => ObjectRelation
  | amalgams => Amalgam
  | relatedObjects _ => ObjectRelation
  | relatedPersons _ => RelatedPerson
  | relatedGroups _ => RelatedGroup

/-- What a finder answers. -/
def answer (c : Catalogue) :
    (f : Finder) → Option Criterion → Options → Except Fault (List f.Record)
  | resources => c.find Resource
  | persons => c.find Person
  | groups => c.find Group
  | groupTypes => c.find GroupType
  | objects => c.find ObjectRelation
  | amalgams => c.findAmalgams
  | relatedObjects resource => c.relatedObjects resource
  | relatedPersons resource => c.relatedPersons resource
  | relatedGroups resource => c.relatedGroups resource

/-- The scope of criteria and sort orders. -/
def scope : Finder → Scope
  | resources => .records .resource
  | persons => .records .person
  | groups => .records .group
  | groupTypes => .records .groupType
  | objects => .records .objectRelation
  | amalgams => .records .resource
  | relatedObjects _ => .records .objectRelation
  | relatedPersons _ => .linked .person .personRelation
  | relatedGroups _ => .linked .group .groupRelation

/-- The column of the natural order, where it is that of the relations. -/
def declared : Finder → Option Column
  | relatedObjects _ => some ⟨.self, "id", .binary⟩
  | relatedPersons _ => some ⟨.selfLink, "rowid", .binary⟩
  | relatedGroups _ => some ⟨.selfLink, "rowid", .binary⟩
  | _ => none

/-- The resource whose relations a finder looks at is there. -/
def Asked (c : Catalogue) : Finder → Prop
  | relatedObjects resource => ∃ r, c.getResource resource = .ok r
  | relatedPersons resource => ∃ r, c.getResource resource = .ok r
  | relatedGroups resource => ∃ r, c.getResource resource = .ok r
  | _ => True

/-- Whether a criterion and a sort order make sense for a finder. -/
structure Compiles (f : Finder) (criterion : Option Criterion) (order : SortOrder) : Prop where
  condition : ∃ condition, f.scope.condition? criterion = .ok condition
  keys : ∃ keys, f.scope.sortKeys 0 f.declared order = .ok keys

/-- What a finder looks at. -/
def hits (c : Catalogue) : Finder → List Hit
  | resources => c.tables.resources.map (Kind.view .resource)
  | persons => c.tables.persons.map (Kind.view .person)
  | groups => c.tables.groups.map (Kind.view .group)
  | groupTypes => c.tables.groupTypes.map (Kind.view .groupType)
  | objects => c.tables.objects.map (Kind.view .objectRelation)
  | amalgams => c.tables.resources.map (Kind.view .resource)
  | relatedObjects resource =>
      (c.tables.rowsWhere .objectRelation "resource_uuid" (Catalogue.uuidCell resource)).map
        (Kind.view .objectRelation)
  | relatedPersons resource =>
      (Summary.linked c.tables .personRelation .person "person_uuid"
        (Catalogue.uuidCell resource)).map (Kind.viewLinked .person .personRelation)
  | relatedGroups resource =>
      (Summary.linked c.tables .groupRelation .group "group_uuid"
        (Catalogue.uuidCell resource)).map (Kind.viewLinked .group .groupRelation)

/-- Whether a record is read from a hit. -/
def ReadFrom (α : Type) [Storable α] (c : Catalogue) (hit : Hit) (record : α) : Prop :=
  ∃ row, hit = (Storable.kind α).view row ∧ Catalogue.readRow α c.types row = .ok record

/-- Whether a record and a link to it are read from a hit. -/
def ReadLinked (α β : Type) [Storable α] [Storable β] (c : Catalogue) (hit : Hit) (record : α)
    (link : β) : Prop :=
  ∃ pair, hit = (Storable.kind α).viewLinked (Storable.kind β) pair ∧
    Catalogue.readLinked α β c.types pair = .ok (record, link)

/-- Whether a record is what a finder answers for a hit. -/
def Reads (c : Catalogue) : (f : Finder) → Hit → f.Record → Prop
  | resources => ReadFrom Resource c
  | persons => ReadFrom Person c
  | groups => ReadFrom Group c
  | groupTypes => ReadFrom GroupType c
  | objects => ReadFrom ObjectRelation c
  | amalgams => fun hit found => ∃ r, ReadFrom Resource c hit r ∧ c.amalgamate r = .ok found
  | relatedObjects _ => ReadFrom ObjectRelation c
  | relatedPersons _ => fun hit found =>
      ∃ p l, ReadLinked Person PersonLink c hit p l ∧ found = ⟨p, l.relation⟩
  | relatedGroups _ => fun hit found =>
      ∃ g l, ReadLinked Group GroupLink c hit g l ∧ found = ⟨g, l.groupIndex, l.relationTag⟩

/-! ## How a finder is made -/

/-- How a finder is made: it selects some of its items and reads what is selected. -/
structure Presents {α : Type} (c : Catalogue) (f : Finder) (items : List α) (view : α → Hit)
    (read : α → Except Fault f.Record) : Prop where
  answer : ∀ criterion options, f.answer c criterion options =
    (c.tables.select f.scope f.declared criterion options view items).bind (List.mapM read)
  readable : ∀ item ∈ items, ∃ record, read item = .ok record
  reads : ∀ item ∈ items, ∀ record, read item = .ok record → f.Reads c (view item) record
  hits : items.map view = f.hits c

variable {c : Catalogue}

/-- Where a finder compiles, it answers. -/
theorem Presents.exists_answer {α : Type} {f : Finder} {items : List α} {view : α → Hit}
    {read : α → Except Fault f.Record} (h : f.Presents c items view read)
    {criterion : Option Criterion} (options : Options)
    (hCompiles : f.Compiles criterion options.order) :
    ∃ records, f.answer c criterion options = .ok records := by
  obtain ⟨⟨condition, used⟩, hCondition⟩ := hCompiles.condition
  obtain ⟨_, hFirst⟩ := hCompiles.keys
  obtain ⟨keys, hKeys⟩ := Scope.sortKeys_eq_ok used hFirst
  rw [h.answer]
  cases hSelect : c.tables.select f.scope f.declared criterion options view items with
  | error fault => simp [Tables.select, hCondition, hKeys] at hSelect
  | ok found =>
      exact exists_mapM_eq_ok fun item hItem =>
        h.readable item (Tables.subset_of_select hSelect hItem)

private theorem presents_relatedObjects (h : c.Synced) {resource : String}
    (hAsked : ∃ r, c.getResource resource = .ok r) :
    (relatedObjects resource).Presents c
      (c.tables.rowsWhere .objectRelation "resource_uuid" (Catalogue.uuidCell resource))
      (Kind.view .objectRelation) (Catalogue.readRow ObjectRelation c.types) where
  answer criterion options := by
    obtain ⟨r, hGet⟩ := hAsked
    rw [← c.getResource_normalize] at hGet
    show c.relatedObjects resource criterion options = _
    rw [Catalogue.relatedObjects, hGet]
    simp only [scope, declared]
    cases c.tables.select (.records .objectRelation) (some ⟨.self, "id", .binary⟩) criterion
      options (Kind.view .objectRelation) (c.tables.rowsWhere .objectRelation "resource_uuid"
        (Catalogue.uuidCell resource)) <;> rfl
  readable row hRow := Catalogue.readable_object h (List.mem_filter.1 hRow).1
  reads row _ record hRead := ⟨row, rfl, hRead⟩
  hits := rfl

/-- What is related by links is selected and read in one go. -/
private theorem related_eq (α β : Type) [Storable α] [Storable β] {γ : Type} (g : α × β → γ)
    (reference : String) {resource : String} (hAsked : ∃ r, c.getResource resource = .ok r)
    (criterion : Option Criterion) (options : Options) :
    (c.related α β reference resource criterion options).map (List.map g) =
      (c.tables.select (.linked (Storable.kind α) (Storable.kind β))
        (some ⟨.selfLink, "rowid", .binary⟩) criterion options
        ((Storable.kind α).viewLinked (Storable.kind β))
        (Summary.linked c.tables (Storable.kind β) (Storable.kind α) reference
          (Catalogue.uuidCell resource))).bind
        (List.mapM fun pair => (Catalogue.readLinked α β c.types pair).map g) := by
  obtain ⟨r, hGet⟩ := hAsked
  rw [← c.getResource_normalize] at hGet
  rw [Catalogue.related, hGet]
  dsimp only
  cases c.tables.select (.linked (Storable.kind α) (Storable.kind β))
      (some ⟨.selfLink, "rowid", .binary⟩) criterion options
      ((Storable.kind α).viewLinked (Storable.kind β))
      (Summary.linked c.tables (Storable.kind β) (Storable.kind α) reference
        (Catalogue.uuidCell resource)) with
  | error fault => rfl
  | ok found => exact map_mapM found

private theorem readLinked_eq_ok {α β : Type} [Storable α] [Storable β] {types : TypeCache}
    {pair : Row × Row} {record : α} {link : β} (hRecord : Catalogue.readRow α types pair.2 = .ok record)
    (hLink : Catalogue.readRow β types pair.1 = .ok link) :
    Catalogue.readLinked α β types pair = .ok (record, link) := by
  rw [Catalogue.readLinked_eq, hRecord, hLink]
  rfl

private theorem presents_relatedPersons (h : c.Synced) {resource : String}
    (hAsked : ∃ r, c.getResource resource = .ok r) :
    (relatedPersons resource).Presents c
      (Summary.linked c.tables .personRelation .person "person_uuid"
        (Catalogue.uuidCell resource))
      (Kind.viewLinked .person .personRelation)
      (fun pair => (Catalogue.readLinked Person PersonLink c.types pair).map fun p =>
        (⟨p.1, p.2.relation⟩ : RelatedPerson)) where
  answer criterion options := related_eq Person PersonLink _ "person_uuid" hAsked criterion options
  readable pair hPair := by
    obtain ⟨hLink, hPerson⟩ := Tables.mem_of_mem_linked hPair
    obtain ⟨p, hp⟩ := Catalogue.readable_person h hPerson
    obtain ⟨l, hl⟩ := Catalogue.readRow_personLink (h.sound.fits .personRelation _ hLink) c.types
    exact ⟨_, by rw [readLinked_eq_ok hp hl]; rfl⟩
  reads pair _ record hRead := by
    obtain ⟨⟨p, l⟩, hPair, rfl⟩ := exists_of_map_ok hRead
    exact ⟨p, l, ⟨pair, rfl, hPair⟩, rfl⟩
  hits := rfl

private theorem presents_relatedGroups (h : c.Synced) {resource : String}
    (hAsked : ∃ r, c.getResource resource = .ok r) :
    (relatedGroups resource).Presents c
      (Summary.linked c.tables .groupRelation .group "group_uuid" (Catalogue.uuidCell resource))
      (Kind.viewLinked .group .groupRelation)
      (fun pair => (Catalogue.readLinked Group GroupLink c.types pair).map fun p =>
        (⟨p.1, p.2.groupIndex, p.2.relationTag⟩ : RelatedGroup)) where
  answer criterion options := related_eq Group GroupLink _ "group_uuid" hAsked criterion options
  readable pair hPair := by
    obtain ⟨hLink, hGroup⟩ := Tables.mem_of_mem_linked hPair
    obtain ⟨g, l, _, hRead⟩ := Catalogue.readable_linkedGroup h hLink hGroup
    exact ⟨_, by rw [hRead]; rfl⟩
  reads pair _ record hRead := by
    obtain ⟨⟨g, l⟩, hPair, rfl⟩ := exists_of_map_ok hRead
    exact ⟨g, l, ⟨pair, rfl, hPair⟩, rfl⟩
  hits := rfl

/-- The natural order without a criterion makes sense for every finder. -/
theorem compiles_natural (f : Finder) (direction : Direction) :
    f.Compiles none (.preferred direction) := by
  refine ⟨⟨_, rfl⟩, ?_⟩
  cases f <;> exact ⟨_, rfl⟩

/-- A resource that was read from a row can be read together with everything related. -/
theorem exists_amalgam (h : c.Synced) {row : Row} (hRow : row ∈ c.tables.resources)
    {r : Resource} (hRead : Catalogue.readRow Resource c.types row = .ok r) :
    ∃ amalgam, c.amalgamate r = .ok amalgam := by
  have hAsked : ∃ found, c.getResource r.uuid = .ok found :=
    ⟨r, (Catalogue.getResource_of_row h hRow hRead).2.2⟩
  obtain ⟨persons, hPersons⟩ := (presents_relatedPersons h hAsked).exists_answer {}
    (compiles_natural _ _)
  obtain ⟨groups, hGroups⟩ := (presents_relatedGroups h hAsked).exists_answer {}
    (compiles_natural _ _)
  obtain ⟨objects, hObjects⟩ := (presents_relatedObjects h hAsked).exists_answer {}
    (compiles_natural _ _)
  have hPersons' : c.relatedPersons r.uuid none {} = .ok persons := hPersons
  have hGroups' : c.relatedGroups r.uuid none {} = .ok groups := hGroups
  have hObjects' : c.relatedObjects r.uuid none {} = .ok objects := hObjects
  exact ⟨⟨r, persons, groups, objects⟩, by
    simp only [Catalogue.amalgamate, hPersons', hGroups', hObjects', Except.map]⟩

/-- A finder of records selects rows of their table and reads them. -/
private theorem find_eq (α : Type) [Storable α] (criterion : Option Criterion) (options : Options) :
    c.find α criterion options =
      (c.tables.select (.records (Storable.kind α)) none criterion options (Storable.kind α).view
        (c.tables.rows (Storable.kind α))).bind (List.mapM (Catalogue.readRow α c.types)) := by
  unfold Catalogue.find
  dsimp only
  cases c.tables.select (.records (Storable.kind α)) none criterion options (Storable.kind α).view
    (c.tables.rows (Storable.kind α)) <;> rfl

private theorem presents_amalgams (h : c.Synced) :
    amalgams.Presents c c.tables.resources (Kind.view .resource)
      (fun row => (Catalogue.readRow Resource c.types row).bind c.amalgamate) where
  answer criterion options := by
    show c.findAmalgams criterion options = (c.tables.select (.records .resource) none criterion
      options (Kind.view .resource) c.tables.resources).bind _
    rw [Catalogue.findAmalgams, find_eq]
    dsimp only [Storable.kind, Tables.rows]
    cases hSelect : c.tables.select (.records .resource) none criterion options
        (Kind.view .resource) c.tables.resources with
    | error fault => rfl
    | ok found =>
        have hReadable : ∀ row ∈ found, ∃ r, Catalogue.readRow Resource c.types row = .ok r :=
          fun row hRow => Catalogue.readable_resource h (Tables.subset_of_select hSelect hRow)
        refine Eq.trans ?_ (bind_mapM hReadable)
        show _ = (found.mapM (Catalogue.readRow Resource c.types)).bind _
        simp only [Except.bind]
        cases found.mapM (Catalogue.readRow Resource c.types) <;> rfl
  readable row hRow := by
    obtain ⟨r, hRead⟩ := Catalogue.readable_resource h hRow
    obtain ⟨amalgam, hAmalgam⟩ := exists_amalgam h hRow hRead
    exact ⟨amalgam, by rw [hRead]; exact hAmalgam⟩
  reads row _ record hRead := by
    cases hRow : Catalogue.readRow Resource c.types row with
    | error fault =>
        rw [hRow] at hRead
        cases hRead
    | ok r =>
        rw [hRow] at hRead
        exact ⟨r, ⟨row, rfl, hRow⟩, hRead⟩
  hits := rfl

/-- **Every finder selects some of what it looks at and reads what is selected.** -/
theorem exists_presents (h : c.Synced) {f : Finder} (hAsked : f.Asked c) :
    ∃ (α : Type) (items : List α) (view : α → Hit) (read : α → Except Fault f.Record),
      f.Presents c items view read := by
  cases f with
  | resources =>
      exact ⟨_, _, _, _, find_eq Resource, fun _ => Catalogue.Keyed.readable h,
        fun row _ _ hRead => ⟨row, rfl, hRead⟩, rfl⟩
  | persons =>
      exact ⟨_, _, _, _, find_eq Person, fun _ => Catalogue.Keyed.readable h,
        fun row _ _ hRead => ⟨row, rfl, hRead⟩, rfl⟩
  | groups =>
      exact ⟨_, _, _, _, find_eq Group, fun _ => Catalogue.Keyed.readable h,
        fun row _ _ hRead => ⟨row, rfl, hRead⟩, rfl⟩
  | groupTypes =>
      exact ⟨_, _, _, _, find_eq GroupType, fun _ => Catalogue.Keyed.readable h,
        fun row _ _ hRead => ⟨row, rfl, hRead⟩, rfl⟩
  | objects =>
      exact ⟨_, _, _, _, find_eq ObjectRelation, fun _ => Catalogue.Keyed.readable h,
        fun row _ _ hRead => ⟨row, rfl, hRead⟩, rfl⟩
  | amalgams => exact ⟨_, _, _, _, presents_amalgams h⟩
  | relatedObjects resource => exact ⟨_, _, _, _, presents_relatedObjects h hAsked⟩
  | relatedPersons resource => exact ⟨_, _, _, _, presents_relatedPersons h hAsked⟩
  | relatedGroups resource => exact ⟨_, _, _, _, presents_relatedGroups h hAsked⟩

end Finder

/-! ## How much a finder looks at -/

namespace Tables

private theorem fst_flatMap_sublist {α β : Type} {xs : List α} {targets : α → List β}
    (h : ∀ x ∈ xs, (targets x).length ≤ 1) :
    ((xs.flatMap fun x => (targets x).map fun y => (x, y)).map Prod.fst).Sublist xs := by
  induction xs with
  | nil => exact .refl _
  | cons x xs ih =>
      have hRest := ih fun z hz => h z (by simp [hz])
      have hFew := h x (by simp)
      rw [List.flatMap_cons, List.map_append]
      match hTargets : targets x with
      | [] => exact hRest.cons x
      | [y] => exact hRest.cons_cons x
      | _ :: _ :: _ => simp [hTargets] at hFew

/-- A cell names one row at most. -/
theorem Sound.rowsWhere_uuid_length {t : Tables} (h : t.Sound) {kind : Kind}
    (hKey : kind.keyColumn = "uuid") (cell : Cell) :
    (t.rowsWhere kind "uuid" cell).length ≤ 1 := by
  refine Catalogue.length_filter_le_one (h.ids kind).of_map ?_
  intro a ha b hb haSame hbSame
  obtain ⟨s, hs, _⟩ := (h.fits kind a ha).key_text hKey
  obtain ⟨u, hu, _⟩ := (h.fits kind b hb).key_text hKey
  rw [hs, Cell.text_same_iff] at haSame
  rw [hu, Cell.text_same_iff] at hbSame
  exact h.uuid_injective kind hKey ha hb (hs.trans (haSame.symm.trans (hbSame.trans hu.symm)))

/-- A link leads to one row at most, so links are not repeated by what they lead to. -/
theorem Sound.links_sublist {t : Tables} (h : t.Sound) (link : Kind) {target : Kind}
    (hKey : target.keyColumn = "uuid") (reference : String) (resource : Cell) :
    ((Summary.linked t link target reference resource).map Prod.fst).Sublist (t.rows link) :=
  (fst_flatMap_sublist fun x _ => h.rowsWhere_uuid_length hKey (x.cell link reference)).trans
    List.filter_sublist

end Tables

/-- A finder looks at no more than a table has rows. -/
theorem Finder.exists_hits_length_le {c : Catalogue} (h : c.tables.Sound) (f : Finder) :
    ∃ kind, (f.hits c).length ≤ (c.tables.rows kind).length := by
  have hLinked := fun link (target : Kind) (hKey : target.keyColumn = "uuid") reference resource =>
    (h.links_sublist link hKey reference resource).length_le
  simp only [List.length_map] at hLinked
  cases f with
  | resources | amalgams => exact ⟨.resource, (List.length_map _).le⟩
  | persons => exact ⟨.person, (List.length_map _).le⟩
  | groups => exact ⟨.group, (List.length_map _).le⟩
  | groupTypes => exact ⟨.groupType, (List.length_map _).le⟩
  | objects => exact ⟨.objectRelation, (List.length_map _).le⟩
  | relatedObjects resource =>
      exact ⟨.objectRelation, (List.length_map _).le.trans (List.length_filter_le _ _)⟩
  | relatedPersons resource =>
      exact ⟨.personRelation, (List.length_map _).le.trans (hLinked _ _ rfl _ _)⟩
  | relatedGroups resource =>
      exact ⟨.groupRelation, (List.length_map _).le.trans (hLinked _ _ rfl _ _)⟩

end Shelfmark
