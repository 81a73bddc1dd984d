import Shelfmark.Proofs.Catalogue.Updates
import Shelfmark.Proofs.Catalogue.Writing
import Shelfmark.Proofs.Store.Cascade

/-!
# Relations as they come and go

The tables have no column for the order in which relations were added. What stands for it is the
order of the rows of links and of objects, and that order is never written down: it is what a
step makes of it. So the rows of a kind are looked at as the list of the relations that they
hold, `Tables.relations`, and each step as what it does to these lists: it takes some relations
out, leaves the others in their order, and puts what it adds behind them.

What a step takes out is told from outside. `Step.asksFor` speaks of the ends of a relation, of
its number and of what the catalogue answers about an object or a group, and not of rows, since a
row is taken out by its columns or because something is taken out that it refers to. An update
takes out nothing: an object that is changed keeps its number and its resource.

## Main results

* `Row.refersTo_iff` — a row refers to the ends of its relation.
* `Catalogue.turnover_removeRecord` — a relation goes with either of its ends.
* `Catalogue.Synced.turnsOver_step` — what a step does to the relations that are there.
-/

namespace Shelfmark

open Shelfmark.Text
open Catalogue (readRow uuidCell)

/-- What makes a relation of a resource the one that it is. -/
inductive Relation where
  | person (resource person : String) (role : PersonRole)
  | group (resource group : String) (index : Option Int64) (tag : String)
  | object (resource : String) (id : Int64)
  deriving DecidableEq, Repr

namespace Relation

/-- The resource that is related. -/
def resource : Relation → String
  | person r _ _ => r
  | group r _ _ _ => r
  | object r _ => r

/-- The kind of the rows that hold such relations. -/
def kind : Relation → Kind
  | person _ _ _ => .personRelation
  | group _ _ _ _ => .groupRelation
  | object _ _ => .objectRelation

/-- The records without which a relation is not there, by their kinds and identifiers. -/
def ends : Relation → List (Kind × String)
  | person r p _ => [(.resource, r), (.person, p)]
  | group r g _ _ => [(.resource, r), (.group, g)]
  | object r _ => [(.resource, r)]

/-- The relation that a record stands for, if it stands for one. -/
def ofRecord? : (kind : Kind) → kind.Record → Option Relation
  | .personRelation, (l : PersonLink) => some (.person l.resourceUuid l.personUuid l.relation)
  | .groupRelation, (l : GroupLink) =>
      some (.group l.resourceUuid l.groupUuid l.groupIndex l.relationTag)
  | .objectRelation, (o : ObjectRelation) => some (.object o.resourceUuid o.id)
  | _, _ => none

theorem kind_of_ofRecord? {k : Kind} {record : k.Record} {a : Relation}
    (h : ofRecord? k record = some a) : a.kind = k := by
  cases k <;> cases h <;> rfl

end Relation

/-- The relation that a row holds, if it holds one. -/
def Row.relation? (kind : Kind) (row : Row) : Option Relation :=
  match readRow kind.Record {} row with
  | .ok record => Relation.ofRecord? kind record
  | .error _ => none

/-- The relations of a kind that tables hold, in the order of their rows. -/
def Tables.relations (t : Tables) (kind : Kind) : List Relation :=
  (t.rows kind).filterMap (Row.relation? kind)

/-! ## Rows -/

namespace Row

variable {kind : Kind} {row : Row} {a : Relation}

/-- Whether a row has a relation in its columns. -/
def Shows (row : Row) : Relation → Prop
  | .person r p role =>
      row.cell .personRelation "resource_uuid" = .text r ∧
        row.cell .personRelation "person_uuid" = .text p ∧
        row.cell .personRelation "relation" = .text role.word
  | .group r g _ tag =>
      row.cell .groupRelation "resource_uuid" = .text r ∧
        row.cell .groupRelation "group_uuid" = .text g ∧
        row.cell .groupRelation "relation_tag" = .text tag
  | .object r id => row.cell .objectRelation "resource_uuid" = .text r ∧ row.id = id

theorem shows_of_holds {record : kind.Record} (h : row.Holds record)
    (hRelation : Relation.ofRecord? kind record = some a) : row.Shows a := by
  cases kind with
  | personRelation =>
      cases hRelation
      simp only [Row.Holds, Kind.contents, List.forall_mem_cons] at h
      obtain ⟨hResource, hPerson, hRole, -⟩ := h
      exact ⟨Field.eq_text_of_ofCell hResource, Field.eq_text_of_ofCell hPerson,
        Field.eq_text_of_ofCell hRole⟩
  | groupRelation =>
      cases hRelation
      simp only [Row.Holds, Kind.contents, List.forall_mem_cons] at h
      obtain ⟨hResource, hGroup, -, hTag, -⟩ := h
      exact ⟨Field.eq_text_of_ofCell hResource, Field.eq_text_of_ofCell hGroup,
        Field.eq_text_of_ofCell hTag⟩
  | objectRelation =>
      cases hRelation
      simp only [Row.Holds, Kind.contents, List.forall_mem_cons] at h
      obtain ⟨hId, hResource, -⟩ := h
      exact ⟨Field.eq_text_of_ofCell hResource, FieldValue.integer.inj (Except.ok.inj hId)⟩
  | _ => cases hRelation

theorem relation?_of_holds (hFits : row.Fits kind) {record : kind.Record}
    (h : row.Holds record) : row.relation? kind = Relation.ofRecord? kind record := by
  unfold relation?
  cases kind with
  | group => split <;> rfl
  | _ => rw [(readRow_eq_ok_iff hFits).2 ⟨h, trivial⟩]

theorem kind_of_relation? (h : row.relation? kind = some a) : a.kind = kind := by
  unfold relation? at h
  split at h
  · exact Relation.kind_of_ofRecord? h
  · cases h

/-- Only links hold relations. -/
theorem relation?_eq_none (hKind : kind.isDependent = false) (row : Row) :
    row.relation? kind = none := by
  cases hRelation : row.relation? kind with
  | none => rfl
  | some a =>
      rw [← kind_of_relation? hRelation] at hKind
      cases a <;> cases hKind

theorem shows_of_relation? (hFits : row.Fits kind) (h : row.relation? kind = some a) :
    row.Shows a := by
  obtain ⟨record, hHolds⟩ := hFits.exists_holds
  rw [relation?_of_holds hFits hHolds] at h
  exact shows_of_holds hHolds h

theorem resource_of_relation? (hFits : row.Fits kind) (h : row.relation? kind = some a) :
    row.cell kind "resource_uuid" = .text a.resource := by
  have hShows := shows_of_relation? hFits h
  obtain rfl := kind_of_relation? h
  cases a <;> exact hShows.1

/-- A row refers to the ends of its relation. -/
theorem refersTo_iff (hFits : row.Fits kind) (h : row.relation? kind = some a) {target : Kind}
    {uuid : String} : row.RefersTo kind target uuid ↔ (target, uuid) ∈ a.ends := by
  have hShows := shows_of_relation? hFits h
  obtain rfl := kind_of_relation? h
  cases a with
  | person r p role =>
      simp [RefersTo, Relation.kind, Kind.references, hShows.1, hShows.2.1, Relation.ends,
        eq_comm]
  | group r g index tag =>
      simp [RefersTo, Relation.kind, Kind.references, hShows.1, hShows.2.1, Relation.ends,
        eq_comm]
  | object r id =>
      simp [RefersTo, Relation.kind, Kind.references, hShows.1, Relation.ends, eq_comm]

theorem relation?_object (hFits : row.Fits .objectRelation) {resource : String}
    (hResource : row.cell .objectRelation "resource_uuid" = .text resource) :
    row.relation? .objectRelation = some (.object resource row.id) := by
  obtain ⟨record, hHolds⟩ := hFits.exists_holds
  have hRelation : row.relation? .objectRelation = some _ := relation?_of_holds hFits hHolds
  obtain ⟨hOwner, hId⟩ := shows_of_relation? hFits hRelation
  rw [hRelation, ← hId, Cell.text.inj (hOwner.symm.trans hResource)]

/-- A pattern fits a text when it asks for none or for that one. -/
theorem fits_of_cell {column s : String} (h : row.cell kind column = .text s)
    (pattern : Option String) : row.fits kind column pattern = pattern.all fun p => s = p := by
  cases pattern with
  | none => rfl
  | some p =>
      rw [Row.fits, h, Bool.eq_iff_iff, Cell.same_text_iff, Option.all_some, decide_eq_true_eq,
        Cell.text.injEq]

/-- A pattern of what texts stand for fits in the same way. -/
theorem fits_of_word {α : Type} [DecidableEq α] {word : α → String}
    (hWord : Function.Injective word) {column : String} {own : α}
    (h : row.cell kind column = .text (word own)) (pattern : Option α) :
    row.fits kind column (pattern.map word) = pattern.all fun a => own = a := by
  rw [fits_of_cell h]
  cases pattern with
  | none => rfl
  | some a => simp [hWord.eq_iff]

end Row

/-! ## Steps -/

/-- The relation that a step adds when it succeeds with a reply. -/
def Step.relation? : Step → Reply → Option Relation
  | addPersonRelation resource person role, _ =>
      some (.person (normalize resource) (normalize person) role)
  | addGroupRelation resource group index tag, _ =>
      some (.group (normalize resource) (normalize group) index (tag.getD ""))
  | addObject _ resource _, .object o => some (.object (normalize resource) o.id)
  | _, _ => none

/-- The relations that a step adds: one at most, and none if the step fails. -/
def Step.added (c : Catalogue) (s : Step) : List Relation :=
  match (s.run c).1 with
  | .ok reply => (s.relation? reply).toList
  | .error _ => []

/-- Whether a step asks for a relation to be removed: by one of its ends, by its number, or by
what is known of it and of its ends. -/
def Step.asksFor (c : Catalogue) : Step → Relation → Bool
  | removeResource uuid, a => (Kind.resource, normalize uuid) ∈ a.ends
  | removePerson uuid, a => (Kind.person, normalize uuid) ∈ a.ends
  | removeGroup uuid, a => (Kind.group, normalize uuid) ∈ a.ends
  | removeObject id, .object _ own => own = id
  | removeObjects resource uuid role tag, .object owner id =>
      owner = normalize resource &&
        match c.getObject id with
        | .ok o =>
            (uuid.all fun u => o.uuid = normalize u) && (role.all fun r => o.role = r) &&
              tag.all fun t => o.tag = t
        | .error _ => false
  | removePersonRelations resource person role, .person owner p own =>
      owner = normalize resource &&
        ((person.all fun u => p = normalize u) && role.all fun r => own = r)
  | removeGroupRelations resource group type tag, .group owner g _ own =>
      owner = normalize resource &&
        ((group.all fun u => g = normalize u) &&
          (type.all fun u =>
            match c.getGroup g with
            | .ok found => found.groupType.uuid = normalize u
            | .error _ => false) &&
          tag.all fun t => own = t)
  | _, _ => false

/-- Whether a step removes a relation. -/
def Step.removes (c : Catalogue) (s : Step) (a : Relation) : Bool :=
  (s.run c).1.isOk && s.asksFor c a

namespace Catalogue

/-- Whether the relations of a catalogue are those of another one apart from some that went, in
their order, and behind them those that came. -/
def Turnover (c d : Catalogue) (gone : Relation → Bool) (come : List Relation) : Prop :=
  ∀ kind, d.tables.relations kind =
    ((c.tables.relations kind).filter fun a => !gone a) ++ come.filter fun a => a.kind = kind

/-- Where relations stay as they are, none goes and none comes. -/
theorem turnover_of_eq {c d : Catalogue}
    (h : ∀ kind, d.tables.relations kind = c.tables.relations kind) :
    Turnover c d (fun _ => false) [] := by
  intro kind
  rw [h]
  simp

theorem Turnover.refl (c : Catalogue) : Turnover c c (fun _ => false) [] :=
  turnover_of_eq fun _ => rfl

/-- There are relations in the rows of links only. -/
theorem relations_of_independent (t : Tables) {kind : Kind} (hKind : kind.isDependent = false) :
    t.relations kind = [] :=
  List.filterMap_eq_nil_iff.2 fun row _ => row.relation?_eq_none hKind

/-- Relations stay where the rows of links do. -/
theorem turnover_of_rows {c d : Catalogue}
    (h : ∀ kind : Kind, kind.isDependent = true → d.tables.rows kind = c.tables.rows kind) :
    Turnover c d (fun _ => false) [] := by
  refine turnover_of_eq fun kind => ?_
  cases hKind : kind.isDependent with
  | false => rw [relations_of_independent _ hKind, relations_of_independent _ hKind]
  | true =>
      unfold Tables.relations
      rw [h kind hKind]

/-- Relations go with the rows that hold them. -/
theorem turnover_of_filter {c d : Catalogue} (doomed : Kind → Row → Bool) {gone : Relation → Bool}
    (hRows : ∀ kind : Kind, kind.isDependent = true →
      d.tables.rows kind = (c.tables.rows kind).filter fun row => !doomed kind row)
    (hGone : ∀ kind, ∀ row ∈ c.tables.rows kind, ∀ a, row.relation? kind = some a →
      doomed kind row = gone a) : Turnover c d gone [] := by
  intro kind
  rw [List.filter_nil, List.append_nil]
  cases hKind : kind.isDependent with
  | false =>
      rw [relations_of_independent _ hKind, relations_of_independent _ hKind]
      rfl
  | true =>
      unfold Tables.relations
      rw [hRows kind hKind, List.filterMap_filter, List.filter_filterMap]
      refine List.filterMap_congr fun row hRow => ?_
      cases hRelation : row.relation? kind with
      | none => simp
      | some a =>
          rw [hGone kind row hRow a hRelation]
          cases hGoes : gone a <;> simp [Option.filter, hGoes]

/-- Whether a step leaves of the relations what it does not remove, and adds what it tells. -/
def TurnsOver (c : Catalogue) (s : Step) : Prop :=
  Turnover c (s.run c).2 (s.removes c) (s.added c)

/-! ### Steps that add relations -/

/-- A record that is added stands behind the others of its kind. -/
theorem turnover_insertRecord (kind : Kind) {c d : Catalogue} {record : kind.Record} {id : Int64}
    (h : c.insertRecord record = .ok (id, d)) :
    Turnover c d (fun _ => false) (Relation.ofRecord? kind (kind.restored id record)).toList := by
  obtain ⟨row, -, hFits, hHolds, hInserted, -⟩ := insertRecord_exact kind h
  intro other
  have hRelation := Row.relation?_of_holds hFits hHolds
  unfold Tables.relations
  rw [hInserted.result, Tables.rows_append]
  cases hNew : Relation.ofRecord? kind (kind.restored id record) with
  | none =>
      split
      · rename_i hOther
        simp [hOther, hRelation, hNew]
      · simp
  | some a =>
      have hKind := Relation.kind_of_ofRecord? hNew
      split
      · rename_i hOther
        simp [hOther, hRelation, hNew, hKind]
      · rename_i hOther
        have hElse : ¬ kind = other := fun hSame => hOther hSame.symm
        simp [hKind, hElse]

/-- What is found under an identifier has it. -/
theorem Synced.uuid_of_fetch {c : Catalogue} (h : c.Synced) (kind : Kind)
    (hKey : kind.keyColumn = "uuid") {uuid shown : String} {record : kind.Record}
    (hFetch : c.fetch kind.Record (.text uuid) shown = .ok record) {f : Field} {own : String}
    (hOwn : (f, .text own) ∈ kind.contents record) (hColumn : f.column = "uuid") :
    own = uuid := by
  obtain ⟨row, hFind, hHolds, -⟩ := (h.fetch_eq_ok_iff kind).1 hFetch
  have hThere := ((h.sound.find?_eq_some_iff kind hKey).1 hFind).2
  have hRead := Field.eq_text_of_ofCell (hHolds _ hOwn)
  dsimp only at hRead
  rw [hColumn] at hRead
  exact Cell.text.inj (hRead.symm.trans hThere)

theorem Synced.uuid_of_getResource {c : Catalogue} (h : c.Synced) {uuid : String} {r : Resource}
    (hGet : c.getResource uuid = .ok r) : r.uuid = normalize uuid :=
  h.uuid_of_fetch .resource rfl hGet (f := ResourceField.uuid) List.mem_cons_self rfl

theorem Synced.uuid_of_getPerson {c : Catalogue} (h : c.Synced) {uuid : String} {p : Person}
    (hGet : c.getPerson uuid = .ok p) : p.uuid = normalize uuid :=
  h.uuid_of_fetch .person rfl hGet (f := PersonField.uuid) List.mem_cons_self rfl

theorem Synced.uuid_of_getGroup {c : Catalogue} (h : c.Synced) {uuid : String} {g : Group}
    (hGet : c.getGroup uuid = .ok g) : g.uuid = normalize uuid :=
  h.uuid_of_fetch .group rfl hGet (f := GroupField.uuid) List.mem_cons_self rfl

/-- A step that fails adds nothing and removes nothing. -/
private theorem turnover_of_ok {α : Type} {c : Catalogue} {s : Step}
    {result : Except Fault (α × Catalogue)} {f : α → Reply}
    (hRun : s.run c = reply (c.outcome result) f)
    (h : ∀ a d, result = .ok (a, d) → Turnover c d (s.asksFor c) (s.relation? (f a)).toList) :
    TurnsOver c s := by
  have hRemoves : s.removes c = fun a => (s.run c).1.isOk && s.asksFor c a := rfl
  unfold TurnsOver
  rw [hRemoves]
  unfold Step.added
  rw [hRun]
  cases hResult : result with
  | error fault => exact .refl c
  | ok p => exact h p.1 p.2 hResult

theorem turnsOver_addPersonRelation {c : Catalogue} (hSynced : c.Synced)
    (resource person : String) (role : PersonRole) :
    TurnsOver c (Step.addPersonRelation resource person role) := by
  refine turnover_of_ok (by rw [Step.run, Catalogue.addPersonRelation]) fun _ d hResult => ?_
  split at hResult
  · cases hResult
  · rename_i r hResource
    split at hResult
    · cases hResult
    · rename_i p hPerson
      split at hResult
      · cases hResult
      · obtain ⟨⟨id, e⟩, hInsert, hMade⟩ := exists_of_map_ok hResult
        obtain ⟨-, rfl⟩ := Prod.mk.inj hMade
        have hTurnover := turnover_insertRecord .personRelation hInsert
        dsimp only [Relation.ofRecord?, Kind.restored] at hTurnover
        rw [hSynced.uuid_of_getResource hResource, hSynced.uuid_of_getPerson hPerson,
          normalize_normalize, normalize_normalize] at hTurnover
        exact hTurnover

theorem turnsOver_addGroupRelation {c : Catalogue} (hSynced : c.Synced) (resource group : String)
    (index : Option Int64) (tag : Option String) :
    TurnsOver c (Step.addGroupRelation resource group index tag) := by
  refine turnover_of_ok (by rw [Step.run, Catalogue.addGroupRelation]) fun _ d hResult => ?_
  split at hResult
  · cases hResult
  · rename_i r hResource
    split at hResult
    · cases hResult
    · rename_i g hGroup
      dsimp only at hResult
      split at hResult
      · cases hResult
      · obtain ⟨⟨id, e⟩, hInsert, hMade⟩ := exists_of_map_ok hResult
        obtain ⟨-, rfl⟩ := Prod.mk.inj hMade
        have hTurnover := turnover_insertRecord .groupRelation hInsert
        dsimp only [Relation.ofRecord?, Kind.restored] at hTurnover
        rw [hSynced.uuid_of_getResource hResource, hSynced.uuid_of_getGroup hGroup,
          normalize_normalize, normalize_normalize] at hTurnover
        exact hTurnover

theorem turnsOver_addObject {c : Catalogue} (hSynced : c.Synced) (fresh resource : String)
    (given : ObjectRelation) :
    TurnsOver c (Step.addObject fresh resource given) := by
  refine turnover_of_ok (by rw [Step.run, Catalogue.addObject]) fun o d hResult => ?_
  split at hResult
  · cases hResult
  · rename_i owner hOwner
    dsimp only at hResult
    obtain ⟨⟨id, e⟩, hInsert, hMade⟩ := exists_of_map_ok hResult
    obtain ⟨rfl, rfl⟩ := Prod.mk.inj hMade
    have hTurnover := turnover_insertRecord .objectRelation hInsert
    dsimp only [Relation.ofRecord?, Kind.restored] at hTurnover
    rw [hSynced.uuid_of_getResource hOwner, normalize_normalize] at hTurnover
    exact hTurnover

/-! ### Steps that remove relations -/

/-- Relations go with either of their ends. -/
theorem turnover_removeRecord {c d : Catalogue} (hSound : c.tables.Sound) (target : Kind)
    (hKey : target.keyColumn = "uuid") {uuid shown : String}
    (h : c.removeRecord target (.text uuid) shown = .ok d) :
    Turnover c d (fun a => (target, uuid) ∈ a.ends) [] := by
  obtain ⟨row, t, hFind, hRemoved, rfl⟩ := removeRecord_eq_ok h
  obtain ⟨hRow, hUuid⟩ := (hSound.find?_eq_some_iff target hKey).1 hFind
  refine turnover_of_filter
    (fun kind r => decide (r.Is kind target uuid) || decide (r.RefersTo kind target uuid))
    (fun kind _ => ?_) fun kind r hr a hRelation => ?_
  · dsimp only
    rw [hRemoved.rows_of_sound hSound hKey hRow hUuid]
    simp only [Bool.not_or]
  · have hLink : ¬ r.Is kind target uuid := by
      rintro ⟨rfl, -⟩
      rw [r.relation?_eq_none (Tables.independent_of_key hKey)] at hRelation
      cases hRelation
    simp [hLink, Row.refersTo_iff (hSound.fits kind r hr) hRelation]

/-- The removal of a record as a step. -/
private theorem turnsOver_removeRecord {c : Catalogue} (hSound : c.tables.Sound) {s : Step}
    (target : Kind) (hKey : target.keyColumn = "uuid") {uuid shown : String}
    (hRun : s.run c = reply (c.outcome ((c.removeRecord target (.text uuid) shown).map
      fun r => ((), r))) fun _ => .done)
    (hAsks : ∀ a, s.asksFor c a = decide ((target, uuid) ∈ a.ends))
    (hAdds : ∀ answer, s.relation? answer = none) : TurnsOver c s := by
  refine turnover_of_ok hRun fun _ d hResult => ?_
  obtain ⟨r, hRemove, hMade⟩ := exists_of_map_ok hResult
  obtain ⟨-, rfl⟩ := Prod.mk.inj hMade
  rw [hAdds, funext hAsks]
  exact turnover_removeRecord hSound target hKey hRemove

/-- The removal of a group type removes no relation. -/
theorem turnsOver_removeGroupType {c : Catalogue} (hSound : c.tables.Sound) (uuid : String) :
    TurnsOver c (.removeGroupType uuid) := by
  refine turnover_of_ok (by rw [Step.run, Catalogue.removeGroupType]) fun _ d hResult => ?_
  have hNoEnd : (Step.removeGroupType uuid).asksFor c =
      fun a => decide ((Kind.groupType, normalize uuid) ∈ a.ends) := by
    funext a
    cases a <;> simp [Step.asksFor, Relation.ends]
  rw [hNoEnd]
  split at hResult
  · cases hResult
  · split at hResult
    · cases hResult
    · split at hResult
      · cases hResult
      · obtain ⟨r, hRemove, hMade⟩ := exists_of_map_ok hResult
        obtain ⟨-, rfl⟩ := Prod.mk.inj hMade
        have hTurnover := turnover_removeRecord hSound .groupType rfl hRemove
        exact hTurnover
      · cases hResult

theorem turnsOver_removeObject {c : Catalogue} (hSound : c.tables.Sound) (id : Int64) :
    TurnsOver c (.removeObject id) := by
  refine turnover_of_ok (by rw [Step.run, Catalogue.removeObject]) fun _ d hResult => ?_
  obtain ⟨r, hRemove, hMade⟩ := exists_of_map_ok hResult
  obtain ⟨-, rfl⟩ := Prod.mk.inj hMade
  obtain ⟨row, t, hFind, hRemoved, rfl⟩ := removeRecord_eq_ok hRemove
  have hId := Tables.id_of_find? hFind
  -- Nothing refers to objects.
  have hAlone : ∀ (kind : Kind) (uuid : Cell) (r : Row),
      Tables.dependsOn kind .objectRelation uuid r = false := by
    intro kind uuid r
    cases kind <;> rfl
  refine turnover_of_filter
    (fun kind r => decide (kind = .objectRelation) && decide (r.id = id))
    (fun kind hKind => ?_) fun kind r hr a hRelation => ?_
  · dsimp only
    rw [hRemoved.result, Tables.rows_withoutDependents, if_pos hKind, Tables.rows_without, hId]
    split
    · rename_i hObject
      subst hObject
      simp [hAlone]
    · rename_i hOther
      simp [hAlone, hOther]
  · have hShows := Row.shows_of_relation? (hSound.fits kind r hr) hRelation
    obtain rfl := Row.kind_of_relation? hRelation
    cases a with
    | object resource own => simp [Step.asksFor, Relation.kind, hShows.2]
    | _ => rfl

/-- The removal of links that a pattern picks. -/
private theorem turnsOver_removeLinks {c : Catalogue} (hSound : c.tables.Sound) {s : Step}
    {target : Kind} {resource : String} {pattern : Row → Bool}
    (hRun : s.run c = reply (c.removeLinks target resource pattern) .number)
    (hAdds : ∀ answer, s.relation? answer = none)
    (hAsks : ∀ row ∈ c.tables.rows target, ∀ a, row.relation? target = some a →
      s.asksFor c a = (decide (a.resource = normalize resource) && pattern row))
    (hOther : ∀ a, a.kind ≠ target → s.asksFor c a = false) : TurnsOver c s := by
  have hRemoves : s.removes c = s.asksFor c := by
    funext a
    unfold Step.removes
    rw [hRun]
    rfl
  have hAdded : s.added c = [] := by
    unfold Step.added
    rw [hRun]
    exact congrArg Option.toList (hAdds _)
  unfold TurnsOver
  rw [hRemoves, hAdded, hRun]
  refine turnover_of_filter (fun kind row => decide (kind = target) &&
    ((row.cell target "resource_uuid").same (uuidCell resource) && pattern row))
    (fun kind _ => ?_) fun kind row hRow a hRelation => ?_
  · refine (c.tables.rows_without target kind _).trans ?_
    split
    · rename_i hKind
      subst hKind
      simp
    · rename_i hKind
      simp [hKind]
  · by_cases hKind : kind = target
    · subst hKind
      have hOwner := Row.resource_of_relation? (hSound.fits kind row hRow) hRelation
      have hSame : (row.cell kind "resource_uuid").same (uuidCell resource) =
          decide (a.resource = normalize resource) := by
        rw [hOwner, uuidCell, Bool.eq_iff_iff, Cell.same_text_iff, decide_eq_true_eq,
          Cell.text.injEq]
      simp [hAsks row hRow a hRelation, hSame]
    · rw [hOther a (Row.kind_of_relation? hRelation ▸ hKind)]
      simp [hKind]

theorem personRole_word_injective : Function.Injective PersonRole.word :=
  Function.Injective.of_comp (f := PersonRole.ofText?) fun r s h => by
    simpa [personRole_ofText?_word] using h

theorem objectRole_word_injective : Function.Injective ObjectRole.word :=
  Function.Injective.of_comp (f := ObjectRole.ofText?) fun r s h => by
    simpa [objectRole_ofText?_word] using h

theorem turnsOver_removePersonRelations {c : Catalogue} (hSound : c.tables.Sound)
    (resource : String) (person : Option String) (role : Option PersonRole) :
    TurnsOver c (.removePersonRelations resource person role) := by
  refine turnsOver_removeLinks hSound (by rw [Step.run, Catalogue.removePersonRelations])
    (fun _ => rfl) (fun row hRow a hRelation => ?_) fun a hKind => ?_
  · have hShows := Row.shows_of_relation? (hSound.fits _ row hRow) hRelation
    have hKind := Row.kind_of_relation? hRelation
    cases a with
    | person owner p own =>
        obtain ⟨-, hPerson, hRole⟩ := hShows
        rw [Row.fits_of_cell hPerson, Row.fits_of_word personRole_word_injective hRole,
          Option.all_map]
        rfl
    | _ => cases hKind
  · cases a with
    | person => exact absurd rfl hKind
    | _ => rfl

/-- An object is fetched under the number of its row. -/
theorem Synced.getObject_of_mem {c : Catalogue} (h : c.Synced) {row : Row}
    (hRow : row ∈ c.tables.objects) :
    ∃ o, c.getObject row.id = .ok o ∧ @Row.Holds .objectRelation row o := by
  obtain ⟨o, hHolds⟩ := (h.sound.fits .objectRelation row hRow).exists_holds
  refine ⟨o, (h.fetch_eq_ok_iff .objectRelation).2 ⟨row, ?_, hHolds, trivial⟩, hHolds⟩
  cases hFind : c.tables.find? .objectRelation (.integer row.id) with
  | none =>
      have hNone := List.find?_eq_none.1 hFind row hRow
      exact absurd (Cell.integer_same_iff.2 rfl) hNone
  | some found =>
      rw [h.sound.id_injective .objectRelation (mem_of_find? hFind) hRow
        (Tables.id_of_find? hFind)]

theorem turnsOver_removeObjects {c : Catalogue} (hSynced : c.Synced) (resource : String)
    (uuid : Option String) (role : Option ObjectRole) (tag : Option String) :
    TurnsOver c (.removeObjects resource uuid role tag) := by
  have hSound := hSynced.sound
  refine turnsOver_removeLinks hSound (by rw [Step.run, Catalogue.removeObjects])
    (fun _ => rfl) (fun row hRow a hRelation => ?_) fun a hKind => ?_
  · have hShows := Row.shows_of_relation? (hSound.fits _ row hRow) hRelation
    have hKind := Row.kind_of_relation? hRelation
    cases a with
    | object owner id =>
        obtain ⟨-, rfl⟩ := hShows
        obtain ⟨o, hGet, hHolds⟩ := hSynced.getObject_of_mem hRow
        simp only [Row.Holds, Kind.contents, List.forall_mem_cons] at hHolds
        have hUuid : row.cell .objectRelation "object_uuid" = .text o.uuid :=
          Field.eq_text_of_ofCell hHolds.2.2.1
        have hRole : row.cell .objectRelation "role" = .text o.role.word :=
          Field.eq_text_of_ofCell hHolds.2.2.2.1
        have hTag : row.cell .objectRelation "tag" = .text o.tag :=
          Field.eq_text_of_ofCell hHolds.2.2.2.2.1
        rw [Row.fits_of_cell hUuid, Row.fits_of_word objectRole_word_injective hRole,
          Row.fits_of_cell hTag, Option.all_map, Step.asksFor, hGet]
        rfl
    | _ => cases hKind
  · cases a with
    | object => exact absurd rfl hKind
    | _ => rfl

/-- The group of a relation tells the type that the relation leads to. -/
theorem Synced.leadsTo_eq {c : Catalogue} (h : c.Synced) {row : Row}
    (hRow : row ∈ c.tables.groupLinks) {group : String}
    (hGroup : row.cell .groupRelation "group_uuid" = .text group) (type : String) :
    c.tables.leadsTo (uuidCell type) row =
      match c.getGroup group with
      | .ok found => decide (found.groupType.uuid = normalize type)
      | .error _ => false := by
  obtain ⟨g, hg, hEnd⟩ := h.sound.group_of_link hRow
  rw [hGroup] at hEnd
  have hFits := h.sound.fits .group g hg
  obtain ⟨found, hRead⟩ := h.readable .group hg
  obtain ⟨hHolds, hKnows⟩ := (readRow_eq_ok_iff hFits).1 hRead
  have hGet : c.getGroup group = .ok found := by
    obtain ⟨s, hs, hNormal, -⟩ := hFits.key_text rfl
    obtain rfl : group = s := Cell.text.inj (hEnd.symm.trans hs)
    refine (h.fetch_eq_ok_iff .group).2 ⟨g, ?_, hHolds, hKnows⟩
    exact (h.sound.find?_eq_some_iff .group rfl).2 ⟨hg, by rw [hEnd, hNormal]⟩
  simp only [Row.Holds, Kind.contents, List.forall_mem_cons] at hHolds
  have hType : g.cell .group "type_uuid" = .text (Group.groupType found).uuid :=
    Field.eq_text_of_ofCell hHolds.2.2.2.1
  rw [hGet]
  unfold Tables.leadsTo
  rw [hGroup, ← hEnd, h.sound.typeOf?_eq hg, hType]
  dsimp only
  rw [uuidCell, Bool.eq_iff_iff, Cell.same_text_iff, decide_eq_true_eq, Cell.text.injEq]

theorem turnsOver_removeGroupRelations {c : Catalogue} (hSynced : c.Synced) (resource : String)
    (group type tag : Option String) :
    TurnsOver c (.removeGroupRelations resource group type tag) := by
  have hSound := hSynced.sound
  refine turnsOver_removeLinks hSound (by rw [Step.run, Catalogue.removeGroupRelations])
    (fun _ => rfl) (fun row hRow a hRelation => ?_) fun a hKind => ?_
  · have hShows := Row.shows_of_relation? (hSound.fits _ row hRow) hRelation
    have hKind := Row.kind_of_relation? hRelation
    cases a with
    | group owner g index own =>
        obtain ⟨-, hGroup, hTag⟩ := hShows
        rw [Row.fits_of_cell hGroup, Row.fits_of_cell hTag, Option.all_map]
        cases type with
        | none => rfl
        | some u =>
            dsimp only
            rw [hSynced.leadsTo_eq hRow hGroup]
            rfl
    | _ => cases hKind
  · cases a with
    | group => exact absurd rfl hKind
    | _ => rfl

/-! ### Steps that leave relations alone -/

/-- The change of an object leaves its number and its resource as they are. -/
theorem turnover_updateObject {c : Catalogue} (hSound : c.tables.Sound) (id : Int64)
    (patch : ObjectPatch) : Turnover c (c.updateObject id patch).2 (fun _ => false) [] := by
  have hOwner : ∀ a ∈ patch.assignments, a.1.column ≠ "resource_uuid" := by
    obtain ⟨uuid, role, tag⟩ := patch
    cases uuid <;> cases role <;> cases tag <;>
      simp [ObjectPatch.assignments, assign, ObjectField.uuid, ObjectField.role, ObjectField.tag]
  unfold updateObject
  cases hUpdate : c.updateRecord .objectRelation (.integer id) (writeInt64 id)
      patch.assignments with
  | error fault => exact .refl c
  | ok d =>
      refine turnover_of_eq fun kind => ?_
      rcases updateRecord_eq_ok patch.keepsKey hUpdate with
        ⟨-, rfl⟩ | ⟨stored, old, t, hStored, hSettable, hFind, hReplaced, rfl⟩
      · rfl
      · have hOld := mem_of_find? hFind
        have hFits := hSound.fits .objectRelation old hOld
        obtain ⟨resource, hResource, -⟩ :=
          hFits.reference_text (r := ⟨"resource_uuid", .resource⟩) (by decide)
        have hSame : (old.assign .objectRelation stored).relation? .objectRelation =
            old.relation? .objectRelation := by
          rw [Row.relation?_object hFits hResource, Row.relation?_object (hFits.assign hSettable),
            Row.assign_id]
          rw [hStored.keeps_column hOwner, hResource]
        show t.relations kind = c.tables.relations kind
        unfold Tables.relations
        rw [hReplaced.rows_eq]
        split
        · rename_i hKind
          subst hKind
          rw [List.filterMap_map]
          refine List.filterMap_congr fun row hRow => ?_
          dsimp only [Function.comp]
          split
          · rename_i hId
            obtain rfl := hSound.id_injective .objectRelation hRow hOld hId
            exact hSame
          · rfl
        · rfl

theorem added_eq_nil {s : Step} (h : ∀ answer, s.relation? answer = none) (c : Catalogue) :
    s.added c = [] := by
  unfold Step.added
  split
  · rw [h]
    rfl
  · rfl

private theorem removes_eq {s : Step} {c : Catalogue} (h : s.asksFor c = fun _ => false) :
    s.removes c = fun _ => false := by
  funext a
  unfold Step.removes
  rw [h]
  exact Bool.and_false _

/-- A step that writes no links leaves the relations alone. -/
private theorem turnsOver_of_writes {c : Catalogue} {s : Step} (hPlain : s.isPlain = true)
    (hAdds : ∀ answer, s.relation? answer = none) (hAsks : s.asksFor c = fun _ => false)
    (h : ∀ kind : Kind, kind.isDependent = true → s.writes kind = none) : TurnsOver c s := by
  unfold TurnsOver
  rw [added_eq_nil hAdds, removes_eq hAsks]
  refine turnover_of_rows fun kind hKind => ?_
  have hWritten := s.rows_written c hPlain kind
  rw [h kind hKind] at hWritten
  exact hWritten

/-- **What a step does to the relations that are there**: those that it removes go, the others
keep their order, and what it adds comes last. -/
theorem Synced.turnsOver_step {c : Catalogue} (hSynced : c.Synced) {s : Step}
    (hPlain : s.isPlain = true) : TurnsOver c s := by
  have hSound := hSynced.sound
  cases s with
  | addPersonRelation resource person role => exact turnsOver_addPersonRelation hSynced _ _ _
  | addGroupRelation resource group index tag => exact turnsOver_addGroupRelation hSynced _ _ _ _
  | addObject fresh resource record => exact turnsOver_addObject hSynced _ _ _
  | removeResource uuid =>
      exact turnsOver_removeRecord hSound .resource rfl rfl (fun _ => rfl) fun _ => rfl
  | removePerson uuid =>
      exact turnsOver_removeRecord hSound .person rfl rfl (fun _ => rfl) fun _ => rfl
  | removeGroup uuid =>
      exact turnsOver_removeRecord hSound .group rfl rfl (fun _ => rfl) fun _ => rfl
  | removeGroupType uuid => exact turnsOver_removeGroupType hSound uuid
  | removeObject id => exact turnsOver_removeObject hSound id
  | removeObjects resource uuid role tag => exact turnsOver_removeObjects hSynced _ _ _ _
  | removePersonRelations resource person role => exact turnsOver_removePersonRelations hSound _ _ _
  | removeGroupRelations resource group type tag =>
      exact turnsOver_removeGroupRelations hSynced _ _ _ _
  | updateObject id patch =>
      unfold TurnsOver
      rw [added_eq_nil fun _ => rfl, removes_eq rfl, Step.run, Step.reply_snd]
      exact turnover_updateObject hSound id patch
  | _ =>
      refine turnsOver_of_writes hPlain (fun _ => rfl) rfl fun kind hKind => ?_
      revert hKind
      cases kind <;> simp [Step.writes, Write.only, Kind.isDependent]

end Catalogue

end Shelfmark
