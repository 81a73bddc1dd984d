import Shelfmark.Proofs.Catalogue.Listing
import Shelfmark.Proofs.Catalogue.Reopening
import Shelfmark.Proofs.Catalogue.Turnover

/-!
# Relations are listed in the order in which they were added

A listing of relations sorts by the numbers of rows. Numbers are used again once their rows are
gone, all resources share a table, and a rollback brings rows back. So a number says nothing of
when a relation was added, and what can be said of a listing needs the whole history of the
catalogue.

The history is kept beside the catalogue as a list of relations that is changed by the steps
alone: what a step adds is put at the end, what it removes is left out, and a rollback goes back
to the list as it was when the savepoint was opened. `Recorded` pairs catalogues with their
lists. A relation that is removed and added again is therefore found where it was added last,
and one whose removal was rolled back is found where it was.

## Main results

* `Catalogue.Reachable.exists_recorded` — every catalogue that can come about has a history.
* `Catalogue.Recorded.remembers` — the tables keep the relations that the history tells.
* `Catalogue.Reachable.relations_in_order_added` — relations are listed in the order in which they
  were added.
-/

namespace Shelfmark

/-! ## Histories -/

/-- The relations after a step, told from those before: what it removes goes, and what it adds
comes last. A step that fails does neither. -/
def Step.record (c : Catalogue) (s : Step) (log : List Relation) : List Relation :=
  (log.filter fun a => !s.removes c a) ++ s.added c

/-- Whether tables hold the relations of a list, those of each kind in their order. -/
def Tables.Keep (t : Tables) (log : List Relation) : Prop :=
  ∀ kind, t.relations kind = log.filter fun a => a.kind = kind

namespace Catalogue

/-- The catalogues that can come about, each with the relations that it was given and that were
not removed since, in the order in which they were added. It is told from the steps alone. The
marks are what the list was when each of the open savepoints was opened, the innermost first;
a rollback goes back to them. -/
inductive Recorded : Catalogue → List Relation → List (List Relation) → Prop
  | created {fresh : String} {c : Catalogue} (hCreate : create fresh = .ok c) : Recorded c [] []
  | reopened {fresh : String} {c d : Catalogue} {log : List Relation}
      {marks : List (List Relation)} (hRecorded : Recorded c log marks)
      (hOpen : c.reopen fresh = .ok d) : Recorded d (marks.getLastD log) []
  | step {c : Catalogue} {s : Step} {log : List Relation} {marks : List (List Relation)}
      (hRecorded : Recorded c log marks) (hPlain : s.isPlain = true)
      (hSupplied : s.isSupplied = true) : Recorded (s.run c).2 (s.record c log) marks
  | begin {c : Catalogue} {log : List Relation} {marks : List (List Relation)}
      (hRecorded : Recorded c log marks) : Recorded c.begin log (log :: marks)
  | commit {c : Catalogue} {log : List Relation} {marks : List (List Relation)}
      (hRecorded : Recorded c log marks) : Recorded c.commit.2 log marks.tail
  | rollback {c : Catalogue} {log : List Relation} {marks : List (List Relation)}
      (hRecorded : Recorded c log marks) : Recorded c.rollback.2 (marks.headD log) marks.tail

/-- What has a history can come about. -/
theorem Recorded.reachable {c : Catalogue} {log : List Relation} {marks : List (List Relation)}
    (h : Recorded c log marks) : Reachable c := by
  induction h with
  | created hCreate => exact .created hCreate
  | reopened _ hOpen ih => exact ih.reopened hOpen
  | step _ hPlain hSupplied ih => exact ih.run (Run.refl.step hPlain hSupplied)
  | begin _ ih => exact ih.run Run.refl.begin
  | commit _ ih => exact ih.run (Run.refl.finish (by omega) false)
  | rollback _ ih => exact ih.run (Run.refl.finish (by omega) true)

/-- What can come about has a history. -/
theorem Reachable.exists_recorded {c : Catalogue} (h : Reachable c) :
    ∃ log marks, Recorded c log marks := by
  induction h with
  | created hCreate => exact ⟨_, _, .created hCreate⟩
  | reopened _ hOpen ih =>
      obtain ⟨log, marks, hRecorded⟩ := ih
      exact ⟨_, _, hRecorded.reopened hOpen⟩
  | run _ hRun ih =>
      induction hRun with
      | refl => exact ih
      | step _ hPlain hSupplied ih =>
          obtain ⟨log, marks, hRecorded⟩ := ih
          exact ⟨_, _, hRecorded.step hPlain hSupplied⟩
      | begin _ ih =>
          obtain ⟨log, marks, hRecorded⟩ := ih
          exact ⟨_, _, hRecorded.begin⟩
      | commit _ _ ih =>
          obtain ⟨log, marks, hRecorded⟩ := ih
          exact ⟨_, _, hRecorded.commit⟩
      | rollback _ _ ih =>
          obtain ⟨log, marks, hRecorded⟩ := ih
          exact ⟨_, _, hRecorded.rollback⟩

/-! ## What is told of the tables that are held -/

private theorem getLastD_of_forall₂ {α β : Type} {R : α → β → Prop} {as : List α} {bs : List β}
    {a : α} {b : β} (h : R a b) (hRest : List.Forall₂ R as bs) :
    R (as.getLastD a) (bs.getLastD b) := by
  induction hRest generalizing a b with
  | nil => exact h
  | cons hHead _ ih =>
      rw [List.getLastD_cons, List.getLastD_cons]
      exact ih hHead

section Held

variable {α : Type} {R : Tables → α → Prop} {c d : Catalogue} {now : α} {marks : List α}

/-- What is told of the present tables and of those at each savepoint is told of those that are
held after a commit, but for the innermost savepoint. -/
theorem forall₂_held_commit (h : List.Forall₂ R c.held (now :: marks)) :
    List.Forall₂ R c.commit.2.held (now :: marks.tail) := by
  obtain ⟨hHead, hRest⟩ := List.forall₂_cons.1 h
  cases hOpen : c.savepoints with
  | nil =>
      have hSame : c.commit.2 = c := by
        unfold Catalogue.commit
        rw [hOpen]
      rw [hOpen, List.forall₂_nil_left_iff] at hRest
      subst hRest
      rw [hSame]
      exact h
  | cons t outer =>
      rw [hOpen] at hRest
      obtain ⟨mark, rest, -, hOuter, rfl⟩ := List.forall₂_cons_left_iff.1 hRest
      rw [commit_of_open hOpen]
      exact .cons hHead hOuter

/-- After a rollback what was told at the innermost savepoint is told again. -/
theorem forall₂_held_rollback (hReachable : Reachable c)
    (h : List.Forall₂ R c.held (now :: marks)) :
    List.Forall₂ R c.rollback.2.held (marks.headD now :: marks.tail) := by
  obtain ⟨hHead, hRest⟩ := List.forall₂_cons.1 h
  cases hOpen : c.savepoints with
  | nil =>
      have hSame : c.rollback.2 = c := by
        unfold Catalogue.rollback
        rw [hOpen]
      rw [hOpen, List.forall₂_nil_left_iff] at hRest
      subst hRest
      rw [hSame]
      exact h
  | cons t outer =>
      have hLawful := (hReachable.inv.savepoints t (by simp [hOpen])).1
      rw [hOpen] at hRest
      obtain ⟨mark, rest, hKept, hOuter, rfl⟩ := List.forall₂_cons_left_iff.1 hRest
      rw [rollback_eq hOpen hLawful]
      exact .cons hKept hOuter

/-- After an opening what was told at the outermost savepoint is told again. -/
theorem forall₂_held_reopen (hReachable : Reachable c) {fresh : String}
    (hOpen : c.reopen fresh = .ok d) (h : List.Forall₂ R c.held (now :: marks)) :
    List.Forall₂ R d.held [marks.getLastD now] := by
  rw [hReachable.reopen_eq] at hOpen
  cases hOpen
  obtain ⟨hHead, hRest⟩ := List.forall₂_cons.1 h
  exact .cons (getLastD_of_forall₂ hHead hRest) .nil

end Held

/-! ## The tables keep what a history tells -/

/-- What comes and goes in the tables comes and goes in the list. -/
theorem Turnover.keep {c d : Catalogue} {gone : Relation → Bool} {come log : List Relation}
    (h : Turnover c d gone come) (hKeep : c.tables.Keep log) :
    d.tables.Keep ((log.filter fun a => !gone a) ++ come) := by
  intro kind
  rw [h kind, hKeep kind, List.filter_append, List.filter_filter, List.filter_filter]
  refine congrArg (· ++ _) (List.filter_congr fun a _ => ?_)
  exact Bool.and_comm _ _

/-- Whether the tables that are held keep what a history tells of them. -/
def Remembers (c : Catalogue) (log : List Relation) (marks : List (List Relation)) : Prop :=
  List.Forall₂ Tables.Keep c.held (log :: marks)

/-- Adding group types adds no relations. -/
private theorem keep_seed {c d : Catalogue} {types : List GroupType} (h : c.seed types = .ok d)
    (hKeep : c.tables.Keep []) : d.savepoints = c.savepoints ∧ d.tables.Keep [] := by
  induction types generalizing c with
  | nil =>
      cases h
      exact ⟨rfl, hKeep⟩
  | cons g rest ih =>
      unfold seed at h
      split at h
      · exact ih h hKeep
      · split at h
        · cases h
        · rename_i id added hInsert
          have hTurnover : Turnover c added (fun _ => false) [] :=
            turnover_insertRecord .groupType hInsert
          obtain ⟨hSavepoints, hRest⟩ := ih h (hTurnover.keep hKeep)
          obtain ⟨_, _, _, _, _, rfl⟩ := insertRecord_eq_ok hInsert
          exact ⟨hSavepoints, hRest⟩

/-- A new catalogue has no relations. -/
private theorem remembers_created {fresh : String} {c : Catalogue} (h : create fresh = .ok c) :
    c.Remembers [] [] := by
  unfold create openOn at h
  split at h
  · cases h
  · rename_i checked hVersion
    dsimp only at h
    split at h
    · cases h
    · rename_i loaded hReload
      obtain ⟨_, _, rfl⟩ := exists_of_map_ok hReload
      have hEmpty : checked.Keep [] := by
        intro kind
        unfold Tables.relations
        rw [rows_checkVersion hVersion]
        cases kind <;> rfl
      obtain ⟨hSavepoints, hKeep⟩ := keep_seed h hEmpty
      unfold Remembers held
      rw [hSavepoints]
      exact .cons hKeep .nil

/-- **What a history tells is what the tables keep**, and so are the marks of the tables that a
rollback brings back. -/
theorem Recorded.remembers {c : Catalogue} {log : List Relation} {marks : List (List Relation)}
    (h : Recorded c log marks) : c.Remembers log marks := by
  induction h with
  | created hCreate => exact remembers_created hCreate
  | reopened hRecorded hOpen ih => exact forall₂_held_reopen hRecorded.reachable hOpen ih
  | step hRecorded hPlain hSupplied ih =>
      have hSynced := hRecorded.reachable.inv.synced
      have hEffect := Step.effect hSynced hPlain hSupplied
      obtain ⟨hHead, hRest⟩ := List.forall₂_cons.1 ih
      unfold Remembers held
      rw [hEffect.savepoints]
      exact .cons (Turnover.keep (hSynced.turnsOver_step hPlain) hHead) hRest
  | begin _ ih => exact .cons (List.forall₂_cons.1 ih).1 ih
  | commit _ ih => exact forall₂_held_commit ih
  | rollback hRecorded ih => exact forall₂_held_rollback hRecorded.reachable ih

end Catalogue

/-! ## The relations of a resource -/

/-- The relations of a kind that a list has of a resource. -/
def Relation.of (uuid : String) (kind : Kind) (log : List Relation) : List Relation :=
  log.filter fun a => a.kind = kind ∧ a.resource = uuid

namespace Tables

variable {t : Tables}

/-- The rows about a resource hold the relations of the resource. -/
theorem Keep.relations_of {log : List Relation} (h : t.Keep log) (hSound : t.Sound) (kind : Kind)
    (uuid : String) :
    (t.rowsWhere kind "resource_uuid" (.text uuid)).filterMap (Row.relation? kind) =
      Relation.of uuid kind log := by
  have hRelations : (t.relations kind).filter (fun a => a.resource = uuid) =
      Relation.of uuid kind log := by
    rw [h kind, List.filter_filter]
    refine List.filter_congr fun a _ => ?_
    rw [Bool.decide_and, Bool.and_comm]
  rw [← hRelations]
  unfold relations rowsWhere
  rw [List.filterMap_filter, List.filter_filterMap]
  refine List.filterMap_congr fun row hRow => ?_
  cases hRelation : row.relation? kind with
  | none => simp
  | some a =>
      have hOwner := Row.resource_of_relation? (hSound.fits kind row hRow) hRelation
      have hSame : (row.cell kind "resource_uuid").same (.text uuid) =
          decide (a.resource = uuid) := by
        rw [hOwner, Bool.eq_iff_iff, Cell.same_text_iff, decide_eq_true_eq, Cell.text.injEq]
      rw [hSame]
      by_cases hIs : a.resource = uuid <;> simp [Option.filter, hIs]

/-- Every link leads to just one row. -/
theorem Sound.linked_fst (h : t.Sound) {link target : Kind} {reference : String}
    (hReference : ⟨reference, target⟩ ∈ link.references) (resource : Cell) :
    (Summary.linked t link target reference resource).map Prod.fst =
      t.rowsWhere link "resource_uuid" resource := by
  unfold Summary.linked
  rw [List.map_flatMap]
  refine Eq.trans (List.flatMap_congr fun x hx => ?_) (List.flatMap_singleton' _)
  have hKey := (target_of_reference hReference).2.2
  obtain ⟨row, hRow, hCell⟩ := h.refs link x (List.mem_filter.1 hx).1 _ hReference
  obtain ⟨s, hs, -⟩ := (h.fits target row hRow).key_text hKey
  have hThere : row ∈ t.rowsWhere target "uuid" (x.cell link reference) := by
    rw [← hCell, hs]
    exact List.mem_filter.2 ⟨hRow, Cell.same_text_iff.2 hs⟩
  obtain ⟨only, hOnly⟩ := List.length_eq_one_iff.1
    (le_antisymm (h.rowsWhere_uuid_length hKey (x.cell link reference))
      (List.length_pos_of_mem hThere))
  rw [hOnly]
  rfl

end Tables

/-! ## Listings -/

/-- Rows that are read one by one tell the relations that they hold. -/
private theorem filterMap_of_forall₂ {α β γ : Type} {f : α → Option γ} {g : β → γ} {as : List α}
    {bs : List β} (h : List.Forall₂ (fun a b => f a = some (g b)) as bs) :
    as.filterMap f = bs.map g := by
  induction h with
  | nil => rfl
  | cons hHead _ ih => rw [List.filterMap_cons_some hHead, ih, List.map_cons]

/-- Whether a listing tells some relations in their order, and turned round when it descends. -/
def ListsInOrder {α : Type} (answer : Options → Except Fault (List α)) (tells : α → Relation)
    (relations : List Relation) : Prop :=
  ∃ found, answer {} = .ok found ∧ found.map tells = relations ∧
    answer { order := .preferred .descending } = .ok found.reverse

theorem Finder.listsInOrder {f : Finder} {c : Catalogue} {column : Column} (h : c.Synced)
    (hNumbered : c.tables.Numbered) (hAsked : f.Asked c) (hDeclared : f.declared = some column)
    {tells : f.Record → Relation} {relations : List Relation}
    (hTells : ∀ found, f.answer c none {} = .ok found → found.map tells = relations) :
    ListsInOrder (f.answer c none) tells relations := by
  obtain ⟨_, items, view, read, hPresents⟩ := exists_presents h hAsked
  obtain ⟨found, hAnswer⟩ := hPresents.exists_answer {} (compiles_natural f .ascending)
  exact ⟨found, hAnswer, hTells found hAnswer, answer_reversed h hNumbered hAsked hDeclared hAnswer⟩

namespace Catalogue

variable {c : Catalogue} {log : List Relation} {resource : String} {r : Resource}

theorem Synced.uuidCell_eq (h : c.Synced) (hGet : c.getResource resource = .ok r) :
    uuidCell resource = .text r.uuid := by
  rw [uuidCell, h.uuid_of_getResource hGet]

theorem relatedObjects_inOrder (h : c.Synced) (hNumbered : c.tables.Numbered)
    (hKeep : c.tables.Keep log) (hGet : c.getResource resource = .ok r) :
    ListsInOrder (c.relatedObjects resource none) (fun o => .object o.resourceUuid o.id)
      (Relation.of r.uuid .objectRelation log) := by
  refine Finder.listsInOrder (f := .relatedObjects resource) h hNumbered ⟨r, hGet⟩ rfl
    fun found hAnswer => ?_
  have hListed := relatedObjects_listed h hNumbered ⟨r, hGet⟩ hAnswer
  rw [h.uuidCell_eq hGet] at hListed
  rw [← hKeep.relations_of h.sound .objectRelation r.uuid]
  refine (filterMap_of_forall₂ (((List.forall₂_and_left _ _).2
    ⟨fun _ hRow => hRow, hListed⟩).imp ?_)).symm
  rintro row o ⟨hRow, hRead⟩
  have hFits := h.sound.fits .objectRelation row (List.mem_filter.1 hRow).1
  exact Row.relation?_of_holds hFits ((readRow_eq_ok_iff hFits).1 hRead).1

/-- What is listed through links tells the relations that the links hold. -/
private theorem tells_of_linked {α : Type} (h : c.Synced) (hKeep : c.tables.Keep log)
    {link target : Kind} {reference uuid : String}
    (hReference : ⟨reference, target⟩ ∈ link.references) {reads : Row × Row → α → Prop}
    {found : List α} {tells : α → Relation}
    (hListed : List.Forall₂ reads
      (Summary.linked c.tables link target reference (.text uuid)) found)
    (hTells : ∀ x ∈ c.tables.rows link, ∀ y ∈ c.tables.rows target, ∀ a, reads (x, y) a →
      x.cell link "resource_uuid" = .text uuid → x.cell link reference = y.cell target "uuid" →
      x.relation? link = some (tells a)) :
    found.map tells = Relation.of uuid link log := by
  rw [← hKeep.relations_of h.sound link uuid, ← h.sound.linked_fst hReference,
    List.filterMap_map]
  refine (filterMap_of_forall₂ (((List.forall₂_and_left _ _).2
    ⟨fun _ hPair => hPair, hListed⟩).imp ?_)).symm
  rintro pair a ⟨hPair, hReads⟩
  obtain ⟨x, hx, hEnd⟩ := List.mem_flatMap.1 hPair
  obtain ⟨y, hy, rfl⟩ := List.mem_map.1 hEnd
  obtain ⟨hLink, hOwner⟩ := List.mem_filter.1 hx
  obtain ⟨hTarget, hSame⟩ := List.mem_filter.1 hy
  obtain ⟨s, hs, -⟩ := (h.sound.fits link x hLink).reference_text hReference
  dsimp only at hs
  rw [hs, Cell.same_text_iff] at hSame
  exact hTells x hLink y hTarget a hReads (Cell.same_text_iff.1 hOwner) (hs.trans hSame.symm)

theorem relatedPersons_inOrder (h : c.Synced) (hNumbered : c.tables.Numbered)
    (hKeep : c.tables.Keep log) (hGet : c.getResource resource = .ok r) :
    ListsInOrder (c.relatedPersons resource none)
      (fun p => .person r.uuid p.person.uuid p.relation)
      (Relation.of r.uuid .personRelation log) := by
  refine Finder.listsInOrder (f := .relatedPersons resource) h hNumbered ⟨r, hGet⟩ rfl
    fun found hAnswer => ?_
  have hListed := relatedPersons_listed h hNumbered ⟨r, hGet⟩ hAnswer
  rw [h.uuidCell_eq hGet] at hListed
  refine tells_of_linked h hKeep (by decide) hListed ?_
  rintro x hx y hy p ⟨hPerson, link, hLink, hRole⟩ hOwner hEnd
  have hFits := h.sound.fits .personRelation x hx
  have hRelation := Row.relation?_of_holds hFits ((readRow_eq_ok_iff hFits).1 hLink).1
  obtain ⟨hResource, hNamed, -⟩ := Row.shows_of_relation? hFits hRelation
  have hKey : y.cell .person "uuid" = .text p.person.uuid :=
    key_of_readRow_person (h.sound.fits .person y hy) hPerson
  rw [hResource, Cell.text.injEq] at hOwner
  rw [hKey, hNamed, Cell.text.injEq] at hEnd
  rw [hRelation, Relation.ofRecord?, hOwner, hEnd, hRole]

theorem relatedGroups_inOrder (h : c.Synced) (hNumbered : c.tables.Numbered)
    (hKeep : c.tables.Keep log) (hGet : c.getResource resource = .ok r) :
    ListsInOrder (c.relatedGroups resource none)
      (fun g => .group r.uuid g.group.uuid g.groupIndex g.relationTag)
      (Relation.of r.uuid .groupRelation log) := by
  refine Finder.listsInOrder (f := .relatedGroups resource) h hNumbered ⟨r, hGet⟩ rfl
    fun found hAnswer => ?_
  have hListed := relatedGroups_listed h hNumbered ⟨r, hGet⟩ hAnswer
  rw [h.uuidCell_eq hGet] at hListed
  refine tells_of_linked h hKeep (by decide) hListed ?_
  rintro x hx y hy g ⟨hGroup, link, hLink, hIndex, hTag⟩ hOwner hEnd
  have hFits := h.sound.fits .groupRelation x hx
  have hRelation := Row.relation?_of_holds hFits ((readRow_eq_ok_iff hFits).1 hLink).1
  obtain ⟨hResource, hNamed, -⟩ := Row.shows_of_relation? hFits hRelation
  have hKey : y.cell .group "uuid" = .text g.group.uuid :=
    key_of_readRow_group (h.sound.fits .group y hy) hGroup
  rw [hResource, Cell.text.injEq] at hOwner
  rw [hKey, hNamed, Cell.text.injEq] at hEnd
  rw [hRelation, Relation.ofRecord?, hOwner, hEnd, hIndex, hTag]

/-- **Relations are listed in the order in which they were added.** Every catalogue that can come
about has a history, and whatever the history is, the persons, the groups and the objects of a
resource are the relations that were added to it and were not removed since, neither by
themselves nor with one of their ends, nor undone by a rollback. Without an order they come as
they were added, one after the other, and in descending order the other way round. -/
theorem Reachable.relations_in_order_added (h : Reachable c) :
    (∃ log marks, Recorded c log marks) ∧
      ∀ log marks, Recorded c log marks → ∀ resource r, c.getResource resource = .ok r →
        ListsInOrder (c.relatedPersons resource none)
            (fun p => .person r.uuid p.person.uuid p.relation)
            (Relation.of r.uuid .personRelation log) ∧
          ListsInOrder (c.relatedGroups resource none)
            (fun g => .group r.uuid g.group.uuid g.groupIndex g.relationTag)
            (Relation.of r.uuid .groupRelation log) ∧
          ListsInOrder (c.relatedObjects resource none)
            (fun o => .object o.resourceUuid o.id)
            (Relation.of r.uuid .objectRelation log) := by
  refine ⟨h.exists_recorded, fun log marks hRecorded resource r hGet => ?_⟩
  have hSynced := h.inv.synced
  have hKeep : c.tables.Keep log := (List.forall₂_cons.1 hRecorded.remembers).1
  exact ⟨relatedPersons_inOrder hSynced h.numbered hKeep hGet,
    relatedGroups_inOrder hSynced h.numbered hKeep hGet,
    relatedObjects_inOrder hSynced h.numbered hKeep hGet⟩

/-- A catalogue with a resource that a person wrote and edited. -/
def sampleCast : Catalogue :=
  [Step.addResource sampleUuid sampleResource, .addPerson sampleUuid ⟨"p", "King", "King"⟩,
    .addPersonRelation "f" "p" .author, .addPersonRelation "f" "p" .editor].foldl
      (fun c s => (s.run c).2) sampleNew

/-- The person is removed as the author and added again. In between they are added as the
translator, which is rolled back. -/
def sampleRecast : Catalogue :=
  ((Step.addPersonRelation "f" "p" .author).run
    ((Step.addPersonRelation "f" "p" .translator).run
      ((Step.removePersonRelations "f" none (some .author)).run sampleCast).2.begin).2.rollback.2).2

theorem recorded_sampleRecast :
    Recorded sampleRecast [.person "f" "p" .editor, .person "f" "p" .author] [] := by
  have hCreate : create sampleUuid = .ok sampleNew := by decide +kernel
  have hCast := ((((Recorded.created hCreate).step
    (s := .addResource sampleUuid sampleResource) rfl (by decide +kernel)).step
    (s := .addPerson sampleUuid ⟨"p", "King", "King"⟩) rfl (by decide +kernel)).step
    (s := .addPersonRelation "f" "p" .author) rfl rfl).step
    (s := .addPersonRelation "f" "p" .editor) rfl rfl
  have hRecast := ((hCast.step
    (s := .removePersonRelations "f" none (some .author)) rfl rfl).begin.step
    (s := .addPersonRelation "f" "p" .translator) rfl rfl).rollback.step
    (s := .addPersonRelation "f" "p" .author) rfl rfl
  have hTold : ∀ {c log marks told}, Recorded c log marks → log = told → Recorded c told marks :=
    fun hRecorded hSame => hSame ▸ hRecorded
  exact hTold hRecast (by decide +kernel)

/-- The author comes last, because that is what was added last. -/
theorem relations_in_order_added_sample :
    Reachable sampleRecast ∧
      Recorded sampleRecast [.person "f" "p" .editor, .person "f" "p" .author] [] ∧
      sampleRecast.getResource "F" = .ok sampleResource ∧
      ListsInOrder (sampleRecast.relatedPersons "F" none)
        (fun p => .person "f" p.person.uuid p.relation)
        [.person "f" "p" .editor, .person "f" "p" .author] := by
  have hGet : sampleRecast.getResource "F" = .ok sampleResource := by decide +kernel
  have hListed := (Reachable.relations_in_order_added recorded_sampleRecast.reachable).2 _ _
    recorded_sampleRecast "F" sampleResource hGet
  exact ⟨recorded_sampleRecast.reachable, recorded_sampleRecast, hGet, hListed.1⟩

end Catalogue

end Shelfmark
