import Shelfmark.Proofs.Catalogue.Failure
import Shelfmark.Proofs.Catalogue.Numbering
import Shelfmark.Proofs.Record.Contents

/-!
# Checks before a write and rules behind it

The rules of group types and the uniqueness of relations are tested twice. The catalogue
checks before it writes, by counting and looking up, and the tables test every row that is
written, whoever writes it. The two are worded differently: the tables ask the flags of the
row of a type where the checks ask the type in memory, and a group that keeps its type is
no move to the tables.

They agree nevertheless. What the checks let pass the tables accept, and what the tables
would refuse never gets to them: `Reachable.checks_agree`. A new relation is settled by
comparing the tests one by one, `exclusiveTypeHeld?_link` and `hasGroupLink_iff`, and a move
of a group by `refusedMove?_eq_none_iff`.
-/

namespace Shelfmark

/-! ## Flags of types -/

namespace Tables

private theorem Sound.typeHas_eq {t : Tables} (h : t.Sound) {type : GroupType}
    (hType : type ∈ t.types) {column : String} (flag : GroupType → Bool) {value : Int64}
    (hCell : ∀ row : Row, row.Fits .groupType →
      row.cell .groupType column = Cell.ofBool (flag row.toGroupType)) :
    t.typeHas (.text type.uuid) column value = decide ((if flag type then 1 else 0) = value) := by
  rw [Bool.eq_iff_iff, decide_eq_true_iff, typeHas, List.any_eq_true]
  constructor
  · rintro ⟨row, hRow, hSame⟩
    obtain ⟨hIn, hUuid⟩ := List.mem_filter.1 hRow
    have hText := (h.type_row hIn).cell_groupType.1.symm.trans (Cell.same_text_iff.1 hUuid)
    rw [hCell row (h.type_row hIn), Cell.ofBool, Cell.integer_same_iff,
      h.type_eq (mem_types.2 ⟨row, hIn, rfl⟩) hType (Cell.text.inj hText)] at hSame
    exact hSame
  · intro hValue
    obtain ⟨row, hRow, rfl⟩ := mem_types.1 hType
    have hUuid := (h.type_row hRow).cell_groupType.1
    refine ⟨row, List.mem_filter.2 ⟨hRow, Cell.same_text_iff.2 hUuid⟩, ?_⟩
    rw [hCell row (h.type_row hRow), Cell.ofBool, Cell.integer_same_iff]
    exact hValue

/-- The table and the record of a type agree in whether it is exclusive. -/
theorem Sound.typeHas_isExclusive {t : Tables} (h : t.Sound) {type : GroupType}
    (hType : type ∈ t.types) :
    t.typeHas (.text type.uuid) "is_exclusive" 1 = type.exclusive := by
  rw [h.typeHas_eq hType GroupType.exclusive fun row hRow => hRow.cell_groupType.2.1]
  cases type.exclusive <;> decide

/-- The table and the record of a type agree in whether it is ordered. -/
theorem Sound.typeHas_isOrdered {t : Tables} (h : t.Sound) {type : GroupType}
    (hType : type ∈ t.types) :
    t.typeHas (.text type.uuid) "is_ordered" 0 = !type.ordered := by
  rw [h.typeHas_eq hType GroupType.ordered fun row hRow => hRow.cell_groupType.2.2]
  cases type.ordered <;> decide

end Tables

namespace Catalogue

/-! ## A new relation -/

/-- The cells that a relation of a resource to a group is stored as. -/
def linkCells (link : GroupLink) : List Cell :=
  [.text link.resourceUuid, .text link.groupUuid, .integer (link.groupIndex.getD (-1)),
    .text link.relationTag]

/-- Whether the trigger or the unique index of relations to groups refuses a row. -/
def LinkRefused (t : Tables) (row : Row) : Prop :=
  (∃ fault, t.exclusiveTypeHeld? row = some fault) ∨
    ∃ columns ∈ Kind.groupRelation.uniqueColumns, ∃ other ∈ t.groupLinks,
      Kind.groupRelation.agree columns other row = true

/-- Whether both ends of a relation are there, and the type of the group is known. -/
structure Ends (c : Catalogue) (g : Group) (link : GroupLink) : Prop where
  resource : ∃ row ∈ c.tables.resources, row.cell .resource "uuid" = .text link.resourceUuid
  group : ∃ row ∈ c.tables.groups, row.cell .group "uuid" = .text link.groupUuid ∧
    row.cell .group "type_uuid" = .text g.groupType.uuid
  type : g.groupType ∈ c.tables.types

theorem ends_of_get {c : Catalogue} (h : c.Synced) {resource group : String} {r : Resource}
    {g : Group} (hResource : c.getResource resource = .ok r) (hGroup : c.getGroup group = .ok g)
    (index : Option Int64) (tag : String) : c.Ends g ⟨r.uuid, g.uuid, index, tag⟩ := by
  obtain ⟨row, hRow, type, hUuid, hType, hLookup⟩ := getGroup_eq_ok h.sound hGroup
  obtain ⟨hIn, hIs⟩ := h.find?_eq_some_iff.1 hLookup
  refine ⟨?_, ⟨row, hRow, hUuid, hIs ▸ hType⟩, hIn⟩
  unfold getResource fetch at hResource
  split at hResource
  · cases hResource
  · rename_i found hFind
    have hFound : found ∈ c.tables.resources := mem_of_find? hFind
    exact ⟨found, hFound, key_of_readRow_resource (h.sound.fits .resource found hFound) hResource⟩

section Links

variable {c : Catalogue} {g : Group} {link : GroupLink}

/-- The trigger asks what the check of exclusive types asks. -/
theorem exclusiveTypeHeld?_link (h : c.Synced) (hEnds : c.Ends g link) (id : Int64) :
    (∃ fault, c.tables.exclusiveTypeHeld? ⟨id, linkCells link⟩ = some fault) ↔
      (g.groupType.exclusive &&
        !(c.tables.linksToType (.text link.resourceUuid) (.text g.groupType.uuid)).isEmpty) =
          true := by
  obtain ⟨row, hRow, hUuid, hType⟩ := hEnds.group
  have hTypeOf := h.sound.typeOf?_eq hRow
  rw [hUuid, hType] at hTypeOf
  have hEnd : (Row.mk id (linkCells link)).cell .groupRelation "group_uuid" =
      .text link.groupUuid := rfl
  have hStart : (Row.mk id (linkCells link)).cell .groupRelation "resource_uuid" =
      .text link.resourceUuid := rfl
  unfold Tables.exclusiveTypeHeld?
  rw [hEnd, hTypeOf, hStart]
  dsimp only
  rw [h.sound.typeHas_isExclusive hEnds.type]
  split
  · rename_i hHeld
    simp [hHeld]
  · rename_i hFree
    simp [hFree]

/-- The unique index compares the columns that the look-up compares. -/
theorem hasGroupLink_iff (id : Int64) :
    c.hasGroupLink link = true ↔
      ∃ columns ∈ Kind.groupRelation.uniqueColumns, ∃ other ∈ c.tables.groupLinks,
        Kind.groupRelation.agree columns other ⟨id, linkCells link⟩ = true := by
  have hColumns : Kind.groupRelation.uniqueColumns =
      [["resource_uuid", "group_uuid", "group_index", "relation_tag"]] := rfl
  have hAgree : ∀ other : Row, Kind.groupRelation.agree
      ["resource_uuid", "group_uuid", "group_index", "relation_tag"] other ⟨id, linkCells link⟩ =
        (other.fits .groupRelation "resource_uuid" (some link.resourceUuid) &&
          (other.fits .groupRelation "group_uuid" (some link.groupUuid) &&
            ((other.cell .groupRelation "group_index").same
              (.integer (link.groupIndex.getD (-1))) &&
                (other.fits .groupRelation "relation_tag" (some link.relationTag) && true)))) :=
    fun _ => rfl
  simp [hasGroupLink, hColumns, hAgree, and_assoc]

/-- What passes the checks of a relation. -/
private theorem refusedGroupLink?_eq_none (hNone : c.refusedGroupLink? g link = none) :
    (∃ cell, GroupLinkField.groupIndex.toCell (.ofOption .integer link.groupIndex) = .ok cell) ∧
      (g.groupType.exclusive &&
        !(c.tables.linksToType (.text link.resourceUuid) (.text g.groupType.uuid)).isEmpty) =
          false ∧
      c.hasGroupLink link = false := by
  unfold refusedGroupLink? at hNone
  dsimp only at hNone
  split at hNone
  · cases hNone
  · split at hNone
    · cases hNone
    · rename_i cell hCell
      split at hNone
      · cases hNone
      · rename_i hFree
        split at hNone
        · cases hNone
        · rename_i hNew
          exact ⟨⟨cell, hCell⟩, by simpa using hFree, by simpa using hNew⟩

/-- The checks refuse what the trigger or the unique index would refuse. -/
theorem exists_refusedGroupLink? (h : c.Synced) (hEnds : c.Ends g link) {id : Int64}
    (hRefused : LinkRefused c.tables ⟨id, linkCells link⟩) :
    ∃ fault, c.refusedGroupLink? g link = some fault := by
  cases hChecks : c.refusedGroupLink? g link with
  | some fault => exact ⟨fault, rfl⟩
  | none =>
      obtain ⟨_, hFree, hNew⟩ := refusedGroupLink?_eq_none hChecks
      rcases hRefused with hHeld | hClash
      · rw [exclusiveTypeHeld?_link h hEnds, hFree] at hHeld
        cases hHeld
      · rw [← hasGroupLink_iff, hNew] at hClash
        cases hClash

/-- What passes the checks is stored as its cells. -/
private theorem insertValues_link (h : c.Synced) (hEnds : c.Ends g link)
    (hIndex : ∃ cell,
      GroupLinkField.groupIndex.toCell (.ofOption .integer link.groupIndex) = .ok cell) :
    ∃ stored, insertValues link = .ok stored ∧ stored.map Prod.snd = linkCells link := by
  have hNormal : ∀ (kind : Kind) {row : Row} {s : String}, kind.keyColumn = "uuid" →
      row ∈ c.tables.rows kind → row.cell kind "uuid" = .text s → normalize s = s ∧ s ≠ "" := by
    intro kind row s hKey hRow hText
    obtain ⟨u, hu, hIs⟩ := (h.sound.fits kind row hRow).key_text hKey
    rw [Cell.text.inj (hText.symm.trans hu)]
    exact hIs
  obtain ⟨resourceRow, hResource, hResourceUuid⟩ := hEnds.resource
  obtain ⟨groupRow, hGroup, hGroupUuid, _⟩ := hEnds.group
  obtain ⟨hResourceNormal, hResourceSome⟩ := hNormal .resource rfl hResource hResourceUuid
  obtain ⟨hGroupNormal, hGroupSome⟩ := hNormal .group rfl hGroup hGroupUuid
  have hValues : givenValues link = [(GroupLinkField.resource, .text link.resourceUuid),
      (GroupLinkField.group, .text link.groupUuid),
      (GroupLinkField.groupIndex, .ofOption .integer link.groupIndex),
      (GroupLinkField.relationTag, .text link.relationTag)] := rfl
  have hStorable : ∀ a ∈ givenValues link, ∃ cell, a.1.toCell a.2 = .ok cell := by
    intro a ha
    rw [hValues] at ha
    simp only [List.mem_cons, List.not_mem_nil, or_false] at ha
    rcases ha with rfl | rfl | rfl | rfl
    · exact ⟨_, (Field.toCell_foreign_eq_ok_iff rfl).2 ⟨by rwa [hResourceNormal], rfl⟩⟩
    · exact ⟨_, (Field.toCell_foreign_eq_ok_iff rfl).2 ⟨by rwa [hGroupNormal], rfl⟩⟩
    · exact hIndex
    · exact ⟨_, rfl⟩
  obtain ⟨stored, hStored⟩ := exists_storedValues .groupRelation hStorable
  refine ⟨stored, hStored, ?_⟩
  rw [cells_of_storedAs_link (storedAs_of_storedValues hStored), hResourceNormal, hGroupNormal]
  rfl

/-- A row that neither the trigger nor the unique index refuses is admitted. -/
private theorem inserted_link (hEnds : c.Ends g link) {id : Int64}
    (hFits : (Row.mk id (linkCells link)).Fits .groupRelation)
    (hNext : c.tables.nextId? .groupRelation = some id)
    (hAllowed : ¬ LinkRefused c.tables ⟨id, linkCells link⟩) :
    c.tables.Inserted .groupRelation ⟨id, linkCells link⟩
      (c.tables.append .groupRelation ⟨id, linkCells link⟩) := by
  refine ⟨hNext, rfl, ?_, fun _ => ?_⟩
  · refine
      { complete := fun f hf hNull => (hFits.stores hf).isNull hNull
        rated := by simp
        fresh := fun other hOther hEq => ?_
        unique := fun columns hColumns other hOther => ?_
        leads := fun r hr => ?_ }
    · have hAbove := (Tables.lt_of_nextId? hNext).2 other hOther
      rw [hEq] at hAbove
      exact absurd hAbove (lt_irrefl _)
    · rw [← Bool.not_eq_true]
      exact fun hAgree => hAllowed (Or.inr ⟨columns, hColumns, other, hOther, hAgree⟩)
    · have hEither : r = ⟨"resource_uuid", .resource⟩ ∨ r = ⟨"group_uuid", .group⟩ := by
        simpa [Kind.references] using hr
      rcases hEither with rfl | rfl
      · exact Tables.hasRow_text_iff.2 hEnds.resource
      · obtain ⟨row, hRow, hUuid, _⟩ := hEnds.group
        exact Tables.hasRow_text_iff.2 ⟨row, hRow, hUuid⟩
  · rw [Option.eq_none_iff_forall_ne_some]
    exact fun fault hHeld => hAllowed (Or.inl ⟨fault, hHeld⟩)

/-- What passes the checks is inserted, unless identifiers have run out. -/
private theorem insertRecord_link (h : c.Synced) (hEnds : c.Ends g link)
    (hNone : c.refusedGroupLink? g link = none) :
    c.insertRecord link =
      match c.tables.nextId? .groupRelation with
      | none => .error (.storage .full)
      | some id =>
          .ok (id, { c with tables := c.tables.append .groupRelation ⟨id, linkCells link⟩ }) := by
  obtain ⟨stored, hStored, hCells⟩ :=
    insertValues_link h hEnds (refusedGroupLink?_eq_none hNone).1
  have hFits : List.Forall₂ Field.Stores Kind.groupRelation.givenFields (linkCells link) := by
    rw [← hCells]
    exact (storedAs_of_storedValues hStored).forall₂ (Listed.given link)
  have hKind : Storable.kind GroupLink = .groupRelation := rfl
  rw [insertRecord, hStored]
  dsimp only
  rw [hCells, hKind]
  cases hNext : c.tables.nextId? .groupRelation with
  | none => simp only [Tables.insert, hNext]
  | some id =>
      have hAllowed : ¬ LinkRefused c.tables ⟨id, linkCells link⟩ := fun hRefused => by
        obtain ⟨fault, hFault⟩ := exists_refusedGroupLink? h hEnds hRefused
        rw [hNone] at hFault
        cases hFault
      rw [Tables.insert_of_inserted hFits (inserted_link hEnds hFits hNext hAllowed)]

/-- The references of a relation whose ends are there lead somewhere. -/
private theorem dangling?_link (hEnds : c.Ends g link) (id : Int64) :
    c.tables.dangling? .groupRelation ⟨id, linkCells link⟩ = none := by
  obtain ⟨row, hRow, hUuid, _⟩ := hEnds.group
  have hResource : c.tables.hasRow .resource "uuid" (.text link.resourceUuid) = true :=
    Tables.hasRow_text_iff.2 hEnds.resource
  have hGroup : c.tables.hasRow .group "uuid" (.text link.groupUuid) = true :=
    Tables.hasRow_text_iff.2 ⟨row, hRow, hUuid⟩
  refine if_pos ?_
  show (c.tables.hasRow .resource "uuid" (.text link.resourceUuid) &&
    (c.tables.hasRow .group "uuid" (.text link.groupUuid) && true)) = true
  rw [hResource, hGroup]
  rfl

/-- Whether the checks of a new relation agree with the rules of the tables about the row
that it is stored as. -/
structure LinkChecked (c : Catalogue) (resource group : String) (index : Option Int64)
    (tag : Option String) (g : Group) (link : GroupLink) : Prop where
  /-- What passes the checks meets no rule and is inserted, unless identifiers have run
  out. -/
  accepted : c.refusedGroupLink? g link = none →
    (∀ id, ¬ LinkRefused c.tables ⟨id, linkCells link⟩) ∧
      (∀ id, c.tables.dangling? .groupRelation ⟨id, linkCells link⟩ = none) ∧
      c.addGroupRelation resource group index tag =
        match c.tables.nextId? .groupRelation with
        | none => (.error (.storage .full), c)
        | some id =>
            (.ok (), { c with tables := c.tables.append .groupRelation ⟨id, linkCells link⟩ })
  /-- What the trigger or the unique index would refuse is refused before it is inserted. -/
  refused : (∃ id, LinkRefused c.tables ⟨id, linkCells link⟩) →
    ∃ fault, c.refusedGroupLink? g link = some fault ∧
      c.addGroupRelation resource group index tag = (.error fault, c)

/-- The checks of a new relation agree with the rules of the tables. -/
private theorem linkChecked (h : c.Synced) {resource group : String} {r : Resource}
    (hResource : c.getResource resource = .ok r) (hGroup : c.getGroup group = .ok g)
    (index : Option Int64) (tag : Option String) :
    c.LinkChecked resource group index tag g ⟨r.uuid, g.uuid, index, tag.getD ""⟩ := by
  have hEnds := ends_of_get h hResource hGroup index (tag.getD "")
  have hOutcome : c.addGroupRelation resource group index tag =
      (c.refusedGroupLink? g ⟨r.uuid, g.uuid, index, tag.getD ""⟩).elim
        (c.outcome ((c.insertRecord (⟨r.uuid, g.uuid, index, tag.getD ""⟩ : GroupLink)).map
          fun p => ((), p.2)))
        fun fault => (.error fault, c) := by
    unfold addGroupRelation
    rw [hResource]
    dsimp only
    rw [hGroup]
    dsimp only
    cases c.refusedGroupLink? g ⟨r.uuid, g.uuid, index, tag.getD ""⟩ <;>
      simp only [Option.elim, outcome]
  generalize (⟨r.uuid, g.uuid, index, tag.getD ""⟩ : GroupLink) = link at hEnds hOutcome ⊢
  constructor
  · intro hNone
    refine ⟨fun id hRefused => ?_, dangling?_link hEnds, ?_⟩
    · obtain ⟨fault, hFault⟩ := exists_refusedGroupLink? h hEnds hRefused
      rw [hNone] at hFault
      cases hFault
    · rw [hOutcome, hNone, Option.elim_none, insertRecord_link h hEnds hNone]
      cases c.tables.nextId? .groupRelation <;> rfl
  · rintro ⟨id, hRefused⟩
    obtain ⟨fault, hFault⟩ := exists_refusedGroupLink? h hEnds hRefused
    exact ⟨fault, hFault, by rw [hOutcome, hFault, Option.elim_some]⟩

end Links

/-! ## A group that moves to another type -/

section Moves

variable {c : Catalogue}

private theorem distinctCells_length_pos {cells : List Cell} :
    0 < (distinctCells cells).length ↔ cells ≠ [] := by
  constructor
  · rintro hLength rfl
    cases hLength
  · intro hSome
    induction cells with
    | nil => exact absurd rfl hSome
    | cons cell rest ih =>
        have hStep : distinctCells (cell :: rest) =
            if (distinctCells rest).any cell.same then distinctCells rest
            else cell :: distinctCells rest := rfl
        rw [hStep]
        split
        · rename_i hAny
          refine ih ?_
          rintro rfl
          cases hAny
        · exact Nat.succ_pos _

/-- The check counts resources where the trigger asks for a relation. -/
private theorem wouldCrowdCount_pos (group type : Cell) :
    0 < c.wouldCrowdCount group type ↔
      (c.tables.linksToGroup group).any (c.tables.wouldCrowd group type) = true := by
  unfold wouldCrowdCount
  rw [distinctCells_length_pos, List.any_eq_true, Ne, List.map_eq_nil_iff,
    List.filter_eq_nil_iff]
  simp

/-- The check of a move refuses just what the rules of the new type refuse. -/
theorem refusedMove?_eq_none_iff (h : c.Synced) {group : String} {target : GroupType}
    (hType : target ∈ c.tables.types) :
    c.refusedMove? group target = none ↔
      c.tables.relationsAgainstType? (.text group) (.text target.uuid) = none := by
  have hCrowded := wouldCrowdCount_pos (c := c) (.text group) (.text target.uuid)
  have hIndexed : 0 < c.groupIndexCount (.text group) ↔
      (c.tables.linksToGroup (.text group)).any Tables.isIndexed = true := by
    rw [groupIndexCount, List.countP_pos_iff, List.any_eq_true]
  unfold refusedMove? Tables.relationsAgainstType?
  dsimp only
  rw [h.sound.typeHas_isExclusive hType, h.sound.typeHas_isOrdered hType]
  simp only [hCrowded, hIndexed, Bool.decide_eq_true]
  cases target.exclusive && (c.tables.linksToGroup (.text group)).any
      (c.tables.wouldCrowd (.text group) (.text target.uuid)) <;>
    cases !target.ordered && (c.tables.linksToGroup (.text group)).any Tables.isIndexed <;>
    simp

private theorem mem_assign {α : Type} {f : Field} {value : α → FieldValue} {change : Option α}
    {a : Field × FieldValue} :
    a ∈ assign f value change ↔ ∃ v, change = some v ∧ a = (f, value v) := by
  cases change <;> simp [assign]

/-- What a change of a group sets. -/
private theorem mem_groupPatch {patch : GroupPatch} {a : Field × FieldValue} :
    a ∈ patch.assignments ↔
      (∃ s, patch.title = some s ∧ a = (GroupField.title, .text s)) ∨
        (∃ s, patch.titleSort = some s ∧ a = (GroupField.titleSort, .text s)) ∨
          ∃ s, patch.groupType = some s ∧ a = (GroupField.groupType, .text s) := by
  rw [GroupPatch.assignments, List.mem_append, List.mem_append, mem_assign, mem_assign, mem_assign,
    or_assoc]

/-- What passes the check of a change: a type that the group is to have is there, and its
rules allow the move. -/
private theorem refusedGroupChange_eq_ok {group type : String} {patch : GroupPatch}
    (hPass : c.refusedGroupChange group patch = .ok ()) (hPatch : patch.groupType = some type) :
    ∃ target, c.getGroupType type = .ok target ∧ c.refusedMove? group target = none := by
  unfold refusedGroupChange at hPass
  rw [hPatch] at hPass
  dsimp only at hPass
  split at hPass
  · cases hPass
  · rename_i target hGet
    split at hPass
    · cases hPass
    · rename_i hMove
      exact ⟨target, hGet, hMove⟩

/-- A type that is there has an identifier. -/
private theorem normalize_ne_of_getGroupType (h : c.Synced) {uuid : String} {g : GroupType}
    (hGet : c.getGroupType uuid = .ok g) : normalize uuid ≠ "" := by
  obtain ⟨hType, hUuid⟩ := getGroupType_eq_ok h hGet
  obtain ⟨row, hRow, rfl⟩ := Tables.mem_types.1 hType
  obtain ⟨s, hs, _, hSome⟩ := (h.sound.fits .groupType row hRow).key_text rfl
  have hText := (h.sound.type_row hRow).cell_groupType.1.symm.trans hs
  rw [← hUuid, Cell.text.inj hText]
  exact hSome

/-- What passes the check of a change can be stored. -/
private theorem exists_stored_group (h : c.Synced) {group : String} {patch : GroupPatch}
    (hPass : c.refusedGroupChange group patch = .ok ()) :
    ∃ stored, storedValues .group patch.assignments = .ok stored := by
  refine exists_storedValues .group fun a ha => ?_
  rcases mem_groupPatch.1 ha with ⟨s, _, rfl⟩ | ⟨s, _, rfl⟩ | ⟨type, hPatch, rfl⟩
  · exact ⟨_, rfl⟩
  · exact ⟨_, rfl⟩
  · obtain ⟨target, hGet, _⟩ := refusedGroupChange_eq_ok hPass hPatch
    exact ⟨_, (Field.toCell_foreign_eq_ok_iff rfl).2 ⟨normalize_ne_of_getGroupType h hGet, rfl⟩⟩

section Change

variable {group : String} {patch : GroupPatch} {old : Row} {stored : List (Field × Cell)}

/-- The type of a changed group is the one it had, or the one that is asked for. -/
private theorem type_of_changed (hFits : old.Fits .group)
    (hStored : StoredAs patch.assignments stored) :
    (old.assign .group stored).cell .group "type_uuid" =
      match patch.groupType with
      | none => old.cell .group "type_uuid"
      | some type => .text (normalize type) := by
  cases hPatch : patch.groupType with
  | none =>
      refine hStored.keeps_column (fun a ha => ?_) old
      rcases mem_groupPatch.1 ha with ⟨s, _, rfl⟩ | ⟨s, _, rfl⟩ | ⟨type, hSome, _⟩
      · show GroupField.title.column ≠ "type_uuid"
        decide
      · show GroupField.titleSort.column ≠ "type_uuid"
        decide
      · rw [hPatch] at hSome
        cases hSome
  | some type =>
      have hMem := mem_groupPatch.2 (Or.inr (Or.inr ⟨type, hPatch, rfl⟩))
      obtain ⟨cell, hCell⟩ := hStored.exists_cell _ hMem
      have hText := ((Field.toCell_foreign_eq_ok_iff (f := GroupField.groupType) rfl).1 hCell).2
      rw [hText] at hCell
      exact hStored.cell_assign (fun a ha => (patch.keepsKey a ha).1)
        (Patch.group patch).columns_nodup hFits hMem hCell

/-- The trigger looks at a group only when the type changes. -/
private theorem misplaced?_group {old new : Row} {u type : String}
    (hUuid : new.cell .group "uuid" = .text u) (hType : new.cell .group "type_uuid" = .text type) :
    c.tables.misplaced? .group old new =
      if old.cell .group "type_uuid" = .text type then none
      else c.tables.relationsAgainstType? (.text u) (.text type) := by
  unfold Tables.misplaced?
  rw [hUuid, hType]
  by_cases hSame : old.cell .group "type_uuid" = .text type
  · simp [hSame, Cell.same_text_iff.2 rfl]
  · have hOther : (old.cell .group "type_uuid").same (.text type) = false := by
      rw [← Bool.not_eq_true, Cell.same_text_iff]
      exact hSame
    simp [hSame, hOther, Cell.isNull]

/-- What passes the check of a change the trigger lets pass, and the type of the changed
group is there. -/
private theorem placed_of_refusedGroupChange (h : c.Synced) (hOld : old ∈ c.tables.groups)
    (hUuid : old.cell .group "uuid" = .text group) (hStored : StoredAs patch.assignments stored)
    (hPass : c.refusedGroupChange group patch = .ok ()) :
    c.tables.misplaced? .group old (old.assign .group stored) = none ∧
      ∃ type ∈ c.tables.types,
        (old.assign .group stored).cell .group "type_uuid" = .text type.uuid := by
  have hFits : old.Fits .group := h.sound.fits .group old hOld
  have hNewUuid : (old.assign .group stored).cell .group "uuid" = .text group :=
    (key_assign hStored patch.keepsKey).trans hUuid
  have hType := type_of_changed hFits hStored
  cases hPatch : patch.groupType with
  | none =>
      rw [hPatch] at hType
      obtain ⟨type, hIn, hText⟩ := h.sound.type_of_group hOld
      have hNewType := hType.trans hText
      refine ⟨?_, type, hIn, hNewType⟩
      rw [misplaced?_group hNewUuid hNewType, if_pos hText]
  | some uuid =>
      rw [hPatch] at hType
      obtain ⟨target, hGet, hMove⟩ := refusedGroupChange_eq_ok hPass hPatch
      obtain ⟨hIn, hIs⟩ := getGroupType_eq_ok h hGet
      dsimp only at hType
      rw [← hIs] at hType
      refine ⟨?_, target, hIn, hType⟩
      rw [misplaced?_group hNewUuid hType, (refusedMove?_eq_none_iff h hIn).1 hMove, ite_self]

/-- What passes the check of a change breaks no rule of the tables. -/
private theorem replaced_group (h : c.Synced) (hOld : old ∈ c.tables.groups)
    (hUuid : old.cell .group "uuid" = .text group) (hStored : StoredAs patch.assignments stored)
    (hPass : c.refusedGroupChange group patch = .ok ()) :
    c.tables.Replaced .group old (old.assign .group stored)
      (c.tables.withRows .group (c.tables.groups.map fun r =>
        if r.id = old.id then old.assign .group stored else r)) := by
  obtain ⟨hPlaced, type, hType, hNewType⟩ :=
    placed_of_refusedGroupChange h hOld hUuid hStored hPass
  have hFits : (old.assign .group stored).Fits .group :=
    (h.sound.fits .group old hOld).assign (hStored.settable patch.keepsKey)
  have hKey : (old.assign .group stored).cell .group "uuid" = old.cell .group "uuid" :=
    key_assign hStored patch.keepsKey
  refine ⟨rfl, hPlaced, ?_, ?_⟩
  · refine
      { complete := fun f hf hNull => (hFits.stores hf).isNull hNull
        rated := by simp
        fresh := fun other hOther => ?_
        unique := fun columns hColumns other hOther => ?_
        leads := fun r hr => ?_ }
    · rw [Row.assign_id]
      simpa using (List.mem_filter.1 hOther).2
    · obtain ⟨hIn, hElse⟩ := List.mem_filter.1 hOther
      obtain rfl : columns = ["uuid"] := List.mem_singleton.1 hColumns
      rw [← Bool.not_eq_true, Tables.agree_uuid_iff rfl hFits, hKey]
      intro hSame
      rw [h.sound.group_unique hIn hOld hSame] at hElse
      simp at hElse
    · obtain rfl : r = ⟨"type_uuid", .groupType⟩ := List.mem_singleton.1 hr
      obtain ⟨row, hRow, rfl⟩ := Tables.mem_types.1 hType
      dsimp only
      rw [hNewType]
      exact Tables.hasRow_text_iff.2 ⟨row, hRow, (h.sound.type_row hRow).cell_groupType.1⟩
  · unfold Tables.orphans?
    rw [hKey, hUuid]
    simp [Cell.same_text_iff.2 rfl]

end Change

/-- Whether the check of a change of a group agrees with the trigger about the group as it
is and as it would be. -/
structure MoveChecked (c : Catalogue) (uuid : String) (patch : GroupPatch) (old : Row) :
    Prop where
  /-- What passes the check the trigger lets pass, and the group is changed. -/
  accepted : c.refusedGroupChange (normalize uuid) patch = .ok () →
    ∃ stored new, storedValues .group patch.assignments = .ok stored ∧
      Tables.assignCells .group old stored = .ok new ∧
      c.tables.misplaced? .group old new = none ∧
      ∃ g d, c.updateGroup uuid patch = (.ok g, d)
  /-- What the trigger would refuse is refused before it is written. -/
  refused : ∀ stored new, storedValues .group patch.assignments = .ok stored →
    Tables.assignCells .group old stored = .ok new →
    (∃ fault, c.tables.misplaced? .group old new = some fault) →
    ∃ fault, c.refusedGroupChange (normalize uuid) patch = .error fault ∧
      c.updateGroup uuid patch = (.error fault, c)

/-- A group that is there can be read. -/
private theorem exists_getGroup (h : c.Synced) {uuid : String} {old : Row}
    (hFind : c.tables.find? .group (uuidCell uuid) = some old) : ∃ g, c.getGroup uuid = .ok g := by
  obtain ⟨g, hRead⟩ := readable_group h (mem_of_find? hFind)
  refine ⟨g, ?_⟩
  unfold getGroup fetch
  rw [show Storable.kind Group = .group from rfl, hFind]
  exact hRead

private theorem accepted_change (h : c.Synced) {uuid : String} {patch : GroupPatch} {old : Row}
    (hFind : c.tables.find? .group (uuidCell uuid) = some old)
    (hPass : c.refusedGroupChange (normalize uuid) patch = .ok ()) :
    ∃ stored new, storedValues .group patch.assignments = .ok stored ∧
      Tables.assignCells .group old stored = .ok new ∧
      c.tables.misplaced? .group old new = none ∧
      ∃ g d, c.updateGroup uuid patch = (.ok g, d) := by
  obtain ⟨hOld, hUuid⟩ := (h.sound.find?_eq_some_iff .group rfl).1 hFind
  obtain ⟨stored, hStored⟩ := exists_stored_group h hPass
  have hStoredAs := storedAs_of_storedValues hStored
  have hSettable := hStoredAs.settable patch.keepsKey
  have hPlaced := (placed_of_refusedGroupChange h hOld hUuid hStoredAs hPass).1
  refine ⟨stored, _, hStored, assignCells_eq hSettable, hPlaced, ?_⟩
  have hUpdated : ∃ d, c.updateRecord .group (.text (normalize uuid)) (normalize uuid)
      patch.assignments = .ok d := by
    have hKey : keyCell (.text (normalize uuid)) = uuidCell uuid := by
      rw [keyCell, normalize_normalize, uuidCell]
    have hReplaced := replaced_group h hOld hUuid hStoredAs hPass
    unfold updateRecord
    split
    · exact ⟨c, rfl⟩
    · rw [hStored, hKey]
      dsimp only
      rw [Tables.update_of_replaced hSettable hFind hReplaced]
      exact ⟨_, rfl⟩
  obtain ⟨d, hUpdate⟩ := hUpdated
  have hRead : ∃ g, d.getGroup (normalize uuid) = .ok g := by
    rcases fetch_updated Group h (by decide) (by decide) patch.keepsKey hUpdate
      fun d hd row hRow => readable_group hd hRow with rfl | hFetch
    · have hFind' : d.tables.find? .group (uuidCell (normalize uuid)) = some old := by
        rw [uuidCell, normalize_normalize]
        exact hFind
      exact exists_getGroup h hFind'
    · exact hFetch _
  obtain ⟨g, hGet⟩ := hRead
  exact ⟨g, d, by simp only [updateGroup, outcomeThen, hPass, hUpdate, hGet]⟩

private theorem refused_change (h : c.Synced) {uuid : String} {patch : GroupPatch} {old : Row}
    (hFind : c.tables.find? .group (uuidCell uuid) = some old) {stored : List (Field × Cell)}
    (hStored : StoredAs patch.assignments stored) {fault : Fault}
    (hMisplaced : c.tables.misplaced? .group old (old.assign .group stored) = some fault) :
    ∃ fault, c.refusedGroupChange (normalize uuid) patch = .error fault ∧
      c.updateGroup uuid patch = (.error fault, c) := by
  obtain ⟨hOld, hUuid⟩ := (h.sound.find?_eq_some_iff .group rfl).1 hFind
  cases hChecks : c.refusedGroupChange (normalize uuid) patch with
  | ok _ =>
      rw [(placed_of_refusedGroupChange h hOld hUuid hStored hChecks).1] at hMisplaced
      cases hMisplaced
  | error fault => exact ⟨fault, rfl, by simp only [updateGroup, outcomeThen, hChecks]⟩

end Moves

/-! ## Agreement -/

/-- **The checks and the rules of the tables agree.** In every reachable catalogue a
relation that passes the checks is accepted by the trigger, the unique index and the
foreign keys, and a change of a group that passes its check is accepted by the trigger.
What they would refuse fails before it is written, and leaves the catalogue as it was. -/
theorem Reachable.checks_agree {c : Catalogue} (h : Reachable c) :
    (∀ (resource group : String) (index : Option Int64) (tag : Option String) (r : Resource)
        (g : Group), c.getResource resource = .ok r → c.getGroup group = .ok g →
      c.LinkChecked resource group index tag g ⟨r.uuid, g.uuid, index, tag.getD ""⟩) ∧
    ∀ (uuid : String) (patch : GroupPatch) (old : Row),
      c.tables.find? .group (uuidCell uuid) = some old → c.MoveChecked uuid patch old := by
  have hSynced := h.inv.synced
  refine ⟨fun resource group index tag r g hResource hGroup =>
    linkChecked hSynced hResource hGroup index tag, fun uuid patch old hFind => ?_⟩
  refine ⟨accepted_change hSynced hFind, fun stored new hStored hNew hMisplaced => ?_⟩
  have hStoredAs := storedAs_of_storedValues hStored
  rw [assignCells_eq (hStoredAs.settable patch.keepsKey)] at hNew
  cases hNew
  obtain ⟨_, hFault⟩ := hMisplaced
  exact refused_change hSynced hFind hStoredAs hFault

/-- A second relation of the resource to the series fails, as the trigger has it. So does
making the series a tag, while its title can change. -/
theorem checks_agree_sample :
    Reachable sample ∧
      (∃ fault, sample.addGroupRelation "f" "s" (some 2) none = (.error fault, sample)) ∧
      (∃ fault, sample.updateGroup "s" { groupType := some tagTypeUuid } =
        (.error fault, sample)) ∧
      ∃ g d, sample.updateGroup "s" { title := some "Tales" } = (.ok g, d) := by
  obtain ⟨hLinks, hMoves⟩ := Reachable.checks_agree reachable_sample
  have hResource : sample.getResource "f" = .ok sampleResource := by decide +kernel
  have hGroup : sample.getGroup "s" =
      .ok { sampleSeries with groupType := ⟨seriesTypeUuid, "Series", true, true⟩ } := by
    decide +kernel
  have hFind : sample.tables.find? .group (uuidCell "s") =
      some ⟨1, [.text "s", .text "Novels", .text "Novels", .text seriesTypeUuid]⟩ := by
    rw [sample_tables]
    decide +kernel
  refine ⟨reachable_sample, ?_, ?_, ?_⟩
  · obtain ⟨fault, _, hFails⟩ :=
      (hLinks "f" "s" (some 2) none _ _ hResource hGroup).refused
        ⟨2, Or.inl ⟨.integrity .groupRelation .exclusiveTypeHeld, by
          rw [sample_tables]
          decide +kernel⟩⟩
    exact ⟨fault, hFails⟩
  · obtain ⟨fault, _, hFails⟩ := (hMoves "s" { groupType := some tagTypeUuid } _ hFind).refused
      [(GroupField.groupType, .text tagTypeUuid)]
      ⟨1, [.text "s", .text "Novels", .text "Novels", .text tagTypeUuid]⟩
      (by decide +kernel) (by decide +kernel)
      ⟨.integrity .group .relationsAgainstType, by
        rw [sample_tables]
        decide +kernel⟩
    exact ⟨fault, hFails⟩
  · obtain ⟨_, _, _, _, _, hDone⟩ := (hMoves "s" { title := some "Tales" } _ hFind).accepted rfl
    exact hDone

end Catalogue

end Shelfmark
