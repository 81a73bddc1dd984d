import Shelfmark.Proofs.Catalogue.Run
import Shelfmark.Proofs.Catalogue.Turnover
import Shelfmark.Proofs.Store.Deletion

/-!
# Removing relations by patterns

Relations of a resource are removed by patterns of what they are related to and how. A pattern
picks a relation if all that it asks for is so; what it does not ask for does not count. Here this
is said of the records that the rows hold and of the groups that they name, `LinkPattern.Matches`.

The store is asked by a statement that is put together from what the pattern asks for, condition
by condition and value by value. So three things are compared: what the statement says when it is
read from its text, what the catalogue does with its rows, and what the pattern means. They agree
on every row of the tables that can be reached. They would not on any row: where two groups
have one identifier, the statement would look at both of them and the catalogue at the first.

## Main results

* `LinkPattern.deletes?_statement` — what the statement of a pattern deletes.
* `Catalogue.Reachable.remove_exactly` — what is removed are the relations that the pattern picks.
-/

namespace Shelfmark

open Shelfmark.Text
open Catalogue (uuidCell objectRole_word_injective personRole_word_injective)
open Sql (Test readTests? tokens)

/-- What relations of a resource are asked to be like. What is left out is not asked for. -/
inductive LinkPattern where
  | objects (uuid : Option String) (role : Option ObjectRole) (tag : Option String)
  | persons (person : Option String) (role : Option PersonRole)
  | groups (group type tag : Option String)
  deriving DecidableEq, Repr

namespace LinkPattern

/-- The kind of the relations. -/
def kind : LinkPattern → Kind
  | objects _ _ _ => .objectRelation
  | persons _ _ => .personRelation
  | groups _ _ _ => .groupRelation

/-- Removes the relations of a resource that are as asked for; tells how many. -/
def remove (c : Catalogue) (resource : String) : LinkPattern → Outcome Nat
  | objects uuid role tag => c.removeObjects resource uuid role tag
  | persons person role => c.removePersonRelations resource person role
  | groups group type tag => c.removeGroupRelations resource group type tag

/-- What a statement has to say to remove them, beside the resource. -/
def clauses : LinkPattern → List Statement.Clause
  | objects uuid role tag =>
      [⟨"object_uuid = ?", .equals "object_uuid", uuid.map normalize⟩,
        ⟨"role = ?", .equals "role", role.map ObjectRole.word⟩,
        ⟨"tag = ?", .equals "tag", tag⟩]
  | persons person role =>
      [⟨"person_uuid = ?", .equals "person_uuid", person.map normalize⟩,
        ⟨"relation = ?", .equals "relation", role.map PersonRole.word⟩]
  | groups group type tag =>
      [⟨"group_uuid = ?", .equals "group_uuid", group.map normalize⟩,
        ⟨"group_uuid in (select uuid from groups where type_uuid = ?)",
          .among "group_uuid" "uuid" "groups" "type_uuid", type.map normalize⟩,
        ⟨"relation_tag = ?", .equals "relation_tag", tag⟩]

/-- The statement that removes them. -/
def statement (p : LinkPattern) (resource : String) : Statement :=
  Statement.narrowedBy
    ⟨"delete from " ++ p.kind.table ++ " where resource_uuid = ?", [uuidCell resource]⟩ p.clauses

/-- Whether a relation is one of a resource and as asked for. The type of a relation to a group is
that of the group. -/
def Matches (c : Catalogue) (resource : String) : (p : LinkPattern) → p.kind.Record → Prop
  | objects uuid role tag, (o : ObjectRelation) =>
      o.resourceUuid = normalize resource ∧ (∀ u ∈ uuid, o.uuid = normalize u) ∧
        (∀ r ∈ role, o.role = r) ∧ ∀ t ∈ tag, o.tag = t
  | persons person role, (l : PersonLink) =>
      l.resourceUuid = normalize resource ∧ (∀ u ∈ person, l.personUuid = normalize u) ∧
        ∀ r ∈ role, l.relation = r
  | groups group type tag, (l : GroupLink) =>
      l.resourceUuid = normalize resource ∧ (∀ u ∈ group, l.groupUuid = normalize u) ∧
        (∀ u ∈ type, ∃ g, c.getGroup l.groupUuid = .ok g ∧ g.groupType.uuid = normalize u) ∧
        ∀ t ∈ tag, l.relationTag = t

/-- Whether a row holds a relation that is picked. -/
def Picks (p : LinkPattern) (c : Catalogue) (resource : String) (row : Row) : Prop :=
  ∃ record : p.kind.Record, row.Holds record ∧ p.Matches c resource record

/-- Whether something is asked for as before, or not any more. -/
def Drops {α : Type} (asked left : Option α) : Prop := left = asked ∨ left = none

/-- Whether a pattern asks for no more than another one. -/
inductive Widens : LinkPattern → LinkPattern → Prop where
  | objects {uuid uuid' : Option String} {role role' : Option ObjectRole} {tag tag' : Option String}
      (hUuid : Drops uuid uuid') (hRole : Drops role role') (hTag : Drops tag tag') :
      Widens (.objects uuid role tag) (.objects uuid' role' tag')
  | persons {person person' : Option String} {role role' : Option PersonRole}
      (hPerson : Drops person person') (hRole : Drops role role') :
      Widens (.persons person role) (.persons person' role')
  | groups {group group' type type' tag tag' : Option String} (hGroup : Drops group group')
      (hType : Drops type type') (hTag : Drops tag tag') :
      Widens (.groups group type tag) (.groups group' type' tag')

/-! ## What the statement says -/

/-- Whether the statement of a pattern deletes a row. -/
def deletes (p : LinkPattern) (t : Tables) (resource : String) (row : Row) : Bool :=
  (row.cell p.kind "resource_uuid").same (uuidCell resource) &&
    p.clauses.all fun clause => clause.value.all fun v => clause.test.passes t p.kind row (.text v)

/-- **The statement of a pattern says what the pattern asks for**: every value belongs to the
condition that it was given for, whatever else is asked for. -/
theorem deletes?_statement (p : LinkPattern) (t : Tables) (resource : String) :
    (p.statement resource).deletes? t = some (p.kind, p.deletes t resource) := by
  have hTable : ∀ kind : Kind,
      Sql.readDeletion? ("delete from " ++ kind.table ++ " where resource_uuid = ?") =
        some ⟨kind.table, [.equals "resource_uuid"]⟩ := by
    intro kind
    cases kind <;> decide +kernel
  have hOwner : (⟨"delete from " ++ p.kind.table ++ " where resource_uuid = ?",
      [uuidCell resource]⟩ : Statement).Says p.kind.table
        [(.equals "resource_uuid", uuidCell resource)] := ⟨hTable p.kind, rfl⟩
  have hKind : (Kind.all.find? fun kind => kind.table = p.kind.table) = some p.kind := by
    cases p <;> rfl
  have hClauses : ∀ clause ∈ p.clauses, readTests? (tokens clause.text) = some [clause.test] := by
    cases p with
    | objects uuid role tag =>
      simp only [clauses, List.forall_mem_cons]
      exact ⟨by decide +kernel, by decide +kernel, by decide +kernel, nofun⟩
    | persons person role =>
      simp only [clauses, List.forall_mem_cons]
      exact ⟨by decide +kernel, by decide +kernel, nofun⟩
    | groups group type tag =>
      simp only [clauses, List.forall_mem_cons]
      exact ⟨by decide +kernel, by decide +kernel, by decide +kernel, nofun⟩
  exact Statement.deletes?_narrowedBy hOwner hKind hClauses t

/-! ## What the catalogue does -/

/-- Whether the catalogue picks a row, beside its resource. -/
def picksRow (t : Tables) (row : Row) : LinkPattern → Bool
  | objects uuid role tag =>
      row.fits .objectRelation "object_uuid" (uuid.map normalize) &&
        row.fits .objectRelation "role" (role.map ObjectRole.word) &&
        row.fits .objectRelation "tag" tag
  | persons person role =>
      row.fits .personRelation "person_uuid" (person.map normalize) &&
        row.fits .personRelation "relation" (role.map PersonRole.word)
  | groups group type tag =>
      row.fits .groupRelation "group_uuid" (group.map normalize) &&
        (match type with
          | none => true
          | some u => t.leadsTo (uuidCell u) row) &&
        row.fits .groupRelation "relation_tag" tag

theorem remove_eq (p : LinkPattern) (c : Catalogue) (resource : String) :
    p.remove c resource = c.removeLinks p.kind resource fun row => p.picksRow c.tables row := by
  cases p <;> rfl

/-- A column is as asked for if it has the value, if there is one. -/
private theorem all_equals (t : Tables) (kind : Kind) (row : Row) (column : String)
    (value : Option String) :
    (value.all fun v => (Test.equals column).passes t kind row (.text v)) =
      row.fits kind column value := by
  cases value <;> rfl

/-- The type of a group is looked up in the groups, by the statement in all of them and by the
catalogue in the first with its identifier; but there is only one. -/
theorem passes_among_type {t : Tables} (hSound : t.Sound) {row : Row}
    (hRow : row ∈ t.groupLinks) (type : String) :
    (Test.among "group_uuid" "uuid" "groups" "type_uuid").passes t .groupRelation row (.text type) =
      t.leadsTo (.text type) row := by
  obtain ⟨s, hs, -⟩ :=
    (hSound.fits .groupRelation row hRow).reference_text (r := ⟨"group_uuid", .group⟩) (by decide)
  rw [Bool.eq_iff_iff, hSound.leadsTo_iff (hSound.fits .groupRelation row hRow)]
  have hPasses : (Test.among "group_uuid" "uuid" "groups" "type_uuid").passes t .groupRelation row
      (.text type) = t.groups.any fun g => (g.cell .group "type_uuid").same (.text type) &&
        (row.cell .groupRelation "group_uuid").same (g.cell .group "uuid") := by
    rfl
  rw [hPasses, List.any_eq_true, Tables.Leads]
  dsimp only at hs
  simp only [Bool.and_eq_true, hs, Cell.same_text_iff, Cell.text_same_iff]
  exact exists_congr fun g => and_congr_right fun _ => and_comm

/-- The catalogue removes the rows that the statement deletes. -/
theorem deletes_eq {t : Tables} (hSound : t.Sound) (p : LinkPattern) (resource : String) {row : Row}
    (hRow : row ∈ t.rows p.kind) :
    p.deletes t resource row =
      ((row.cell p.kind "resource_uuid").same (uuidCell resource) && p.picksRow t row) := by
  unfold deletes
  congr 1
  cases p with
  | objects uuid role tag =>
    simp only [clauses, kind, picksRow, List.all_cons, List.all_nil, all_equals, Bool.and_true,
      Bool.and_assoc]
  | persons person role =>
    simp only [clauses, kind, picksRow, List.all_cons, List.all_nil, all_equals, Bool.and_true]
  | groups group type tag =>
    have hType : ∀ asked : Option String,
        ((asked.map normalize).all fun v =>
          (Test.among "group_uuid" "uuid" "groups" "type_uuid").passes t .groupRelation row
            (.text v)) =
          match asked with
          | none => true
          | some u => t.leadsTo (uuidCell u) row := by
      intro asked
      cases asked with
      | none => rfl
      | some u => exact passes_among_type hSound hRow (normalize u)
    simp only [clauses, kind, picksRow, List.all_cons, List.all_nil, all_equals, hType,
      Bool.and_true, Bool.and_assoc]

/-! ## What the pattern means -/

/-- Whether a row is one of a resource. -/
private theorem same_resource_iff {kind : Kind} {row : Row} {s : String}
    (h : row.cell kind "resource_uuid" = .text s) (resource : String) :
    (row.cell kind "resource_uuid").same (uuidCell resource) = true ↔ s = normalize resource := by
  rw [h, uuidCell, Cell.same_text_iff, Cell.text.injEq]

/-- A column is as asked for if what it has is, if anything is asked for. -/
private theorem fits_iff {kind : Kind} {row : Row} {column s : String}
    (h : row.cell kind column = .text s) (asked : Option String) :
    row.fits kind column asked = true ↔ ∀ t ∈ asked, s = t := by
  rw [Row.fits_of_cell h, Option.all_eq_true]
  simp only [decide_eq_true_eq]
  rfl

private theorem fits_normalize_iff {kind : Kind} {row : Row} {column s : String}
    (h : row.cell kind column = .text s) (asked : Option String) :
    row.fits kind column (asked.map normalize) = true ↔ ∀ u ∈ asked, s = normalize u := by
  rw [fits_iff h]
  simp

private theorem fits_word_iff {α : Type} [DecidableEq α] {word : α → String}
    (hWord : Function.Injective word) {kind : Kind} {row : Row} {column : String} {own : α}
    (h : row.cell kind column = .text (word own)) (asked : Option α) :
    row.fits kind column (asked.map word) = true ↔ ∀ a ∈ asked, own = a := by
  rw [Row.fits_of_word hWord h, Option.all_eq_true]
  simp only [decide_eq_true_eq]
  rfl

/-- The catalogue picks the rows whose relations are as asked for. -/
theorem picksRow_iff {c : Catalogue} (hSynced : c.Synced) (p : LinkPattern) (resource : String)
    {row : Row} (hRow : row ∈ c.tables.rows p.kind) {record : p.kind.Record}
    (hHolds : row.Holds record) :
    ((row.cell p.kind "resource_uuid").same (uuidCell resource) &&
      p.picksRow c.tables row) = true ↔ p.Matches c resource record := by
  cases p with
  | objects uuid role tag =>
    obtain ⟨o, rfl⟩ : ∃ o : ObjectRelation, o = record := ⟨record, rfl⟩
    simp only [Row.Holds, kind, Kind.contents, List.forall_mem_cons] at hHolds
    have hResource : row.cell .objectRelation "resource_uuid" = .text o.resourceUuid :=
      Field.eq_text_of_ofCell hHolds.2.1
    have hUuid : row.cell .objectRelation "object_uuid" = .text o.uuid :=
      Field.eq_text_of_ofCell hHolds.2.2.1
    have hRole : row.cell .objectRelation "role" = .text o.role.word :=
      Field.eq_text_of_ofCell hHolds.2.2.2.1
    have hTag : row.cell .objectRelation "tag" = .text o.tag :=
      Field.eq_text_of_ofCell hHolds.2.2.2.2.1
    simp only [picksRow, kind, Matches, Bool.and_eq_true, and_assoc, same_resource_iff hResource,
      fits_normalize_iff hUuid, fits_word_iff objectRole_word_injective hRole, fits_iff hTag]
  | persons person role =>
    obtain ⟨l, rfl⟩ : ∃ l : PersonLink, l = record := ⟨record, rfl⟩
    simp only [Row.Holds, kind, Kind.contents, List.forall_mem_cons] at hHolds
    have hResource : row.cell .personRelation "resource_uuid" = .text l.resourceUuid :=
      Field.eq_text_of_ofCell hHolds.1
    have hPerson : row.cell .personRelation "person_uuid" = .text l.personUuid :=
      Field.eq_text_of_ofCell hHolds.2.1
    have hRole : row.cell .personRelation "relation" = .text l.relation.word :=
      Field.eq_text_of_ofCell hHolds.2.2.1
    simp only [picksRow, kind, Matches, Bool.and_eq_true, same_resource_iff hResource,
      fits_normalize_iff hPerson, fits_word_iff personRole_word_injective hRole]
  | groups group type tag =>
    obtain ⟨l, rfl⟩ : ∃ l : GroupLink, l = record := ⟨record, rfl⟩
    simp only [Row.Holds, kind, Kind.contents, List.forall_mem_cons] at hHolds
    have hResource : row.cell .groupRelation "resource_uuid" = .text l.resourceUuid :=
      Field.eq_text_of_ofCell hHolds.1
    have hGroup : row.cell .groupRelation "group_uuid" = .text l.groupUuid :=
      Field.eq_text_of_ofCell hHolds.2.1
    have hTag : row.cell .groupRelation "relation_tag" = .text l.relationTag :=
      Field.eq_text_of_ofCell hHolds.2.2.2.1
    have hType : ∀ asked : Option String, (match asked with
        | none => true
        | some u => c.tables.leadsTo (uuidCell u) row) = true ↔
          ∀ u ∈ asked, ∃ g, c.getGroup l.groupUuid = .ok g ∧ g.groupType.uuid = normalize u := by
      intro asked
      cases asked with
      | none => simp
      | some u =>
        dsimp only
        rw [hSynced.leadsTo_eq hRow hGroup u]
        cases c.getGroup l.groupUuid <;> simp
    simp only [picksRow, kind, Matches, Bool.and_eq_true, and_assoc, same_resource_iff hResource,
      fits_normalize_iff hGroup, hType, fits_iff hTag]

/-! ## Wider patterns -/

private theorem Drops.forall {α : Type} {P : α → Prop} {asked left : Option α}
    (h : Drops asked left) (hAsked : ∀ a ∈ asked, P a) : ∀ a ∈ left, P a := by
  rcases h with rfl | rfl
  · exact hAsked
  · nofun

theorem Widens.kind_eq {p q : LinkPattern} (h : p.Widens q) : q.kind = p.kind := by
  cases h <;> rfl

/-- A pattern that asks for no more picks no less. -/
theorem Widens.picks {p q : LinkPattern} (h : p.Widens q) {c : Catalogue} {resource : String}
    {row : Row} (hPicks : p.Picks c resource row) : q.Picks c resource row := by
  obtain ⟨record, hHolds, hMatches⟩ := hPicks
  cases h with
  | objects hUuid hRole hTag =>
    obtain ⟨hResource, hUuids, hRoles, hTags⟩ := hMatches
    exact ⟨record, hHolds, hResource, hUuid.forall hUuids, hRole.forall hRoles, hTag.forall hTags⟩
  | persons hPerson hRole =>
    obtain ⟨hResource, hPersons, hRoles⟩ := hMatches
    exact ⟨record, hHolds, hResource, hPerson.forall hPersons, hRole.forall hRoles⟩
  | groups hGroup hType hTag =>
    obtain ⟨hResource, hGroups, hTypes, hTags⟩ := hMatches
    exact ⟨record, hHolds, hResource, hGroup.forall hGroups, hType.forall hTypes,
      hTag.forall hTags⟩

end LinkPattern

namespace Catalogue

/-- A row of a link is deleted if it holds a relation that the pattern picks. -/
theorem Synced.deletes_iff {c : Catalogue} (h : c.Synced) (p : LinkPattern) (resource : String)
    {row : Row} (hRow : row ∈ c.tables.rows p.kind) :
    p.deletes c.tables resource row = true ↔ p.Picks c resource row := by
  rw [LinkPattern.deletes_eq h.sound p resource hRow]
  constructor
  · intro hPicked
    obtain ⟨record, hHolds⟩ := (h.sound.fits p.kind row hRow).exists_holds
    exact ⟨record, hHolds, (p.picksRow_iff h resource hRow hHolds).1 hPicked⟩
  · rintro ⟨record, hHolds, hMatches⟩
    exact (p.picksRow_iff h resource hRow hHolds).2 hMatches

/-- The catalogue does what the statement says. -/
theorem Synced.remove_eq {c : Catalogue} (h : c.Synced) (p : LinkPattern) (resource : String) :
    p.remove c resource =
      (.ok ((c.tables.rows p.kind).countP (p.deletes c.tables resource)),
        { c with tables := c.tables.without p.kind (p.deletes c.tables resource) }) := by
  have hSame : ∀ row ∈ c.tables.rows p.kind,
      ((row.cell p.kind "resource_uuid").same (uuidCell resource) && p.picksRow c.tables row) =
        p.deletes c.tables resource row :=
    fun row hRow => (LinkPattern.deletes_eq h.sound p resource hRow).symm
  have hCount := List.countP_congr fun row hRow => Bool.eq_iff_iff.1 (hSame row hRow)
  have hKept := List.filter_congr fun row hRow => congrArg (!·) (hSame row hRow)
  rw [LinkPattern.remove_eq, removeLinks, Tables.removeDependents, Tables.without, hCount, hKept]
  rfl

/-- A wider pattern leaves fewer rows. -/
theorem Synced.remove_sublist {c : Catalogue} (h : c.Synced) {p q : LinkPattern}
    (hWidens : p.Widens q) (resource : String) :
    ((q.remove c resource).2.tables.rows p.kind).Sublist
      ((p.remove c resource).2.tables.rows p.kind) := by
  have hDeletes : ∀ row ∈ c.tables.rows p.kind,
      p.deletes c.tables resource row = true → q.deletes c.tables resource row = true := by
    intro row hRow hDeleted
    have hRow' : row ∈ c.tables.rows q.kind := by rwa [hWidens.kind_eq]
    have hPicks := (h.deletes_iff p resource hRow).1 hDeleted
    exact (h.deletes_iff q resource hRow').2 (hWidens.picks hPicks)
  rw [h.remove_eq p, h.remove_eq q, hWidens.kind_eq]
  simp only [Tables.without, Tables.rows_withRows_self]
  -- the rows that are left are left by both, so they are left of what the narrower one leaves
  have hTwice : (c.tables.rows p.kind).filter (fun row => !q.deletes c.tables resource row) =
      ((c.tables.rows p.kind).filter fun row => !p.deletes c.tables resource row).filter
        fun row => !q.deletes c.tables resource row := by
    rw [List.filter_filter]
    refine List.filter_congr fun row hRow => ?_
    cases hq : q.deletes c.tables resource row with
    | true => rfl
    | false =>
      have hp : p.deletes c.tables resource row = false :=
        Bool.eq_false_iff.2 fun hDeleted => absurd (hDeletes row hRow hDeleted) (by simp [hq])
      rw [hp]
      rfl
  rw [hTwice]
  exact List.filter_sublist

/-- **What a pattern picks is removed, and nothing else.** The statement that is put together from
a pattern deletes the rows of its table that hold a relation which the pattern picks; this is what
the removal does, and the number that it tells is theirs. No other row and no other table is
changed. A pattern that asks for less leaves no row that was removed before. -/
theorem Reachable.remove_exactly {c : Catalogue} (h : Reachable c) (p : LinkPattern)
    (resource : String) :
    ∃ doomed : Row → Bool,
      (p.statement resource).deletes? c.tables = some (p.kind, doomed) ∧
      (∀ row ∈ c.tables.rows p.kind, doomed row = true ↔ p.Picks c resource row) ∧
      p.remove c resource =
        (.ok ((c.tables.rows p.kind).countP doomed),
          { c with tables := c.tables.without p.kind doomed }) ∧
      ∀ wider, p.Widens wider →
        ((wider.remove c resource).2.tables.rows p.kind).Sublist
          ((p.remove c resource).2.tables.rows p.kind) := by
  have hSynced := h.inv.synced
  exact ⟨p.deletes c.tables resource, p.deletes?_statement c.tables resource,
    fun row hRow => hSynced.deletes_iff p resource hRow, hSynced.remove_eq p resource,
    fun wider hWidens => hSynced.remove_sublist hWidens resource⟩

/-- The sample with a tag beside the series. -/
def sampleTagged : Catalogue :=
  (Step.runAll sample
    [.addGroup sampleUuid ⟨"g", "Horror", "Horror", ⟨tagTypeUuid, "", false, false⟩⟩,
      .addGroupRelation "f" "g" none none]).2

/-- The relation of the sample to its tag, as a row. -/
private def tagLink : Row := ⟨2, [.text "f", .text "g", .integer (-1), .text ""]⟩

/-- The relation to the series is removed by the type of the group, the one to the tag stays; a
pattern that asks for no type would remove it too. -/
theorem remove_exactly_series :
    Reachable sampleTagged ∧
      (LinkPattern.groups none (some seriesTypeUuid) (some "")).statement "F" =
        ⟨"delete from res_groups where resource_uuid = ? and " ++
          "group_uuid in (select uuid from groups where type_uuid = ?) and relation_tag = ?",
          [.text "f", .text seriesTypeUuid, .text ""]⟩ ∧
      sampleTagged.removeGroupRelations "F" none (some seriesTypeUuid) (some "") =
        (.ok 1, { sampleTagged with
          tables := sampleTagged.tables.withRows .groupRelation [tagLink] }) ∧
      ((sampleTagged.removeGroupRelations "F" none none (some "")).2.tables.groupLinks).Sublist
        [tagLink] ∧
      ¬ (LinkPattern.groups none (some seriesTypeUuid) (some "")).Picks sampleTagged "F"
        tagLink := by
  have hReachable : Reachable sampleTagged :=
    reachable_sample.run (Run.publicSteps .refl (by decide) (by decide +kernel))
  obtain ⟨doomed, -, hPicks, hRemove, hWider⟩ := hReachable.remove_exactly
    (.groups none (some seriesTypeUuid) (some "")) "F"
  have hSublist := hWider (.groups none none (some "")) (.groups (.inl rfl) (.inr rfl) (.inl rfl))
  have hHere : (LinkPattern.groups none (some seriesTypeUuid) (some "")).remove sampleTagged "F" =
      (.ok 1, { sampleTagged with
        tables := sampleTagged.tables.withRows .groupRelation [tagLink] }) := by
    decide +kernel
  have hLeft : ((LinkPattern.groups none (some seriesTypeUuid) (some "")).remove sampleTagged
      "F").2.tables.rows .groupRelation = [tagLink] := by
    rw [hHere, Tables.rows_withRows_self]
  have hMem : tagLink ∈
      (sampleTagged.tables.rows .groupRelation).filter fun row => !doomed row := by
    rw [hRemove, LinkPattern.kind, Tables.rows_without, if_pos rfl] at hLeft
    rw [hLeft]
    exact List.mem_singleton_self _
  obtain ⟨hRow, hKept⟩ := List.mem_filter.1 hMem
  refine ⟨hReachable, by decide +kernel, hHere, hLeft ▸ hSublist, fun hPicked => ?_⟩
  rw [(hPicks tagLink hRow).2 hPicked] at hKept
  cases hKept

end Catalogue

end Shelfmark
