import Shelfmark.Catalogue.Step
import Shelfmark.Proofs.Catalogue.Effect
import Shelfmark.Proofs.Catalogue.Reading

/-!
# The effects of the operations

Every operation is written as a check and a change. The changes are described first:
`insertRecord_eq_ok`, `updateRecord_eq_ok` and `removeRecord_eq_ok` say what is true when
one succeeds. With them each operation has an effect, and `Step.effect` collects these
for all steps that neither open nor close savepoints.

Identifiers for new records come from a generator. What is known of them is that they
are already in normal form.
-/

namespace Shelfmark

open Shelfmark.Text

namespace Catalogue

/-! ## Changes of records -/

/-- What is true when a record is inserted. -/
theorem insertRecord_eq_ok {α : Type} [Storable α] [Listed α] {c d : Catalogue} {record : α}
    {id : Int64} (h : c.insertRecord record = .ok (id, d)) :
    ∃ stored t, StoredAs (givenValues record) stored ∧
      (Row.mk id (stored.map Prod.snd)).Fits (Storable.kind α) ∧
      c.tables.Inserted (Storable.kind α) ⟨id, stored.map Prod.snd⟩ t ∧
      d = { c with tables := t } := by
  unfold insertRecord at h
  split at h
  · cases h
  · rename_i stored hStored
    have hStoredAs := storedAs_of_storedValues hStored
    have hFits := hStoredAs.forall₂ (Listed.given record)
    split at h
    · cases h
    · rename_i t _ hInsert
      cases h
      exact ⟨stored, t, hStoredAs, hFits, Tables.inserted_of_insert hFits hInsert, rfl⟩

/-- What is true when fields of a record are set: nothing was to be set, or the row
with the key was replaced. -/
theorem updateRecord_eq_ok {c d : Catalogue} {kind : Kind} {key : FieldValue} {shown : String}
    {assignments : Assignments} (hKeeps : KeepsKey kind assignments)
    (h : c.updateRecord kind key shown assignments = .ok d) :
    (assignments = [] ∧ d = c) ∨
      ∃ stored old t, StoredAs assignments stored ∧ Row.Settable kind stored ∧
        c.tables.find? kind (keyCell key) = some old ∧
        c.tables.Replaced kind old (old.assign kind stored) t ∧ d = { c with tables := t } := by
  unfold updateRecord at h
  split at h
  · rename_i hEmpty
    cases h
    exact Or.inl ⟨List.isEmpty_iff.1 hEmpty, rfl⟩
  · split at h
    · cases h
    · rename_i stored hStored
      have hStoredAs := storedAs_of_storedValues hStored
      have hSettable := hStoredAs.settable hKeeps
      split at h
      · cases h
      · cases h
      · rename_i t n hNone hUpdate
        cases h
        rcases Tables.replaced_of_update hSettable hUpdate with
          ⟨_, _, rfl⟩ | ⟨old, hOld, _, hReplaced⟩
        · exact absurd rfl hNone
        · exact Or.inr ⟨stored, old, t, hStoredAs, hSettable, hOld, hReplaced, rfl⟩

/-- What is true when a record is removed. -/
theorem removeRecord_eq_ok {c d : Catalogue} {kind : Kind} {key : Cell} {shown : String}
    (h : c.removeRecord kind key shown = .ok d) :
    ∃ row t, c.tables.find? kind key = some row ∧ c.tables.Removed kind row t ∧
      d = { c with tables := t } := by
  unfold removeRecord at h
  split at h
  · cases h
  · cases h
  · rename_i t n hNone hRemove
    cases h
    rcases Tables.removed_of_remove hRemove with ⟨_, _, rfl⟩ | ⟨row, hRow, _, hRemoved⟩
    · exact absurd rfl hNone
    · exact ⟨row, t, hRow, hRemoved, rfl⟩

theorem mem_of_find? {t : Tables} {kind : Kind} {key : Cell} {row : Row}
    (h : t.find? kind key = some row) : row ∈ t.rows kind := List.mem_of_find?_eq_some h

/-- A change that keeps the key column leaves the key cell as it is. -/
theorem key_assign {kind : Kind} {row : Row} {assignments : Assignments}
    {stored : List (Field × Cell)} (h : StoredAs assignments stored)
    (hKeeps : KeepsKey kind assignments) :
    (row.assign kind stored).key kind = row.key kind :=
  h.keeps_column (fun a ha => (hKeeps a ha).2) row

/-! ## Outcomes -/

theorem effect_outcomeThen {α : Type} {c : Catalogue} {read : Catalogue → Except Fault α}
    {result : Except Fault Catalogue} (h : ∀ d, result = .ok d → Effect c d) :
    Effect c (c.outcomeThen read result).2 := by
  cases hResult : result with
  | error fault => exact .nothing
  | ok d => exact h d hResult

/-- A change that answers in another way has the same effect. -/
theorem effect_outcome_map {α β : Type} {c : Catalogue} {result : Except Fault α}
    {f : α → β × Catalogue} (h : ∀ a, result = .ok a → Effect c (f a).2) :
    Effect c (c.outcome (result.map f)).2 := by
  cases hResult : result with
  | error fault => exact .nothing
  | ok a => exact h a hResult

theorem effect_insertRecord {α : Type} [Storable α] [Listed α] {c : Catalogue} {record : α}
    (hType : Storable.kind α ≠ .groupType) (hLink : Storable.kind α ≠ .groupRelation)
    {p : Int64 × Catalogue} (h : c.insertRecord record = .ok p) : Effect c p.2 := by
  obtain ⟨id, d⟩ := p
  obtain ⟨stored, t, _, hFits, hInserted, rfl⟩ := insertRecord_eq_ok h
  exact .inserted hType hLink hFits hInserted

theorem effect_updateRecord {c d : Catalogue} (hSound : c.tables.Sound) {kind : Kind}
    (hType : kind ≠ .groupType) (hLink : kind ≠ .groupRelation) {key : FieldValue}
    {shown : String} {assignments : Assignments} (hKeeps : KeepsKey kind assignments)
    (h : c.updateRecord kind key shown assignments = .ok d) : Effect c d := by
  rcases updateRecord_eq_ok hKeeps h with
    ⟨_, rfl⟩ | ⟨stored, old, t, hStored, hSettable, hFind, hReplaced, rfl⟩
  · exact .nothing
  · have hOld := mem_of_find? hFind
    exact .changed hType hLink hOld ((hSound.fits kind old hOld).assign hSettable)
      (Row.assign_id kind old stored) (key_assign hStored hKeeps) hReplaced

theorem effect_removeRecord {c d : Catalogue} {kind : Kind} (hType : kind ≠ .groupType)
    {key : Cell} {shown : String} (h : c.removeRecord kind key shown = .ok d) : Effect c d := by
  obtain ⟨row, t, hFind, hRemoved, rfl⟩ := removeRecord_eq_ok h
  exact .removed hType (mem_of_find? hFind) hRemoved

/-! ## Generated identifiers -/

/-- Whether a text looks like a generated identifier: 36 characters, each of them a
hexadecimal digit in lower case or a hyphen. -/
def isGenerated (s : String) : Bool :=
  s.length = 36 && s.toList.all fun c => "0123456789abcdef-".toList.contains c

private theorem generated_char {c : Char} (h : "0123456789abcdef-".toList.contains c = true) :
    IsLowered c ∧ isBlank c = false := by
  have hAll : ("0123456789abcdef-".toList.all fun d => decide (IsLowered d) && !isBlank d) =
      true := by decide +kernel
  have hChar := List.all_eq_true.1 hAll c (List.contains_iff_mem.1 h)
  rw [Bool.and_eq_true, decide_eq_true_eq, Bool.not_eq_true'] at hChar
  exact hChar

/-- A generated identifier is in normal form. -/
theorem normalize_of_isGenerated {s : String} (h : isGenerated s = true) : normalize s = s := by
  simp only [isGenerated, Bool.and_eq_true, decide_eq_true_eq, List.all_eq_true] at h
  refine normalize_eq_self ⟨?_, ?_⟩ fun c hc => (generated_char (h.2 c hc)).1
  · intro c hc
    exact (generated_char (h.2 c (List.mem_of_mem_head? hc))).2
  · intro c hc
    exact (generated_char (h.2 c (List.mem_of_getLast? hc))).2

/-- The identifier of a new record is in normal form. -/
theorem normalize_chooseUuid {given fresh : String} (h : isGenerated fresh = true) :
    normalize (chooseUuid given fresh) = chooseUuid given fresh := by
  unfold chooseUuid
  dsimp only
  split
  · exact normalize_of_isGenerated h
  · exact normalize_normalize given

/-! ## Resources, persons and objects -/

theorem effect_addResource (c : Catalogue) (fresh : String) (given : Resource) :
    Effect c (c.addResource fresh given).2 := by
  unfold addResource
  exact effect_outcome_map fun p hInsert => effect_insertRecord (by decide) (by decide) hInsert

theorem effect_addPerson (c : Catalogue) (fresh : String) (given : Person) :
    Effect c (c.addPerson fresh given).2 := by
  unfold addPerson
  exact effect_outcome_map fun p hInsert => effect_insertRecord (by decide) (by decide) hInsert

theorem effect_addObject (c : Catalogue) (fresh resource : String) (given : ObjectRelation) :
    Effect c (c.addObject fresh resource given).2 := by
  unfold addObject
  split
  · exact .nothing
  · exact effect_outcome_map fun p hInsert => effect_insertRecord (by decide) (by decide) hInsert

theorem effect_addPersonRelation (c : Catalogue) (resource person : String)
    (relation : PersonRole) : Effect c (c.addPersonRelation resource person relation).2 := by
  unfold addPersonRelation
  split
  · exact .nothing
  · split
    · exact .nothing
    · split
      · exact .nothing
      · exact effect_outcome_map fun p hInsert =>
          effect_insertRecord (by decide) (by decide) hInsert

theorem effect_updateResource {c : Catalogue} (hSound : c.tables.Sound) (now : Timestamp)
    (uuid : String) (patch : ResourcePatch) : Effect c (c.updateResource now uuid patch).2 := by
  unfold updateResource
  dsimp only
  refine effect_outcomeThen fun d hUpdate => ?_
  split at hUpdate
  · cases hUpdate
  · exact effect_updateRecord hSound (by decide) (by decide) (patch.keepsKey _) hUpdate

theorem effect_updatePerson {c : Catalogue} (hSound : c.tables.Sound) (uuid : String)
    (patch : PersonPatch) : Effect c (c.updatePerson uuid patch).2 := by
  unfold updatePerson
  exact effect_outcomeThen fun d hUpdate =>
    effect_updateRecord hSound (by decide) (by decide) patch.keepsKey hUpdate

theorem effect_updateObject {c : Catalogue} (hSound : c.tables.Sound) (id : Int64)
    (patch : ObjectPatch) : Effect c (c.updateObject id patch).2 := by
  unfold updateObject
  exact effect_outcomeThen fun d hUpdate =>
    effect_updateRecord hSound (by decide) (by decide) patch.keepsKey hUpdate

/-- The removals of single records differ in the kind alone. -/
theorem effect_remove {c : Catalogue} {kind : Kind} (hType : kind ≠ .groupType) (key : Cell)
    (shown : String) :
    Effect c (c.outcome ((c.removeRecord kind key shown).map fun r => ((), r))).2 :=
  effect_outcome_map fun _ hRemove => effect_removeRecord hType hRemove

/-! ## Group types -/

theorem getGroupType_eq_ok {c : Catalogue} (hSynced : c.Synced) {uuid : String} {g : GroupType}
    (h : c.getGroupType uuid = .ok g) : g ∈ c.tables.types ∧ g.uuid = normalize uuid := by
  unfold getGroupType at h
  split at h
  · rename_i found hFound
    cases h
    exact hSynced.find?_eq_some_iff.1 hFound
  · cases h

/-- A type is inserted and told to memory, provided that its name is free. -/
theorem effect_insertType {c : Catalogue} {g : GroupType} (hUuid : normalize g.uuid = g.uuid)
    (hFree : c.types.findNamed? g.name = none) {p : Int64 × Catalogue}
    (h : c.insertRecord g = .ok p) : Effect c { p.2 with types := p.2.types.keep g } := by
  obtain ⟨id, d⟩ := p
  obtain ⟨stored, t, hStored, hFits, hInserted, rfl⟩ := insertRecord_eq_ok h
  rw [cells_of_storedAs hUuid hStored] at hFits hInserted
  exact .typeAdded hFits hInserted hFree

theorem effect_addGroupType {c : Catalogue} {fresh : String} (hFresh : isGenerated fresh = true)
    (given : GroupType) : Effect c (c.addGroupType fresh given).2 := by
  unfold addGroupType
  have hUuid : normalize ({ given with uuid := chooseUuid given.uuid fresh } : GroupType).uuid =
      ({ given with uuid := chooseUuid given.uuid fresh } : GroupType).uuid := by
    dsimp only
    exact normalize_chooseUuid hFresh
  generalize ({ given with uuid := chooseUuid given.uuid fresh } : GroupType) = record at hUuid
  dsimp only
  split
  · exact .nothing
  · rename_i hFree
    exact effect_outcome_map fun p hInsert => effect_insertType hUuid hFree hInsert

private theorem eq_or_of_getD {α : Type} {change : Option α} {old new : α}
    (h : change.getD old = new) : old = new ∨ change = some new := by
  cases change with
  | none => exact Or.inl h
  | some a => exact Or.inr (congrArg some h)

/-- What is known of a change of a type that is not refused. -/
private theorem refusedTypeChange?_eq_none {c : Catalogue} {t : GroupType} {patch : GroupTypePatch}
    (h : c.refusedTypeChange? t patch = none) :
    ((patch.apply t).exclusive = true → t.exclusive = true ∨ c.crowdedCount (.text t.uuid) = 0) ∧
      ((patch.apply t).ordered = false → t.ordered = false ∨ c.indexedCount (.text t.uuid) = 0) ∧
      ((patch.apply t).name = t.name ∨
        ∀ other, c.types.findNamed? (patch.apply t).name = some other → other.uuid = t.uuid) := by
  unfold refusedTypeChange? at h
  dsimp only at h
  split at h
  · cases h
  · rename_i hExclusive
    split at h
    · cases h
    · rename_i hOrdered
      simp only [Bool.and_eq_true, decide_eq_true_eq, Bool.not_eq_true', not_and, Nat.not_lt,
        Nat.le_zero] at hExclusive hOrdered
      refine ⟨?_, ?_, ?_⟩
      · intro hFlag
        by_cases hOld : t.exclusive = true
        · exact Or.inl hOld
        · have hPatch := (eq_or_of_getD hFlag).resolve_left hOld
          exact Or.inr (hExclusive ⟨hPatch, by simpa using hOld⟩)
      · intro hFlag
        by_cases hOld : t.ordered = false
        · exact Or.inl hOld
        · have hPatch := (eq_or_of_getD hFlag).resolve_left hOld
          exact Or.inr (hOrdered ⟨hPatch, by simpa using hOld⟩)
      · cases hPatch : patch.name with
        | none => exact Or.inl (by simp [GroupTypePatch.apply, hPatch])
        | some name =>
            refine Or.inr fun other hOther => ?_
            simp only [GroupTypePatch.apply, hPatch, Option.getD_some] at hOther
            simp only [hPatch, hOther] at h
            by_contra hNe
            rw [if_neg hNe] at h
            cases h

private theorem apply_of_assignments_nil {patch : GroupTypePatch} (h : patch.assignments = [])
    (t : GroupType) : patch.apply t = t := by
  obtain ⟨name, exclusive, ordered⟩ := patch
  cases name <;> cases exclusive <;> cases ordered <;>
    simp_all [GroupTypePatch.assignments, assign, GroupTypePatch.apply]

theorem effect_updateGroupType {c : Catalogue} (hSynced : c.Synced) (uuid : String)
    (patch : GroupTypePatch) : Effect c (c.updateGroupType uuid patch).2 := by
  unfold updateGroupType
  dsimp only
  split
  · exact .nothing
  · rename_i t hGet
    obtain ⟨hType, hUuid⟩ := getGroupType_eq_ok hSynced hGet
    split
    · exact .nothing
    · rename_i hRefused
      refine effect_outcome_map fun d hUpdate => ?_
      rcases updateRecord_eq_ok patch.keepsKey hUpdate with
        ⟨hNothing, rfl⟩ | ⟨stored, old, tables, hStored, hSettable, hFind, hReplaced, rfl⟩
      · dsimp only
        rw [apply_of_assignments_nil hNothing]
        exact .typeKept hType
      · obtain ⟨hOld, hCell⟩ :=
          (hSynced.sound.find?_eq_some_iff .groupType rfl).1 hFind
        have hOldFits := hSynced.sound.type_row hOld
        have hNew := toGroupType_assign hOldFits hStored
        -- The row that the change finds is the row of the type in memory.
        have hSame : old.toGroupType = t := by
          refine hSynced.sound.type_eq (Tables.mem_types.2 ⟨old, hOld, rfl⟩) hType ?_
          have hText := hOldFits.cell_groupType.1.symm.trans hCell
          rw [Cell.text.inj hText, hUuid]
        rw [hSame] at hNew
        obtain ⟨hExclusive, hOrdered, hName⟩ := refusedTypeChange?_eq_none hRefused
        dsimp only
        rw [← hNew] at hExclusive hOrdered hName ⊢
        rw [← hSame] at hExclusive hOrdered hName
        refine .typeChanged hOld (hOldFits.assign hSettable) (Row.assign_id _ _ _) ?_ hReplaced
          hExclusive hOrdered hName
        rw [hNew, hSame]
        rfl

theorem effect_removeGroupType {c : Catalogue} (hSynced : c.Synced) (uuid : String) :
    Effect c (c.removeGroupType uuid).2 := by
  unfold removeGroupType
  dsimp only
  split
  · exact .nothing
  · split
    · exact .nothing
    · rename_i hKnown
      split
      · exact .nothing
      · refine effect_outcome_map fun d hRemove => ?_
        obtain ⟨row, t, hFind, hRemoved, rfl⟩ := removeRecord_eq_ok hRemove
        obtain ⟨hRow, hCell⟩ :=
          (hSynced.sound.find?_eq_some_iff .groupType rfl).1 hFind
        have hText := (hSynced.sound.type_row hRow).cell_groupType.1.symm.trans hCell
        have hUuid : row.toGroupType.uuid = normalize uuid := Cell.text.inj hText
        dsimp only
        rw [← hUuid] at hKnown ⊢
        exact .typeRemoved hRow (by simpa using hKnown) hRemoved
      · exact .nothing

/-! ## Groups and relations -/

/-- What a link stores. An absent index is stored as -1. -/
theorem cells_of_storedAs_link {link : GroupLink} {stored : List (Field × Cell)}
    (h : StoredAs (givenValues link) stored) :
    stored.map Prod.snd = [.text (normalize link.resourceUuid), .text (normalize link.groupUuid),
      .integer (link.groupIndex.getD (-1)), .text link.relationTag] := by
  have hValues : givenValues link = [(GroupLinkField.resource, .text link.resourceUuid),
      (GroupLinkField.group, .text link.groupUuid),
      (GroupLinkField.groupIndex, .ofOption .integer link.groupIndex),
      (GroupLinkField.relationTag, .text link.relationTag)] := rfl
  unfold StoredAs at h
  rw [hValues] at h
  simp only [List.forall₂_cons_left_iff, List.forall₂_nil_left_iff] at h
  obtain ⟨resource, _, ⟨_, hResource⟩, ⟨group, _, ⟨_, hGroup⟩, ⟨index, _, ⟨_, hIndex⟩, ⟨tag, _,
    ⟨_, hTag⟩, rfl, rfl⟩, rfl⟩, rfl⟩, rfl⟩ := h
  have hFirst : resource.2 = .text (normalize link.resourceUuid) :=
    (Field.storeIdentifier_eq_ok (s := link.resourceUuid) hResource).1
  have hSecond : group.2 = .text (normalize link.groupUuid) :=
    (Field.storeIdentifier_eq_ok (s := link.groupUuid) hGroup).1
  have hThird : index.2 = .integer (link.groupIndex.getD (-1)) := by
    cases hGiven : link.groupIndex with
    | none =>
        rw [hGiven] at hIndex
        exact (Except.ok.inj (show Except.ok (Cell.integer (-1)) = .ok index.2 from hIndex)).symm
    | some i =>
        rw [hGiven] at hIndex
        have hStore : Field.storeValue .index (.integer i) = .ok index.2 := hIndex
        unfold Field.storeValue at hStore
        dsimp only at hStore
        split at hStore
        · exact (Except.ok.inj hStore).symm
        · cases hStore
  have hFourth : Cell.text link.relationTag = tag.2 := Except.ok.inj hTag
  simp only [List.map_cons, List.map_nil, hFirst, hSecond, hThird, hFourth]

/-- A group that is fetched is that of a row, and its type is the one in memory. -/
theorem getGroup_eq_ok {c : Catalogue} (hSound : c.tables.Sound) {uuid : String} {g : Group}
    (h : c.getGroup uuid = .ok g) :
    ∃ row ∈ c.tables.groups, ∃ type, row.cell .group "uuid" = .text g.uuid ∧
      row.cell .group "type_uuid" = .text type ∧ c.types.find? type = some g.groupType := by
  unfold getGroup fetch at h
  split at h
  · cases h
  · rename_i row hFind
    have hRow : row ∈ c.tables.groups := List.mem_of_find?_eq_some hFind
    obtain ⟨u, title, sort, type, hUuid, hType, hRead⟩ :=
      readRow_group (hSound.fits .group row hRow) c.types
    rw [hRead] at h
    split at h
    · rename_i t hLookup
      cases h
      exact ⟨row, hRow, type, hUuid, hType, hLookup⟩
    · cases h

theorem effect_addGroup (c : Catalogue) (fresh : String) (given : Group) :
    Effect c (c.addGroup fresh given).2 := by
  unfold addGroup
  dsimp only
  split
  · exact .nothing
  · exact effect_outcome_map fun p hInsert =>
      effect_insertRecord (by decide) (by decide) hInsert

theorem effect_updateGroup {c : Catalogue} (hSynced : c.Synced) (uuid : String)
    (patch : GroupPatch) : Effect c (c.updateGroup uuid patch).2 := by
  unfold updateGroup
  dsimp only
  refine effect_outcomeThen fun d hUpdate => ?_
  split at hUpdate
  · cases hUpdate
  · exact effect_updateRecord hSynced.sound (by decide) (by decide) patch.keepsKey hUpdate

theorem effect_addGroupRelation {c : Catalogue} (hSynced : c.Synced) (resource group : String)
    (index : Option Int64) (tag : Option String) :
    Effect c (c.addGroupRelation resource group index tag).2 := by
  unfold addGroupRelation
  split
  · exact .nothing
  · rename_i r _
    split
    · exact .nothing
    · rename_i g hGet
      dsimp only
      split
      · exact .nothing
      · rename_i hRefused
        refine effect_outcome_map fun p hInsert => ?_
        obtain ⟨id, d⟩ := p
        obtain ⟨stored, t, hStored, hFits, hInserted, rfl⟩ := insertRecord_eq_ok hInsert
        refine .related hFits hInserted ?_
        rintro type hType hUnordered ⟨x, hx, hEnd, hLeads⟩
        -- The row that the link leads to is the row that the group was read from.
        obtain ⟨row, hRow, typeUuid, hUuid, hTypeUuid, hLookup⟩ :=
          getGroup_eq_ok hSynced.sound hGet
        have hNormal : normalize g.uuid = g.uuid := by
          obtain ⟨s, hs, hNormal, _⟩ := (hSynced.sound.fits .group row hRow).key_text rfl
          rw [hs] at hUuid
          rw [← Cell.text.inj hUuid]
          exact hNormal
        rw [cells_of_storedAs_link hStored] at hEnd ⊢
        have hEnd' : x.cell .group "uuid" = .text g.uuid := hNormal ▸ hEnd
        have hSame : x = row := hSynced.sound.group_unique hx hRow (hEnd'.trans hUuid.symm)
        rw [hSame, hTypeUuid] at hLeads
        obtain ⟨hIn, hIs⟩ := hSynced.find?_eq_some_iff.1 hLookup
        have hGroupType : g.groupType = type :=
          hSynced.sound.type_eq hIn hType (hIs.trans (Cell.text.inj hLeads))
        have hNoIndex : index = none := by
          unfold refusedGroupLink? at hRefused
          dsimp only at hRefused
          split at hRefused
          · cases hRefused
          · rename_i hAllowed
            simpa [hGroupType, hUnordered] using hAllowed
        rw [hNoIndex]
        rfl

theorem effect_removeLinks {c : Catalogue} {kind : Kind} (hDependent : kind.isDependent = true)
    (resource : String) (pattern : Row → Bool) :
    Effect c (c.removeLinks kind resource pattern).2 := .unlinked hDependent _

end Catalogue

/-! ## Steps -/

namespace Step

/-- Whether a step is a public operation that neither opens nor closes savepoints. -/
def isPlain : Step → Bool
  | begin => false
  | commit => false
  | rollback => false
  | transaction _ => false
  | setOption _ _ => false
  | direct _ => false
  | _ => true

/-- Whether the identifiers for new records come from the generator. -/
def isSupplied : Step → Bool
  | addResource fresh _ => Catalogue.isGenerated fresh
  | addPerson fresh _ => Catalogue.isGenerated fresh
  | addGroupType fresh _ => Catalogue.isGenerated fresh
  | addGroup fresh _ => Catalogue.isGenerated fresh
  | addObject fresh _ _ => Catalogue.isGenerated fresh
  | transaction steps => allSupplied steps
  | _ => true
where
  /-- Whether all identifiers for new records come from the generator. -/
  allSupplied : List Step → Bool
    | [] => true
    | step :: steps => step.isSupplied && allSupplied steps

open Catalogue

theorem reply_snd {α : Type} (o : Outcome α) (f : α → Reply) : (reply o f).2 = o.2 := rfl

/-- Each public operation other than those on savepoints has an effect. -/
theorem effect {c : Catalogue} (hSynced : c.Synced) {s : Step} (hPlain : s.isPlain = true)
    (hSupplied : s.isSupplied = true) : Effect c (s.run c).2 := by
  have hSound := hSynced.sound
  cases s with
  | begin | commit | rollback | transaction | setOption | direct => cases hPlain
  | addResource fresh record =>
      rw [run, reply_snd]
      exact effect_addResource c fresh record
  | addPerson fresh record =>
      rw [run, reply_snd]
      exact effect_addPerson c fresh record
  | addGroupType fresh record =>
      rw [run, reply_snd]
      exact effect_addGroupType hSupplied record
  | addGroup fresh record =>
      rw [run, reply_snd]
      exact effect_addGroup c fresh record
  | addObject fresh resource record =>
      rw [run, reply_snd]
      exact effect_addObject c fresh resource record
  | updateResource now uuid patch =>
      rw [run, reply_snd]
      exact effect_updateResource hSound now uuid patch
  | updatePerson uuid patch =>
      rw [run, reply_snd]
      exact effect_updatePerson hSound uuid patch
  | updateGroupType uuid patch =>
      rw [run, reply_snd]
      exact effect_updateGroupType hSynced uuid patch
  | updateGroup uuid patch =>
      rw [run, reply_snd]
      exact effect_updateGroup hSynced uuid patch
  | updateObject id patch =>
      rw [run, reply_snd]
      exact effect_updateObject hSound id patch
  | removeResource | removePerson | removeGroup | removeObject =>
      rw [run, reply_snd]
      exact effect_remove (by decide) _ _
  | removeGroupType uuid =>
      rw [run, reply_snd]
      exact effect_removeGroupType hSynced uuid
  | addPersonRelation resource person relation =>
      rw [run, reply_snd]
      exact effect_addPersonRelation c resource person relation
  | addGroupRelation resource group index tag =>
      rw [run, reply_snd]
      exact effect_addGroupRelation hSynced resource group index tag
  | removeObjects | removePersonRelations | removeGroupRelations =>
      rw [run, reply_snd]
      exact effect_removeLinks (by decide) _ _
  | _ =>
      rw [run]
      exact .nothing

end Step

end Shelfmark
