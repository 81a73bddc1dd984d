import Shelfmark.Proofs.Catalogue.Finder
import Shelfmark.Proofs.Catalogue.Identity
import Shelfmark.Proofs.Query.Spelling

/-!
# Identifiers are the same in every spelling

Capitals and blanks around an identifier mean nothing, wherever it is given: as an argument of
its own, in a record or a change, or in a criterion. `Step.canonical` is a step with every
identifier in its normal form and nothing else changed. Two steps that differ in the spelling of
identifiers only have the same one.

Every operation normalizes on its own, and a place where it is forgotten would store or look up
a row that nothing finds again. So each operation is compared with itself on canonical arguments,
answer and catalogue together, and from that a step with the canonical step. The other half of
the contract is in the tables: they hold normal forms alone.
-/

namespace Shelfmark

open Shelfmark.Text

/-! ## Arguments -/

def Resource.canonical (r : Resource) : Resource := { r with uuid := normalize r.uuid }

def Person.canonical (p : Person) : Person := { p with uuid := normalize p.uuid }

def GroupType.canonical (t : GroupType) : GroupType := { t with uuid := normalize t.uuid }

def Group.canonical (g : Group) : Group :=
  { g with uuid := normalize g.uuid, groupType := g.groupType.canonical }

def ObjectRelation.canonical (o : ObjectRelation) : ObjectRelation :=
  { o with uuid := normalize o.uuid, resourceUuid := normalize o.resourceUuid }

def GroupPatch.canonical (p : GroupPatch) : GroupPatch :=
  { p with groupType := p.groupType.map normalize }

def ObjectPatch.canonical (p : ObjectPatch) : ObjectPatch := { p with uuid := p.uuid.map normalize }

namespace Step

mutual

/-- The step with every identifier in its normal form: those of records that are asked for, those
in records and changes, and those in criteria. Identifiers that are supplied for new records are
no arguments. -/
def canonical : Step → Step
  | addResource fresh record => addResource fresh record.canonical
  | getResource uuid => getResource (normalize uuid)
  | updateResource now uuid patch => updateResource now (normalize uuid) patch
  | removeResource uuid => removeResource (normalize uuid)
  | addPerson fresh record => addPerson fresh record.canonical
  | getPerson uuid => getPerson (normalize uuid)
  | updatePerson uuid patch => updatePerson (normalize uuid) patch
  | removePerson uuid => removePerson (normalize uuid)
  | addGroupType fresh record => addGroupType fresh record.canonical
  | getGroupType uuid => getGroupType (normalize uuid)
  | updateGroupType uuid patch => updateGroupType (normalize uuid) patch
  | removeGroupType uuid => removeGroupType (normalize uuid)
  | addGroup fresh record => addGroup fresh record.canonical
  | getGroup uuid => getGroup (normalize uuid)
  | updateGroup uuid patch => updateGroup (normalize uuid) patch.canonical
  | removeGroup uuid => removeGroup (normalize uuid)
  | addObject fresh resource record => addObject fresh (normalize resource) record.canonical
  | updateObject id patch => updateObject id patch.canonical
  | removeObjects resource uuid role tag =>
      removeObjects (normalize resource) (uuid.map normalize) role tag
  | addPersonRelation resource person relation =>
      addPersonRelation (normalize resource) (normalize person) relation
  | removePersonRelations resource person relation =>
      removePersonRelations (normalize resource) (person.map normalize) relation
  | addGroupRelation resource group index tag =>
      addGroupRelation (normalize resource) (normalize group) index tag
  | removeGroupRelations resource group groupType tag =>
      removeGroupRelations (normalize resource) (group.map normalize) (groupType.map normalize) tag
  | findResources criterion options =>
      findResources (criterion.map (Criterion.canonical (.records .resource))) options
  | findPersons criterion options =>
      findPersons (criterion.map (Criterion.canonical (.records .person))) options
  | findGroups criterion options =>
      findGroups (criterion.map (Criterion.canonical (.records .group))) options
  | findGroupTypes criterion options =>
      findGroupTypes (criterion.map (Criterion.canonical (.records .groupType))) options
  | findObjects criterion options =>
      findObjects (criterion.map (Criterion.canonical (.records .objectRelation))) options
  | count kind criterion => count kind (criterion.map (Criterion.canonical (.records kind)))
  | relatedObjects resource criterion options =>
      relatedObjects (normalize resource)
        (criterion.map (Criterion.canonical (.records .objectRelation))) options
  | relatedPersons resource criterion options =>
      relatedPersons (normalize resource)
        (criterion.map (Criterion.canonical (.linked .person .personRelation))) options
  | relatedGroups resource criterion options =>
      relatedGroups (normalize resource)
        (criterion.map (Criterion.canonical (.linked .group .groupRelation))) options
  | getAmalgam uuid => getAmalgam (normalize uuid)
  | findAmalgams criterion options =>
      findAmalgams (criterion.map (Criterion.canonical (.records .resource))) options
  | transaction steps => transaction (canonicalAll steps)
  | s => s

/-- The steps with every identifier in its normal form. -/
def canonicalAll : List Step → List Step
  | [] => []
  | s :: steps => s.canonical :: canonicalAll steps

end

end Step

/-! ## Operations -/

namespace Catalogue

variable (c : Catalogue)

@[simp] theorem chooseUuid_normalize (given fresh : String) :
    chooseUuid (normalize given) fresh = chooseUuid given fresh := by
  simp only [chooseUuid, normalize_normalize]

@[simp] theorem uuidCell_normalize (uuid : String) : uuidCell (normalize uuid) = uuidCell uuid := by
  simp only [uuidCell, normalize_normalize]

@[simp] theorem getPerson_normalize (uuid : String) :
    c.getPerson (normalize uuid) = c.getPerson uuid := by
  simp only [getPerson, uuidCell_normalize, normalize_normalize]

@[simp] theorem getGroup_normalize (uuid : String) :
    c.getGroup (normalize uuid) = c.getGroup uuid := by
  simp only [getGroup, uuidCell_normalize, normalize_normalize]

@[simp] theorem getGroupType_normalize (uuid : String) :
    c.getGroupType (normalize uuid) = c.getGroupType uuid := by
  simp only [getGroupType, normalize_normalize]

/-! ### Changes of records -/

/-- The assignments with every identifier in its normal form. -/
private def canonicalAssignments (assignments : Assignments) : Assignments :=
  assignments.map fun a => (a.1, a.1.type.canonical a.2)

private theorem storedValues_canonical (kind : Kind) (assignments : Assignments) :
    storedValues kind (canonicalAssignments assignments) = storedValues kind assignments := by
  induction assignments with
  | nil => rfl
  | cons a rest ih =>
      unfold canonicalAssignments at ih ⊢
      simp only [List.map_cons, storedValues, Field.toCell_canonical, ih]

private theorem updateRecord_canonical (kind : Kind) (key : FieldValue) (shown : String)
    (assignments : Assignments) :
    c.updateRecord kind key shown (canonicalAssignments assignments) =
      c.updateRecord kind key shown assignments := by
  simp only [updateRecord, storedValues_canonical]
  simp only [canonicalAssignments, List.isEmpty_map]

private theorem groupPatch_canonical (patch : GroupPatch) :
    patch.canonical.assignments = canonicalAssignments patch.assignments := by
  obtain ⟨title, titleSort, groupType⟩ := patch
  cases title <;> cases titleSort <;> cases groupType <;> rfl

private theorem objectPatch_canonical (patch : ObjectPatch) :
    patch.canonical.assignments = canonicalAssignments patch.assignments := by
  obtain ⟨uuid, role, tag⟩ := patch
  cases uuid <;> cases role <;> cases tag <;> rfl

theorem updateGroup_canonical (uuid : String) (patch : GroupPatch) :
    c.updateGroup (normalize uuid) patch.canonical = c.updateGroup uuid patch := by
  have hRefused : c.refusedGroupChange (normalize uuid) patch.canonical =
      c.refusedGroupChange (normalize uuid) patch := by
    cases hType : patch.groupType <;>
      simp only [refusedGroupChange, GroupPatch.canonical, hType, Option.map_none, Option.map_some,
        getGroupType_normalize]
  simp only [updateGroup, normalize_normalize, hRefused, groupPatch_canonical,
    updateRecord_canonical]

theorem updateObject_canonical (id : Int64) (patch : ObjectPatch) :
    c.updateObject id patch.canonical = c.updateObject id patch := by
  simp only [updateObject, objectPatch_canonical, updateRecord_canonical]

/-! ### New records -/

theorem addGroup_canonical (fresh : String) (given : Group) :
    c.addGroup fresh given.canonical = c.addGroup fresh given := by
  simp only [addGroup, Group.canonical, GroupType.canonical, getGroupType_normalize,
    chooseUuid_normalize]

theorem addObject_canonical (fresh resource : String) (given : ObjectRelation) :
    c.addObject fresh (normalize resource) given.canonical = c.addObject fresh resource given := by
  simp only [addObject, ObjectRelation.canonical, getResource_normalize, chooseUuid_normalize]

theorem addPersonRelation_canonical (resource person : String) (relation : PersonRole) :
    c.addPersonRelation (normalize resource) (normalize person) relation =
      c.addPersonRelation resource person relation := by
  simp only [addPersonRelation, getResource_normalize, getPerson_normalize]

theorem addGroupRelation_canonical (resource group : String) (index : Option Int64)
    (tag : Option String) :
    c.addGroupRelation (normalize resource) (normalize group) index tag =
      c.addGroupRelation resource group index tag := by
  simp only [addGroupRelation, getResource_normalize, getGroup_normalize]

/-! ### Removals by pattern -/

private theorem map_normalize (uuid : Option String) :
    (uuid.map normalize).map normalize = uuid.map normalize := by
  cases uuid <;> simp

theorem removeObjects_canonical (resource : String) (uuid : Option String)
    (role : Option ObjectRole) (tag : Option String) :
    c.removeObjects (normalize resource) (uuid.map normalize) role tag =
      c.removeObjects resource uuid role tag := by
  simp only [removeObjects, removeLinks, uuidCell_normalize, map_normalize]

theorem removePersonRelations_canonical (resource : String) (person : Option String)
    (relation : Option PersonRole) :
    c.removePersonRelations (normalize resource) (person.map normalize) relation =
      c.removePersonRelations resource person relation := by
  simp only [removePersonRelations, removeLinks, uuidCell_normalize, map_normalize]

theorem removeGroupRelations_canonical (resource : String) (group groupType tag : Option String) :
    c.removeGroupRelations (normalize resource) (group.map normalize) (groupType.map normalize)
        tag =
      c.removeGroupRelations resource group groupType tag := by
  cases groupType <;>
    simp only [removeGroupRelations, removeLinks, uuidCell_normalize, map_normalize,
      Option.map_none, Option.map_some]

/-! ### Finders -/

variable (criterion : Option Criterion) (options : Options)

theorem find_canonical (α : Type) [Storable α] :
    c.find α (criterion.map (Criterion.canonical (.records (Storable.kind α)))) options =
      c.find α criterion options := by
  simp only [find, Tables.select_canonical]

theorem count_canonical (kind : Kind) :
    c.count kind (criterion.map (Criterion.canonical (.records kind))) = c.count kind criterion := by
  simp only [count, Tables.filterBy_canonical]

theorem relatedObjects_canonical (resource : String) :
    c.relatedObjects (normalize resource)
        (criterion.map (Criterion.canonical (.records .objectRelation))) options =
      c.relatedObjects resource criterion options := by
  simp only [relatedObjects, normalize_normalize, uuidCell_normalize, Tables.select_canonical]

private theorem related_canonical (α β : Type) [Storable α] [Storable β] (reference : String)
    (resource : String) :
    c.related α β reference (normalize resource)
        (criterion.map (Criterion.canonical (.linked (Storable.kind α) (Storable.kind β)))) options =
      c.related α β reference resource criterion options := by
  simp only [related, normalize_normalize, uuidCell_normalize, Tables.select_canonical]

theorem relatedPersons_canonical (resource : String) :
    c.relatedPersons (normalize resource)
        (criterion.map (Criterion.canonical (.linked .person .personRelation))) options =
      c.relatedPersons resource criterion options :=
  congrArg (Except.map _) (c.related_canonical criterion options Person PersonLink _ resource)

theorem relatedGroups_canonical (resource : String) :
    c.relatedGroups (normalize resource)
        (criterion.map (Criterion.canonical (.linked .group .groupRelation))) options =
      c.relatedGroups resource criterion options :=
  congrArg (Except.map _) (c.related_canonical criterion options Group GroupLink _ resource)

end Catalogue

/-! ## Steps -/

namespace Step

open Catalogue (reply)

mutual

/-- **A step does what its canonical form does**: the answer is the same, or the fault, and so is
the catalogue that is left. -/
theorem run_canonical (c : Catalogue) (s : Step) : s.canonical.run c = s.run c := by
  cases s with
  | addResource fresh record =>
      simp only [canonical, run, Catalogue.addResource, Resource.canonical,
        Catalogue.chooseUuid_normalize]
  | getResource uuid => simp only [canonical, run, Catalogue.getResource_normalize]
  | updateResource now uuid patch =>
      simp only [canonical, run, Catalogue.updateResource, normalize_normalize]
  | removeResource uuid =>
      simp only [canonical, run, Catalogue.removeResource, Catalogue.uuidCell_normalize,
        normalize_normalize]
  | addPerson fresh record =>
      simp only [canonical, run, Catalogue.addPerson, Person.canonical,
        Catalogue.chooseUuid_normalize]
  | getPerson uuid => simp only [canonical, run, Catalogue.getPerson_normalize]
  | updatePerson uuid patch =>
      simp only [canonical, run, Catalogue.updatePerson, normalize_normalize]
  | removePerson uuid =>
      simp only [canonical, run, Catalogue.removePerson, Catalogue.uuidCell_normalize,
        normalize_normalize]
  | addGroupType fresh record =>
      simp only [canonical, run, Catalogue.addGroupType, GroupType.canonical,
        Catalogue.chooseUuid_normalize]
  | getGroupType uuid => simp only [canonical, run, Catalogue.getGroupType_normalize]
  | updateGroupType uuid patch =>
      simp only [canonical, run, Catalogue.updateGroupType, normalize_normalize]
  | removeGroupType uuid =>
      simp only [canonical, run, Catalogue.removeGroupType, normalize_normalize]
  | addGroup fresh record => simp only [canonical, run, Catalogue.addGroup_canonical]
  | getGroup uuid => simp only [canonical, run, Catalogue.getGroup_normalize]
  | updateGroup uuid patch => simp only [canonical, run, Catalogue.updateGroup_canonical]
  | removeGroup uuid =>
      simp only [canonical, run, Catalogue.removeGroup, Catalogue.uuidCell_normalize,
        normalize_normalize]
  | addObject fresh resource record => simp only [canonical, run, Catalogue.addObject_canonical]
  | updateObject id patch => simp only [canonical, run, Catalogue.updateObject_canonical]
  | removeObjects resource uuid role tag =>
      simp only [canonical, run, Catalogue.removeObjects_canonical]
  | addPersonRelation resource person relation =>
      simp only [canonical, run, Catalogue.addPersonRelation_canonical]
  | removePersonRelations resource person relation =>
      simp only [canonical, run, Catalogue.removePersonRelations_canonical]
  | addGroupRelation resource group index tag =>
      simp only [canonical, run, Catalogue.addGroupRelation_canonical]
  | removeGroupRelations resource group groupType tag =>
      simp only [canonical, run, Catalogue.removeGroupRelations_canonical]
  | findResources criterion options =>
      have hSame := c.find_canonical criterion options Resource
      exact congrArg (c.answer · .resources) hSame
  | findPersons criterion options =>
      have hSame := c.find_canonical criterion options Person
      exact congrArg (c.answer · .persons) hSame
  | findGroups criterion options =>
      have hSame := c.find_canonical criterion options Group
      exact congrArg (c.answer · .groups) hSame
  | findGroupTypes criterion options =>
      have hSame := c.find_canonical criterion options GroupType
      exact congrArg (c.answer · .groupTypes) hSame
  | findObjects criterion options =>
      have hSame := c.find_canonical criterion options ObjectRelation
      exact congrArg (c.answer · .objects) hSame
  | count kind criterion => simp only [canonical, run, Catalogue.count_canonical]
  | relatedObjects resource criterion options =>
      simp only [canonical, run, Catalogue.relatedObjects_canonical]
  | relatedPersons resource criterion options =>
      simp only [canonical, run, Catalogue.relatedPersons_canonical]
  | relatedGroups resource criterion options =>
      simp only [canonical, run, Catalogue.relatedGroups_canonical]
  | getAmalgam uuid =>
      simp only [canonical, run, Catalogue.getAmalgam, Catalogue.getResource_normalize]
  | findAmalgams criterion options =>
      have hSame := c.find_canonical criterion options Resource
      simp only [canonical, run, Catalogue.findAmalgams]
      rw [show Kind.resource = Storable.kind Resource from rfl, hSame]
  | transaction steps => simp only [canonical, run, runAll_canonical c.begin steps]
  | _ => rfl

/-- Steps one after the other do what their canonical forms do. -/
theorem runAll_canonical (c : Catalogue) (steps : List Step) :
    runAll c (canonicalAll steps) = runAll c steps := by
  cases steps with
  | nil => rfl
  | cons s steps =>
      rw [canonicalAll, runAll, runAll, run_canonical c s]
      split
      · rfl
      · rename_i after _
        rw [runAll_canonical after steps]

end

end Step

/-! ## Identifiers in the tables -/

/-- Whether a text is an identifier in its normal form. -/
structure IsIdentifier (s : String) : Prop where
  there : s ≠ ""
  trimmed : trim s = s
  lowered : lowercase s = s

theorem isIdentifier_of_normal {s : String} (h : normalize s = s) (hThere : s ≠ "") :
    IsIdentifier s := by
  have hChars : ∀ c ∈ s.toList, IsLowered c := by
    rw [← h, toList_normalize]
    exact fun c hc => lowered_of_mem_lowerFrom hc
  have hLowered : lowercase s = s := by
    rw [← String.toList_inj, toList_lowercase, lowerFrom_of_lowered hChars]
  exact ⟨hThere, lowercase_eq_normalize_iff.1 (hLowered.trans h.symm), hLowered⟩

private theorem given_of_isIdentifier {kind : Kind} {f : Field} (hField : f ∈ kind.fields)
    (hType : f.type.isIdentifier = true) : f ∈ kind.givenFields ∧ f.nullable = false := by
  revert f
  cases kind <;> decide

private theorem isIdentifier_of_holds {type : FieldType} (hType : type.isIdentifier = true)
    {cell : Cell} (h : type.Holds cell) : ∃ uuid, cell = .text uuid ∧ IsIdentifier uuid := by
  cases type with
  | identifier | foreign =>
      cases cell with
      | text uuid => exact ⟨uuid, rfl, isIdentifier_of_normal h.1 h.2⟩
      | _ => cases h
  | _ => cases hType

/-- The identifiers in the columns of a row are in their normal form. -/
theorem Row.Fits.isIdentifier {kind : Kind} {row : Row} (h : row.Fits kind) {f : Field}
    (hField : f ∈ kind.fields) (hType : f.type.isIdentifier = true) :
    ∃ uuid, row.cell kind f.column = .text uuid ∧ IsIdentifier uuid := by
  obtain ⟨hGiven, hNull⟩ := given_of_isIdentifier hField hType
  exact isIdentifier_of_holds hType ((h.stores hGiven).holds hNull)

namespace Catalogue

private theorem isIdentifier_of_isGenerated {s : String} (h : isGenerated s = true) :
    IsIdentifier s := by
  refine isIdentifier_of_normal (normalize_of_isGenerated h) ?_
  rintro rfl
  cases h

/-- **Identifiers are the same in every spelling.** Steps that differ in nothing but capitals and
blanks around identifiers have the same outcome: the same answer or fault, and the same
catalogue. And the identifiers in the tables are not empty, trimmed and in lower case, those of
records and those that refer to records, and the one of the catalogue itself if it came from the
generator. -/
theorem Reachable.spelling_irrelevant {c : Catalogue} (h : Reachable c) :
    (∀ s s' : Step, s.canonical = s'.canonical → s.run c = s'.run c) ∧
      (∀ kind, ∀ row ∈ c.tables.rows kind, ∀ f ∈ kind.fields, f.type.isIdentifier = true →
        ∃ uuid, row.cell kind f.column = .text uuid ∧ IsIdentifier uuid) ∧
      (isGenerated c.identity = true →
        ∃ uuid, c.tables.option? "uuid" = some uuid ∧ IsIdentifier uuid) := by
  refine ⟨?_, ?_, ?_⟩
  · intro s s' hSame
    rw [← s.run_canonical, hSame, s'.run_canonical]
  · intro kind row hRow f hField hType
    exact (h.inv.synced.sound.fits kind row hRow).isIdentifier hField hType
  · intro hGenerated
    have hNoted : c.tables.Notes c.identity := h.identified c.tables List.mem_cons_self
    exact ⟨c.identity, hNoted, isIdentifier_of_isGenerated hGenerated⟩

/-- A group is changed and then found, with identifiers in capitals and with blanks around them. -/
theorem spelling_irrelevant_sample :
    Reachable sample ∧
      (Step.transaction
        [.updateGroup " S" { title := some "Stories", groupType := some seriesTypeUuid.toUpper },
          .relatedGroups "F\n" (some (.equal "uuid" (.text "S "))) {}]).run sample =
        (Step.transaction
          [.updateGroup "s" { title := some "Stories", groupType := some seriesTypeUuid },
            .relatedGroups "f" (some (.equal "uuid" (.text "s"))) {}]).run sample ∧
      isGenerated sample.identity = true := by
  obtain ⟨hSame, -, -⟩ := Reachable.spelling_irrelevant reachable_sample
  have hBefore : normalize " S" = normalize "s" := by decide +kernel
  have hBehind : normalize "S " = normalize "s" := by decide +kernel
  have hResource : normalize "F\n" = normalize "f" := by decide +kernel
  have hCapitals : normalize seriesTypeUuid.toUpper = seriesTypeUuid := by decide +kernel
  have hSeries : normalize seriesTypeUuid = seriesTypeUuid :=
    (wellKnownTypes_normal ⟨seriesTypeUuid, "Series", true, true⟩ (by decide)).1
  have hValue : ∀ uuid, (Scope.linked .group .groupRelation).canonicalValue "uuid" (.text uuid) =
      .text (normalize uuid) := fun _ => rfl
  refine ⟨reachable_sample, hSame _ _ ?_, by decide +kernel⟩
  simp only [Step.canonical, Step.canonicalAll, GroupPatch.canonical, Criterion.canonical,
    Option.map_some, hBefore, hBehind, hResource, hCapitals, hSeries, hValue]

end Catalogue

end Shelfmark
