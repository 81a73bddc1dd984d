import Shelfmark.Catalogue.Relations
import Shelfmark.Catalogue.Transaction

/-!
# Steps

Everything that can be done with a catalogue, as data: a step with its arguments,
the reply to it, and the catalogue after it. Fresh identifiers and the time of the
clock are arguments, so a run of steps has one outcome.

The public steps keep the rules of the catalogue by their own checks. Direct writes
go past them to the tables, so the rules of the tables act alone, and the group
types in memory are not told.
-/

namespace Shelfmark

/-- A write to a table past the checks of the catalogue. -/
inductive DirectWrite where
  | insert (kind : Kind) (cells : List Cell)
  | set (kind : Kind) (key : Cell) (property : Field) (cell : Cell)
  | delete (kind : Kind) (key : Cell)
  deriving DecidableEq, Repr

/-- Something to do with a catalogue. -/
inductive Step where
  | addResource (fresh : String) (record : Resource)
  | getResource (uuid : String)
  | updateResource (now : Timestamp) (uuid : String) (patch : ResourcePatch)
  | removeResource (uuid : String)
  | addPerson (fresh : String) (record : Person)
  | getPerson (uuid : String)
  | updatePerson (uuid : String) (patch : PersonPatch)
  | removePerson (uuid : String)
  | addGroupType (fresh : String) (record : GroupType)
  | getGroupType (uuid : String)
  | getGroupTypeNamed (name : String)
  | groupTypes
  | updateGroupType (uuid : String) (patch : GroupTypePatch)
  | removeGroupType (uuid : String)
  | addGroup (fresh : String) (record : Group)
  | getGroup (uuid : String)
  | updateGroup (uuid : String) (patch : GroupPatch)
  | removeGroup (uuid : String)
  | addObject (fresh resource : String) (record : ObjectRelation)
  | getObject (id : Int64)
  | updateObject (id : Int64) (patch : ObjectPatch)
  | removeObject (id : Int64)
  | removeObjects (resource : String) (uuid : Option String) (role : Option ObjectRole)
      (tag : Option String)
  | addPersonRelation (resource person : String) (relation : PersonRole)
  | removePersonRelations (resource : String) (person : Option String)
      (relation : Option PersonRole)
  | addGroupRelation (resource group : String) (index : Option Int64) (tag : Option String)
  | removeGroupRelations (resource : String) (group groupType tag : Option String)
  | findResources (criterion : Option Criterion) (options : Options)
  | findPersons (criterion : Option Criterion) (options : Options)
  | findGroups (criterion : Option Criterion) (options : Options)
  | findGroupTypes (criterion : Option Criterion) (options : Options)
  | findObjects (criterion : Option Criterion) (options : Options)
  | count (kind : Kind) (criterion : Option Criterion)
  | relatedObjects (resource : String) (criterion : Option Criterion) (options : Options)
  | relatedPersons (resource : String) (criterion : Option Criterion) (options : Options)
  | relatedGroups (resource : String) (criterion : Option Criterion) (options : Options)
  | getAmalgam (uuid : String)
  | findAmalgams (criterion : Option Criterion) (options : Options)
  | begin
  | commit
  | rollback
  | transaction (steps : List Step)
  | depth
  | created
  | cachedTypes
  | getOption (name : String)
  | setOption (name value : String)
  | summaries
  | direct (write : DirectWrite)
  /-- A step whose arguments make no sense: it fails and changes nothing. -/
  | refused (fault : Fault)

/-- The answer to a step. -/
inductive Reply where
  | done
  | resource (record : Resource)
  | person (record : Person)
  | group (record : Group)
  | groupType (record : GroupType)
  | object (record : ObjectRelation)
  | resources (records : List Resource)
  | persons (records : List Person)
  | groups (records : List Group)
  | groupTypes (records : List GroupType)
  | objects (records : List ObjectRelation)
  | relatedPersons (records : List RelatedPerson)
  | relatedGroups (records : List RelatedGroup)
  | amalgam (record : Amalgam)
  | amalgams (records : List Amalgam)
  | number (n : Nat)
  | flag (value : Bool)
  | option (value : Option String)
  | summaries (rows : List Summary)
  /-- The replies to the steps of a transaction, whether it was kept, and the fault of
  its end. -/
  | transaction (replies : List (Except Fault Reply)) (committed : Bool) (fault : Option Fault)

namespace Catalogue

/-- Writes past the checks; tells how many rows were written. -/
def write (c : Catalogue) (w : DirectWrite) : Outcome Nat :=
  let changed : Except Fault (Tables × Nat) :=
    match w with
    | .insert kind cells => (c.tables.insert kind cells).map fun p => (p.1, 1)
    | .set kind key property cell => c.tables.update kind key [(property, cell)]
    | .delete kind key => c.tables.remove kind key
  c.outcome (changed.map fun p => (p.2, { c with tables := p.1 }))

/-- The summaries in the order of the identifiers of their resources. -/
def sortedSummaries (c : Catalogue) : List Summary :=
  c.tables.summaries.mergeSort fun a b => a.uuid.order .binary b.uuid != .gt

/-- The outcome with its answer as a reply. -/
def reply {α : Type} (o : Outcome α) (f : α → Reply) : Outcome Reply := (o.1.map f, o.2)

/-- The outcome of a step that only reads. -/
def answer {α : Type} (c : Catalogue) (result : Except Fault α) (f : α → Reply) : Outcome Reply :=
  (result.map f, c)

end Catalogue

namespace Step

open Catalogue (reply)

mutual

/-- Does a step. -/
def run (c : Catalogue) : Step → Outcome Reply
  | addResource fresh record => reply (c.addResource fresh record) .resource
  | getResource uuid => c.answer (c.getResource uuid) .resource
  | updateResource now uuid patch => reply (c.updateResource now uuid patch) .resource
  | removeResource uuid => reply (c.removeResource uuid) fun _ => .done
  | addPerson fresh record => reply (c.addPerson fresh record) .person
  | getPerson uuid => c.answer (c.getPerson uuid) .person
  | updatePerson uuid patch => reply (c.updatePerson uuid patch) .person
  | removePerson uuid => reply (c.removePerson uuid) fun _ => .done
  | addGroupType fresh record => reply (c.addGroupType fresh record) .groupType
  | getGroupType uuid => c.answer (c.getGroupType uuid) .groupType
  | getGroupTypeNamed name => c.answer (c.getGroupTypeNamed name) .groupType
  | groupTypes => (.ok (.groupTypes c.groupTypes), c)
  | updateGroupType uuid patch => reply (c.updateGroupType uuid patch) .groupType
  | removeGroupType uuid => reply (c.removeGroupType uuid) fun _ => .done
  | addGroup fresh record => reply (c.addGroup fresh record) .group
  | getGroup uuid => c.answer (c.getGroup uuid) .group
  | updateGroup uuid patch => reply (c.updateGroup uuid patch) .group
  | removeGroup uuid => reply (c.removeGroup uuid) fun _ => .done
  | addObject fresh resource record => reply (c.addObject fresh resource record) .object
  | getObject id => c.answer (c.getObject id) .object
  | updateObject id patch => reply (c.updateObject id patch) .object
  | removeObject id => reply (c.removeObject id) fun _ => .done
  | removeObjects resource uuid role tag => reply (c.removeObjects resource uuid role tag) .number
  | addPersonRelation resource person relation =>
      reply (c.addPersonRelation resource person relation) fun _ => .done
  | removePersonRelations resource person relation =>
      reply (c.removePersonRelations resource person relation) .number
  | addGroupRelation resource group index tag =>
      reply (c.addGroupRelation resource group index tag) fun _ => .done
  | removeGroupRelations resource group groupType tag =>
      reply (c.removeGroupRelations resource group groupType tag) .number
  | findResources criterion options => c.answer (c.find Resource criterion options) .resources
  | findPersons criterion options => c.answer (c.find Person criterion options) .persons
  | findGroups criterion options => c.answer (c.find Group criterion options) .groups
  | findGroupTypes criterion options => c.answer (c.find GroupType criterion options) .groupTypes
  | findObjects criterion options => c.answer (c.find ObjectRelation criterion options) .objects
  | count kind criterion => c.answer (c.count kind criterion) .number
  | relatedObjects resource criterion options =>
      c.answer (c.relatedObjects resource criterion options) .objects
  | relatedPersons resource criterion options =>
      c.answer (c.relatedPersons resource criterion options) .relatedPersons
  | relatedGroups resource criterion options =>
      c.answer (c.relatedGroups resource criterion options) .relatedGroups
  | getAmalgam uuid => c.answer (c.getAmalgam uuid) .amalgam
  | findAmalgams criterion options => c.answer (c.findAmalgams criterion options) .amalgams
  | begin => (.ok .done, c.begin)
  | commit => reply c.commit fun _ => .done
  | rollback => reply c.rollback fun _ => .done
  | transaction steps =>
      let work := runAll c.begin steps
      let failed := work.1.any fun r => !r.isOk
      let closed := work.2.finish failed
      let fault :=
        match closed.1 with
        | .ok _ => none
        | .error f => some f
      (.ok (.transaction work.1 (!failed && fault.isNone) fault), closed.2)
  | depth => (.ok (.number c.depth), c)
  | created => (.ok (.flag c.created), c)
  | cachedTypes => (.ok (.number c.types.size), c)
  | getOption name => (.ok (.option (c.tables.option? name)), c)
  | setOption name value => (.ok .done, { c with tables := c.tables.setOption name value })
  | summaries => (.ok (.summaries c.sortedSummaries), c)
  | direct w => reply (c.write w) .number
  | refused fault => (.error fault, c)

/-- Does steps until one fails; gives the replies up to that one. -/
def runAll (c : Catalogue) : List Step → List (Except Fault Reply) × Catalogue
  | [] => ([], c)
  | step :: steps =>
      match step.run c with
      | (.error fault, after) => ([.error fault], after)
      | (.ok r, after) =>
          let rest := runAll after steps
          (.ok r :: rest.1, rest.2)

end

/-- Whether a step belongs to the public operations of the catalogue. -/
def isPublic : Step → Bool
  | setOption _ _ => false
  | direct _ => false
  | transaction steps => allPublic steps
  | _ => true
where
  /-- Whether all steps belong to the public operations. -/
  allPublic : List Step → Bool
    | [] => true
    | step :: steps => step.isPublic && allPublic steps

end Step

end Shelfmark
