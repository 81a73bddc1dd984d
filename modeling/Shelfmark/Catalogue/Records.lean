import Shelfmark.Catalogue.Basic

/-!
# Resources, persons, groups and their types

Adding, reading, changing and removing records. Identifiers are taken in their
normal form wherever they are given.

Rules about group types are tested before a change is written. A type becomes
exclusive only if no resource relates to several of its groups, and it becomes
unordered only if no relation to its groups carries an index. A group moves to
another type under the same conditions. Names of types are unique without regard
to case, well-known types stay, and so do types that groups have.
-/

namespace Shelfmark

namespace Catalogue

/-! ## Resources -/

/-- Adds a resource. -/
def addResource (c : Catalogue) (fresh : String) (given : Resource) : Outcome Resource :=
  let record := { given with uuid := chooseUuid given.uuid fresh }
  c.outcome ((c.insertRecord record).map fun p => (record, p.2))

/-- The resource with an identifier. -/
def getResource (c : Catalogue) (uuid : String) : Except Fault Resource :=
  c.fetch Resource (uuidCell uuid) (normalize uuid)

/-- Changes a resource. The date of its last change moves to the time of the clock,
and at least one second forward. -/
def updateResource (c : Catalogue) (now : Timestamp) (uuid : String) (patch : ResourcePatch) :
    Outcome Resource :=
  let normal := normalize uuid
  c.outcomeThen (fun changed => changed.getResource normal) <|
    match c.getResource normal with
    | .error fault => .error fault
    | .ok current =>
        c.updateRecord .resource (.text normal) normal
          (patch.stamped (.after now current.lastModifyDate))

/-- Removes a resource and its relations. -/
def removeResource (c : Catalogue) (uuid : String) : Outcome Unit :=
  c.outcome ((c.removeRecord .resource (uuidCell uuid) (normalize uuid)).map fun r => ((), r))

/-! ## Persons -/

/-- Adds a person. -/
def addPerson (c : Catalogue) (fresh : String) (given : Person) : Outcome Person :=
  let record := { given with uuid := chooseUuid given.uuid fresh }
  c.outcome ((c.insertRecord record).map fun p => (record, p.2))

/-- The person with an identifier. -/
def getPerson (c : Catalogue) (uuid : String) : Except Fault Person :=
  c.fetch Person (uuidCell uuid) (normalize uuid)

/-- Changes a person. -/
def updatePerson (c : Catalogue) (uuid : String) (patch : PersonPatch) : Outcome Person :=
  let normal := normalize uuid
  c.outcomeThen (fun changed => changed.getPerson normal)
    (c.updateRecord .person (.text normal) normal patch.assignments)

/-- Removes a person and its relations. -/
def removePerson (c : Catalogue) (uuid : String) : Outcome Unit :=
  c.outcome ((c.removeRecord .person (uuidCell uuid) (normalize uuid)).map fun r => ((), r))

/-! ## Group types -/

/-- The group type with an identifier. -/
def getGroupType (c : Catalogue) (uuid : String) : Except Fault GroupType :=
  match c.types.find? (normalize uuid) with
  | some t => .ok t
  | none => .error (.notFound .groupType (normalize uuid))

/-- The group type with a name. -/
def getGroupTypeNamed (c : Catalogue) (name : String) : Except Fault GroupType :=
  match c.types.findNamed? name with
  | some t => .ok t
  | none => .error (.notFound .groupType name)

/-- All group types by name. -/
def groupTypes (c : Catalogue) : List GroupType := c.types.all

/-- Adds a group type under a name that no other has. -/
def addGroupType (c : Catalogue) (fresh : String) (given : GroupType) : Outcome GroupType :=
  let record := { given with uuid := chooseUuid given.uuid fresh }
  c.outcome <|
    match c.types.findNamed? record.name with
    | some _ => .error (.duplicate .groupType (.groupTypeName record.name))
    | none =>
        (c.insertRecord record).map fun p => (record, { p.2 with types := p.2.types.keep record })

/-- The link rows of a type's groups. -/
def linksOfType (c : Catalogue) (type : Cell) : List Row :=
  c.tables.groupLinks.filter (c.tables.leadsTo type)

/-- Cells without repetition. -/
def distinctCells (cells : List Cell) : List Cell :=
  cells.foldr (fun cell kept => if kept.any cell.same then kept else cell :: kept) []

/-- How many resources relate to several groups of a type. -/
def crowdedCount (c : Catalogue) (type : Cell) : Nat :=
  let resources := (c.linksOfType type).map fun link => link.cell .groupRelation "resource_uuid"
  (distinctCells resources).countP fun resource => decide (1 < resources.countP resource.same)

/-- How many relations to groups of a type carry an index. -/
def indexedCount (c : Catalogue) (type : Cell) : Nat :=
  (c.linksOfType type).countP Tables.isIndexed

/-- A change of a type that its relations, or another type's name, do not allow. -/
def refusedTypeChange? (c : Catalogue) (t : GroupType) (patch : GroupTypePatch) : Option Fault :=
  let type : Cell := .text t.uuid
  let crowded := c.crowdedCount type
  let indexed := c.indexedCount type
  if patch.exclusive = some true && !t.exclusive && decide (0 < crowded) then
    some (.integrity .groupType (.crowdedResources crowded t.name))
  else if patch.ordered = some false && t.ordered && decide (0 < indexed) then
    some (.integrity .groupType (.indexedRelations indexed t.name))
  else
    match patch.name with
    | none => none
    | some name =>
        match c.types.findNamed? name with
        | none => none
        | some other =>
            if other.uuid = t.uuid then none else some (.duplicate .groupType (.groupTypeName name))

/-- Changes a group type. -/
def updateGroupType (c : Catalogue) (uuid : String) (patch : GroupTypePatch) : Outcome GroupType :=
  let normal := normalize uuid
  c.outcome <|
    match c.getGroupType normal with
    | .error fault => .error fault
    | .ok t =>
        match c.refusedTypeChange? t patch with
        | some fault => .error fault
        | none =>
            (c.updateRecord .groupType (.text normal) normal patch.assignments).map fun changed =>
              (patch.apply t, { changed with types := changed.types.keep (patch.apply t) })

/-- Removes a group type that is not well known and that no group has. -/
def removeGroupType (c : Catalogue) (uuid : String) : Outcome Unit :=
  let normal := normalize uuid
  c.outcome <|
    match c.getGroupType normal with
    | .error fault => .error fault
    | .ok t =>
        if isWellKnownType normal then .error (.integrity .groupType (.wellKnownType t.name))
        else
          match c.count .group (some (.equal "groupType" (.text normal))) with
          | .error fault => .error fault
          | .ok 0 =>
              (c.removeRecord .groupType (.text normal) normal).map fun removed =>
                ((), { removed with types := removed.types.forget normal })
          | .ok groups => .error (.integrity .groupType (.typeInUse groups t.name))

/-! ## Groups -/

/-- Adds a group of a type that is there. -/
def addGroup (c : Catalogue) (fresh : String) (given : Group) : Outcome Group :=
  c.outcome <|
    match c.getGroupType given.groupType.uuid with
    | .error fault => .error fault
    | .ok t =>
        let record := { given with uuid := chooseUuid given.uuid fresh, groupType := t }
        (c.insertRecord record).map fun p => (record, p.2)

/-- The group with an identifier. -/
def getGroup (c : Catalogue) (uuid : String) : Except Fault Group :=
  c.fetch Group (uuidCell uuid) (normalize uuid)

/-- How many resources would relate to several groups of a type if a group had it. -/
def wouldCrowdCount (c : Catalogue) (group type : Cell) : Nat :=
  let links := (c.tables.linksToGroup group).filter (c.tables.wouldCrowd group type)
  (distinctCells (links.map fun link => link.cell .groupRelation "resource_uuid")).length

/-- How many relations to a group carry an index. -/
def groupIndexCount (c : Catalogue) (group : Cell) : Nat :=
  (c.tables.linksToGroup group).countP Tables.isIndexed

/-- A move of a group to a type that its relations do not allow. -/
def refusedMove? (c : Catalogue) (group : String) (target : GroupType) : Option Fault :=
  let crowded := c.wouldCrowdCount (.text group) (.text target.uuid)
  let indexed := c.groupIndexCount (.text group)
  if target.exclusive && decide (0 < crowded) then
    some (.integrity .group (.groupWouldCrowd crowded target.name))
  else if !target.ordered && decide (0 < indexed) then
    some (.integrity .group (.groupHasIndexes indexed target.name))
  else none

/-- What stands against a change of a group. -/
def refusedGroupChange (c : Catalogue) (group : String) (patch : GroupPatch) : Except Fault Unit :=
  match patch.groupType with
  | none => .ok ()
  | some type =>
      match c.getGroupType type with
      | .error fault => .error fault
      | .ok target =>
          match c.refusedMove? group target with
          | some fault => .error fault
          | none => .ok ()

/-- Changes a group. -/
def updateGroup (c : Catalogue) (uuid : String) (patch : GroupPatch) : Outcome Group :=
  let normal := normalize uuid
  c.outcomeThen (fun changed => changed.getGroup normal) <|
    match c.refusedGroupChange normal patch with
    | .error fault => .error fault
    | .ok () => c.updateRecord .group (.text normal) normal patch.assignments

/-- Removes a group and its relations. -/
def removeGroup (c : Catalogue) (uuid : String) : Outcome Unit :=
  c.outcome ((c.removeRecord .group (uuidCell uuid) (normalize uuid)).map fun r => ((), r))

end Catalogue

end Shelfmark
