import Shelfmark.Catalogue.Records

/-!
# Relations of a resource

Objects, persons and groups are related to resources. Both ends of a relation
exist, and no relation is there twice. An index is only given in a group of an
ordered type, and a resource has one relation at most to the groups of an
exclusive type.

Relations are listed in the order in which they were made, unless another order is
asked for. They are removed by patterns; each part of a pattern that is left out
widens it.
-/

namespace Shelfmark

open Shelfmark.Text

/-- Whether a column of a link row has the text of a pattern, if there is one. -/
def Row.fits (kind : Kind) (row : Row) (column : String) : Option String → Bool
  | none => true
  | some text => (row.cell kind column).same (.text text)

namespace Catalogue

/-- Removes the link rows of a resource that a pattern picks; tells how many. -/
def removeLinks (c : Catalogue) (kind : Kind) (resource : String) (pattern : Row → Bool) :
    Outcome Nat :=
  let removed := c.tables.removeDependents kind fun row =>
    (row.cell kind "resource_uuid").same (uuidCell resource) && pattern row
  (.ok removed.2, { c with tables := removed.1 })

/-! ## Objects -/

/-- Relates an object to a resource. -/
def addObject (c : Catalogue) (fresh resource : String) (given : ObjectRelation) :
    Outcome ObjectRelation :=
  c.outcome <|
    match c.getResource resource with
    | .error fault => .error fault
    | .ok owner =>
        let record :=
          { given with resourceUuid := owner.uuid, uuid := chooseUuid given.uuid fresh }
        (c.insertRecord record).map fun p => ({ record with id := p.1 }, p.2)

/-- The object relation with an identifier. -/
def getObject (c : Catalogue) (id : Int64) : Except Fault ObjectRelation :=
  c.fetch ObjectRelation (.integer id) (writeInt64 id)

/-- Changes an object relation. -/
def updateObject (c : Catalogue) (id : Int64) (patch : ObjectPatch) : Outcome ObjectRelation :=
  c.outcomeThen (fun changed => changed.getObject id)
    (c.updateRecord .objectRelation (.integer id) (writeInt64 id) patch.assignments)

/-- Removes an object relation. -/
def removeObject (c : Catalogue) (id : Int64) : Outcome Unit :=
  c.outcome
    ((c.removeRecord .objectRelation (.integer id) (writeInt64 id)).map fun r => ((), r))

/-- Removes objects of a resource by identifier, role and tag. -/
def removeObjects (c : Catalogue) (resource : String) (uuid : Option String)
    (role : Option ObjectRole) (tag : Option String) : Outcome Nat :=
  c.removeLinks .objectRelation resource fun row =>
    row.fits .objectRelation "object_uuid" (uuid.map normalize) &&
      row.fits .objectRelation "role" (role.map ObjectRole.word) &&
      row.fits .objectRelation "tag" tag

/-- The objects of a resource. -/
def relatedObjects (c : Catalogue) (resource : String) (criterion : Option Criterion)
    (options : Options) : Except Fault (List ObjectRelation) :=
  match c.getResource (normalize resource) with
  | .error fault => .error fault
  | .ok _ =>
      let rows := c.tables.rowsWhere .objectRelation "resource_uuid" (uuidCell resource)
      match c.tables.select (.records .objectRelation) (some ⟨.self, "id", .binary⟩) criterion options
          Kind.objectRelation.view rows with
      | .error fault => .error fault
      | .ok found => found.mapM (readRow ObjectRelation c.types)

/-! ## Persons -/

/-- Whether a person has a role for a resource. -/
def hasPersonLink (c : Catalogue) (resource person : String) (relation : PersonRole) : Bool :=
  c.tables.personLinks.any fun row =>
    row.fits .personRelation "resource_uuid" (some resource) &&
      row.fits .personRelation "person_uuid" (some person) &&
      row.fits .personRelation "relation" (some relation.word)

/-- Relates a person to a resource. -/
def addPersonRelation (c : Catalogue) (resource person : String) (relation : PersonRole) :
    Outcome Unit :=
  c.outcome <|
    match c.getResource resource with
    | .error fault => .error fault
    | .ok r =>
        match c.getPerson person with
        | .error fault => .error fault
        | .ok p =>
            if c.hasPersonLink r.uuid p.uuid relation then
              .error (.duplicate .personRelation (.personRole p.uuid relation r.uuid))
            else
              (c.insertRecord (⟨r.uuid, p.uuid, relation⟩ : PersonLink)).map fun q => ((), q.2)

/-- Removes person relations of a resource by person and role. -/
def removePersonRelations (c : Catalogue) (resource : String) (person : Option String)
    (relation : Option PersonRole) : Outcome Nat :=
  c.removeLinks .personRelation resource fun row =>
    row.fits .personRelation "person_uuid" (person.map normalize) &&
      row.fits .personRelation "relation" (relation.map PersonRole.word)

/-- The record at the end of a link together with the link, whose columns come after
those of the record. -/
def readLinked (α β : Type) [Storable α] [Storable β] (types : TypeCache) (pair : Row × Row) :
    Except Fault (α × β) :=
  let kind := Storable.kind α
  let columns := pair.2.fieldCells kind ++ pair.1.fieldCells (Storable.kind β)
  match readEntry α types.find? columns 0 with
  | .error fault => .error fault
  | .ok target =>
      (readEntry β types.find? columns kind.fields.length).map fun link => (target, link)

/-- The records that links lead to from a resource, with the links. -/
def related (α β : Type) [Storable α] [Storable β] (c : Catalogue) (reference : String)
    (resource : String) (criterion : Option Criterion) (options : Options) :
    Except Fault (List (α × β)) :=
  let kind := Storable.kind α
  let link := Storable.kind β
  match c.getResource (normalize resource) with
  | .error fault => .error fault
  | .ok _ =>
      let pairs := Summary.linked c.tables link kind reference (uuidCell resource)
      match c.tables.select (.linked kind link) (some ⟨.selfLink, "rowid", .binary⟩) criterion options
          (kind.viewLinked link) pairs with
      | .error fault => .error fault
      | .ok found => found.mapM (readLinked α β c.types)

/-- The persons of a resource. -/
def relatedPersons (c : Catalogue) (resource : String) (criterion : Option Criterion)
    (options : Options) : Except Fault (List RelatedPerson) :=
  (c.related Person PersonLink "person_uuid" resource criterion options).map fun found =>
    found.map fun p => ⟨p.1, p.2.relation⟩

/-! ## Groups -/

/-- Whether a resource relates to a group with an index and a tag. -/
def hasGroupLink (c : Catalogue) (link : GroupLink) : Bool :=
  c.tables.groupLinks.any fun row =>
    row.fits .groupRelation "resource_uuid" (some link.resourceUuid) &&
      row.fits .groupRelation "group_uuid" (some link.groupUuid) &&
      (row.cell .groupRelation "group_index").same (.integer (link.groupIndex.getD (-1))) &&
      row.fits .groupRelation "relation_tag" (some link.relationTag)

/-- A relation to a group that the rules do not allow. -/
def refusedGroupLink? (c : Catalogue) (group : Group) (link : GroupLink) : Option Fault :=
  let t := group.groupType
  if link.groupIndex.isSome && !t.ordered then
    some (.validation .groupRelation "groupIndex" (.unorderedType t.name))
  else
    match GroupLinkField.groupIndex.toCell (.ofOption .integer link.groupIndex) with
    | .error cause => some (.validation .groupRelation "groupIndex" (.field cause))
    | .ok _ =>
        if t.exclusive &&
            !(c.tables.linksToType (.text link.resourceUuid) (.text t.uuid)).isEmpty then
          some (.integrity .groupRelation (.exclusiveGroupHeld link.resourceUuid t.name))
        else if c.hasGroupLink link then
          some (.duplicate .groupRelation (.groupLink link.resourceUuid link.groupUuid))
        else none

/-- Relates a group to a resource. -/
def addGroupRelation (c : Catalogue) (resource group : String) (index : Option Int64)
    (tag : Option String) : Outcome Unit :=
  c.outcome <|
    match c.getResource resource with
    | .error fault => .error fault
    | .ok r =>
        match c.getGroup group with
        | .error fault => .error fault
        | .ok g =>
            let link : GroupLink := ⟨r.uuid, g.uuid, index, tag.getD ""⟩
            match c.refusedGroupLink? g link with
            | some fault => .error fault
            | none => (c.insertRecord link).map fun p => ((), p.2)

/-- Removes group relations of a resource by group, type of group and tag. -/
def removeGroupRelations (c : Catalogue) (resource : String) (group groupType tag : Option String) :
    Outcome Nat :=
  c.removeLinks .groupRelation resource fun row =>
    row.fits .groupRelation "group_uuid" (group.map normalize) &&
      (match groupType with
        | none => true
        | some type => c.tables.leadsTo (uuidCell type) row) &&
      row.fits .groupRelation "relation_tag" tag

/-- The groups of a resource. -/
def relatedGroups (c : Catalogue) (resource : String) (criterion : Option Criterion)
    (options : Options) : Except Fault (List RelatedGroup) :=
  (c.related Group GroupLink "group_uuid" resource criterion options).map fun found =>
    found.map fun p => ⟨p.1, p.2.groupIndex, p.2.relationTag⟩

/-! ## Everything about a resource -/

/-- A resource with everything related to it. -/
def amalgamate (c : Catalogue) (resource : Resource) : Except Fault Amalgam :=
  match c.relatedPersons resource.uuid none {} with
  | .error fault => .error fault
  | .ok persons =>
      match c.relatedGroups resource.uuid none {} with
      | .error fault => .error fault
      | .ok groups =>
          (c.relatedObjects resource.uuid none {}).map fun objects =>
            ⟨resource, persons, groups, objects⟩

/-- The resource with an identifier and everything related to it. -/
def getAmalgam (c : Catalogue) (uuid : String) : Except Fault Amalgam :=
  match c.getResource uuid with
  | .error fault => .error fault
  | .ok resource => c.amalgamate resource

/-- The resources that satisfy a criterion, each with everything related to it. -/
def findAmalgams (c : Catalogue) (criterion : Option Criterion) (options : Options) :
    Except Fault (List Amalgam) :=
  match c.find Resource criterion options with
  | .error fault => .error fault
  | .ok resources => resources.mapM c.amalgamate

end Catalogue

end Shelfmark
