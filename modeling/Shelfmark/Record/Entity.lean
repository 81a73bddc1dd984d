import Shelfmark.Fault

/-!
# Records

The records of each kind as structures, the values of their fields in the order
of the field list, and back. A group is read together with its type, which is
looked up by its identifier.

Reading takes what is there: a value of the wrong type counts as absent, and an
absent text is empty. What a field stored is never of the wrong type.
-/

namespace Shelfmark

/-- A book or another item of the catalogue. The rating counts hundredths of a star. -/
structure Resource where
  uuid : String
  title : String
  titleSort : String
  rating : Option Int64
  addDate : Timestamp
  lastModifyDate : Timestamp
  publishDate : Option PublishDate
  publisher : String
  desc : String
  deriving DecidableEq, Repr

/-- A person. -/
structure Person where
  uuid : String
  name : String
  nameSort : String
  deriving DecidableEq, Repr

/-- A type of groups. A resource relates to at most one group of an exclusive type;
relations to groups of an ordered type may carry an index. -/
structure GroupType where
  uuid : String
  name : String
  exclusive : Bool
  ordered : Bool
  deriving DecidableEq, Repr

/-- A group of resources. -/
structure Group where
  uuid : String
  title : String
  titleSort : String
  groupType : GroupType
  deriving DecidableEq, Repr

/-- An object kept elsewhere, a file or a cover, that belongs to a resource. -/
structure ObjectRelation where
  id : Int64
  resourceUuid : String
  uuid : String
  role : ObjectRole
  tag : String
  deriving DecidableEq, Repr

/-- The part of a person in a resource. -/
structure PersonLink where
  resourceUuid : String
  personUuid : String
  relation : PersonRole
  deriving DecidableEq, Repr

/-- The place of a resource in a group. -/
structure GroupLink where
  resourceUuid : String
  groupUuid : String
  groupIndex : Option Int64
  relationTag : String
  deriving DecidableEq, Repr

/-! ## Well-known group types -/

/-- Identifier of the type of tags. -/
def tagTypeUuid : String := "ff9a5d5f-9b5c-4d3e-8a1a-6c0b1e7f2a01"

/-- Identifier of the type of series. -/
def seriesTypeUuid : String := "ff9a5d5f-9b5c-4d3e-8a1a-6c0b1e7f2a02"

/-- Identifier of the type of categories. -/
def categoryTypeUuid : String := "ff9a5d5f-9b5c-4d3e-8a1a-6c0b1e7f2a03"

/-- Identifier of the type of languages. -/
def languageTypeUuid : String := "ff9a5d5f-9b5c-4d3e-8a1a-6c0b1e7f2a04"

/-- The group types that every catalogue starts with. -/
def wellKnownTypes : List GroupType :=
  [⟨tagTypeUuid, "Tag", false, false⟩, ⟨seriesTypeUuid, "Series", true, true⟩,
    ⟨categoryTypeUuid, "Category", false, false⟩, ⟨languageTypeUuid, "Language", false, false⟩]

/-- Whether an identifier is that of a well-known group type. -/
def isWellKnownType (uuid : String) : Bool := wellKnownTypes.any fun t => t.uuid = uuid

/-! ## Values in field order -/

/-- Values of the fields of a record, in field order. -/
abbrev FieldRow := List FieldValue

namespace FieldRow

/-- The value at a position; null past the end. -/
def valueAt (row : FieldRow) (i : Nat) : FieldValue := (row[i]?).getD .null

/-- The text at a position. -/
def text (row : FieldRow) (i : Nat) : String :=
  match row.valueAt i with
  | .text s => s
  | _ => ""

/-- The integer at a position. -/
def integer? (row : FieldRow) (i : Nat) : Option Int64 :=
  match row.valueAt i with
  | .integer n => some n
  | _ => none

/-- Whether the value at a position is true. -/
def boolean (row : FieldRow) (i : Nat) : Bool :=
  match row.valueAt i with
  | .boolean b => b
  | _ => false

/-- The point in time at a position. -/
def timestamp (row : FieldRow) (i : Nat) : Timestamp :=
  match row.valueAt i with
  | .timestamp t => t
  | _ => ⟨0⟩

/-- The publication date at a position. -/
def publishDate? (row : FieldRow) (i : Nat) : Option PublishDate :=
  match row.valueAt i with
  | .publishDate date => some date
  | _ => none

end FieldRow

/-- A look-up of group types by identifier. -/
abbrev TypeLookup := String → Option GroupType

/-- Records that are stored in the table of a kind. -/
class Storable (α : Type) where
  kind : Kind
  values : α → FieldRow
  ofValues : TypeLookup → FieldRow → Except Fault α

instance : Storable Resource where
  kind := .resource
  values r :=
    [.text r.uuid, .text r.title, .text r.titleSort, .ofOption .integer r.rating,
      .timestamp r.addDate, .timestamp r.lastModifyDate, .ofOption .publishDate r.publishDate,
      .text r.publisher, .text r.desc]
  ofValues _ row :=
    .ok ⟨row.text 0, row.text 1, row.text 2, row.integer? 3, row.timestamp 4, row.timestamp 5,
      row.publishDate? 6, row.text 7, row.text 8⟩

instance : Storable Person where
  kind := .person
  values p := [.text p.uuid, .text p.name, .text p.nameSort]
  ofValues _ row := .ok ⟨row.text 0, row.text 1, row.text 2⟩

instance : Storable GroupType where
  kind := .groupType
  values t := [.text t.uuid, .text t.name, .boolean t.exclusive, .boolean t.ordered]
  ofValues _ row := .ok ⟨row.text 0, row.text 1, row.boolean 2, row.boolean 3⟩

instance : Storable Group where
  kind := .group
  values g := [.text g.uuid, .text g.title, .text g.titleSort, .text g.groupType.uuid]
  ofValues types row :=
    match types (row.text 3) with
    | some t => .ok ⟨row.text 0, row.text 1, row.text 2, t⟩
    | none => .error (.integrity .group (.unknownGroupType (row.text 0) (row.text 3)))

instance : Storable ObjectRelation where
  kind := .objectRelation
  values o := [.integer o.id, .text o.resourceUuid, .text o.uuid, .text o.role.word, .text o.tag]
  ofValues _ row :=
    match ObjectRole.ofText? (row.text 3) with
    | some role => .ok ⟨(row.integer? 0).getD 0, row.text 1, row.text 2, role, row.text 4⟩
    | none =>
        .error (.validation .objectRelation "role" (.unknownObjectRole (normalize (row.text 3))))

instance : Storable PersonLink where
  kind := .personRelation
  values l := [.text l.resourceUuid, .text l.personUuid, .text l.relation.word]
  ofValues _ row :=
    match PersonRole.ofText? (row.text 2) with
    | some role => .ok ⟨row.text 0, row.text 1, role⟩
    | none =>
        .error
          (.validation .personRelation "relation" (.unknownPersonRole (normalize (row.text 2))))

instance : Storable GroupLink where
  kind := .groupRelation
  values l :=
    [.text l.resourceUuid, .text l.groupUuid, .ofOption .integer l.groupIndex,
      .text l.relationTag]
  ofValues _ row := .ok ⟨row.text 0, row.text 1, row.integer? 2, row.text 3⟩

/-! ## Partial updates -/

/-- Fields to set, with their new values. -/
abbrev Assignments := List (Field × FieldValue)

/-- The assignment of an optional change. -/
def assign {α : Type} (f : Field) (value : α → FieldValue) : Option α → Assignments
  | some a => [(f, value a)]
  | none => []

/-- Changes to a resource; clearing the rating or the publication date is a change. -/
structure ResourcePatch where
  title : Option String := none
  titleSort : Option String := none
  rating : Option (Option Int64) := none
  publishDate : Option (Option PublishDate) := none
  publisher : Option String := none
  desc : Option String := none
  deriving DecidableEq, Repr

/-- Changes to a person. -/
structure PersonPatch where
  name : Option String := none
  nameSort : Option String := none
  deriving DecidableEq, Repr

/-- Changes to a group type. -/
structure GroupTypePatch where
  name : Option String := none
  exclusive : Option Bool := none
  ordered : Option Bool := none
  deriving DecidableEq, Repr

/-- Changes to a group; the type is given by its identifier. -/
structure GroupPatch where
  title : Option String := none
  titleSort : Option String := none
  groupType : Option String := none
  deriving DecidableEq, Repr

/-- Changes to an object relation. -/
structure ObjectPatch where
  uuid : Option String := none
  role : Option ObjectRole := none
  tag : Option String := none
  deriving DecidableEq, Repr

/-- The fields that a resource patch sets. -/
def ResourcePatch.assignments (p : ResourcePatch) : Assignments :=
  assign ResourceField.title .text p.title ++
    assign ResourceField.titleSort .text p.titleSort ++
    assign ResourceField.rating (.ofOption .integer) p.rating ++
    assign ResourceField.publishDate (.ofOption .publishDate) p.publishDate ++
    assign ResourceField.publisher .text p.publisher ++
    assign ResourceField.desc .text p.desc

/-- The fields that a resource patch sets at a time: every change moves the date of
the last change. -/
def ResourcePatch.stamped (p : ResourcePatch) (modified : Timestamp) : Assignments :=
  p.assignments ++ [(ResourceField.lastModifyDate, .timestamp modified)]

/-- The fields that a person patch sets. -/
def PersonPatch.assignments (p : PersonPatch) : Assignments :=
  assign PersonField.name .text p.name ++ assign PersonField.nameSort .text p.nameSort

/-- The fields that a group type patch sets. -/
def GroupTypePatch.assignments (p : GroupTypePatch) : Assignments :=
  assign GroupTypeField.name .text p.name ++
    assign GroupTypeField.exclusive .boolean p.exclusive ++
    assign GroupTypeField.ordered .boolean p.ordered

/-- The group type with the changes made. -/
def GroupTypePatch.apply (p : GroupTypePatch) (t : GroupType) : GroupType :=
  { t with
    name := p.name.getD t.name
    exclusive := p.exclusive.getD t.exclusive
    ordered := p.ordered.getD t.ordered }

/-- The fields that a group patch sets. -/
def GroupPatch.assignments (p : GroupPatch) : Assignments :=
  assign GroupField.title .text p.title ++
    assign GroupField.titleSort .text p.titleSort ++
    assign GroupField.groupType .text p.groupType

/-- The fields that an object patch sets. -/
def ObjectPatch.assignments (p : ObjectPatch) : Assignments :=
  assign ObjectField.uuid .text p.uuid ++
    assign ObjectField.role (fun role => .text role.word) p.role ++
    assign ObjectField.tag .text p.tag

/-! ## Related records -/

/-- A person as related to one resource. -/
structure RelatedPerson where
  person : Person
  relation : PersonRole
  deriving DecidableEq, Repr

/-- A group as related to one resource. -/
structure RelatedGroup where
  group : Group
  groupIndex : Option Int64
  relationTag : String
  deriving DecidableEq, Repr

/-- A resource with everything related to it, in the order in which it was related. -/
structure Amalgam where
  resource : Resource
  persons : List RelatedPerson
  groups : List RelatedGroup
  objects : List ObjectRelation
  deriving DecidableEq, Repr

namespace Amalgam

/-- The persons with a role. -/
def personsWith (a : Amalgam) (role : PersonRole) : List Person :=
  (a.persons.filter fun p => p.relation = role).map RelatedPerson.person

/-- The groups of a type. -/
def groupsOf (a : Amalgam) (typeUuid : String) : List RelatedGroup :=
  a.groups.filter fun g => g.group.groupType.uuid = typeUuid

end Amalgam

end Shelfmark
