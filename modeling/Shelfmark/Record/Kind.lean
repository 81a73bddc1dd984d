/-!
# Kinds of records

A catalogue keeps resources, the persons and groups related to them, the types
of groups, and the objects attached to resources. Persons and groups are linked
to resources by records of their own.
-/

namespace Shelfmark

/-- A kind of record. -/
inductive Kind where
  | resource
  | person
  | group
  | groupType
  | objectRelation
  | personRelation
  | groupRelation
  deriving DecidableEq, Repr

namespace Kind

/-- The kind as it is called in messages. -/
def label : Kind → String
  | resource => "resource"
  | person => "person"
  | group => "group"
  | groupType => "group type"
  | objectRelation => "object relation"
  | personRelation => "person relation"
  | groupRelation => "group relation"

/-- The kind as one word. -/
def word : Kind → String
  | resource => "Resource"
  | person => "Person"
  | group => "Group"
  | groupType => "GroupType"
  | objectRelation => "ObjectRelation"
  | personRelation => "PersonRelation"
  | groupRelation => "GroupRelation"

/-- All kinds. -/
def all : List Kind :=
  [resource, person, group, groupType, objectRelation, personRelation, groupRelation]

/-- The table that holds the records. -/
def table : Kind → String
  | resource => "resources"
  | person => "persons"
  | group => "groups"
  | groupType => "group_types"
  | objectRelation => "res_objects"
  | personRelation => "res_persons"
  | groupRelation => "res_groups"

/-- The column that identifies a record; it also ends every sort order. -/
def keyColumn : Kind → String
  | objectRelation => "id"
  | personRelation => "rowid"
  | groupRelation => "rowid"
  | _ => "uuid"

end Kind

end Shelfmark
