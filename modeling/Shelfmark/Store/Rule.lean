import Shelfmark.Store.Affinity
import Shelfmark.Store.Tables

/-!
# The rules of the tables

What the rows of a kind must be, whoever writes them. A row has a value in every
column that may not be empty, its rating is in range, no other row has the same
values in a group of columns that is unique, and every reference leads to a row.

Two more rules guard the types of groups. A resource gets no second relation to
groups of an exclusive type, and a group moves to another type only if its
relations obey the rules of that type.

The rules are tested in this order, and a change is refused for the first that it
breaks.
-/

namespace Shelfmark

/-- A column that holds the identifier of a row of another kind. -/
structure Reference where
  column : String
  target : Kind
  deriving DecidableEq, Repr

namespace Kind

/-- The references of a kind to other kinds. -/
def references : Kind → List Reference
  | group => [⟨"type_uuid", groupType⟩]
  | objectRelation => [⟨"resource_uuid", resource⟩]
  | personRelation => [⟨"resource_uuid", resource⟩, ⟨"person_uuid", person⟩]
  | groupRelation => [⟨"resource_uuid", resource⟩, ⟨"group_uuid", group⟩]
  | _ => []

/-- Whether rows of the kind go when a row that they refer to goes. -/
def isDependent : Kind → Bool
  | objectRelation => true
  | personRelation => true
  | groupRelation => true
  | _ => false

/-- How a column compares text. Only names of group types ignore case. -/
def collation (kind : Kind) (column : String) : Collation :=
  if kind = groupType && column = "name" then .nocase else .binary

/-- The groups of columns that are unique in the table, in the order of testing. -/
def uniqueColumns : Kind → List (List String)
  | groupType => [["name"], ["uuid"]]
  | objectRelation => [["resource_uuid", "object_uuid", "role", "tag"]]
  | personRelation => [["resource_uuid", "person_uuid", "relation"]]
  | groupRelation => [["resource_uuid", "group_uuid", "group_index", "relation_tag"]]
  | _ => [["uuid"]]

/-- Whether two rows have the same values in some columns. -/
def agree (kind : Kind) (columns : List String) (a b : Row) : Bool :=
  columns.all fun c => (a.cell kind c).equals (kind.collation c) (b.cell kind c)

end Kind

/-- Whether a stored rating is in range; an absent one is. -/
def Cell.isRating (cell : Cell) : Bool :=
  cell.isNull || (cell.order .binary (.integer 0) != .lt && cell.order .binary (.integer 500) != .gt)

/-- Whether a stored index is one, and does not stand for an absent one. -/
def Cell.isIndex (cell : Cell) : Bool :=
  !cell.isNull && cell.order .binary (.integer 0) != .lt

namespace Tables

/-! ## Rules of one row -/

/-- A column that must have a value and has none. -/
def missingValue? (kind : Kind) (row : Row) : Option Fault :=
  (kind.givenFields.find? fun f => !f.nullable && (row.cell kind f.column).isNull).map fun f =>
    .integrity kind (.missingValue kind.table f.column)

/-- A rating out of range. -/
def badRating? (kind : Kind) (row : Row) : Option Fault :=
  if kind = .resource && !(row.cell kind "rating").isRating then
    some (.integrity kind (.check "rating between 0 and 500"))
  else none

/-- A row among others with the same identifier or the same unique columns. -/
def clash? (kind : Kind) (others : List Row) (row : Row) : Option Fault :=
  if others.any fun r => r.id = row.id then
    some (.duplicate kind (.columns kind.table [kind.keyColumn]))
  else
    (kind.uniqueColumns.find? fun columns => others.any fun r => kind.agree columns r row).map
      fun columns => .duplicate kind (.columns kind.table columns)

/-- A reference that leads nowhere. -/
def dangling? (t : Tables) (kind : Kind) (row : Row) : Option Fault :=
  if kind.references.all fun r => t.hasRow r.target "uuid" (row.cell kind r.column) then none
  else some (.integrity kind .reference)

/-- The first rule that a row breaks beside the other rows of its kind. -/
def violation? (t : Tables) (kind : Kind) (others : List Row) (row : Row) : Option Fault :=
  (missingValue? kind row).or ((badRating? kind row).or
    ((clash? kind others row).or (t.dangling? kind row)))

/-! ## Rules of group types -/

/-- The identifier of the type of a group. -/
def typeOf? (t : Tables) (group : Cell) : Option Cell :=
  ((t.rowsWhere .group "uuid" group).head?).map fun g => g.cell .group "type_uuid"

/-- Whether a type is there and has a flag with a value. -/
def typeHas (t : Tables) (type : Cell) (column : String) (value : Int64) : Bool :=
  (t.rowsWhere .groupType "uuid" type).any fun row =>
    (row.cell .groupType column).same (.integer value)

/-- Whether a link leads to a group of a type. -/
def leadsTo (t : Tables) (type : Cell) (link : Row) : Bool :=
  match t.typeOf? (link.cell .groupRelation "group_uuid") with
  | some cell => cell.same type
  | none => false

/-- The relations of a resource to groups of a type. -/
def linksToType (t : Tables) (resource type : Cell) : List Row :=
  (t.rowsWhere .groupRelation "resource_uuid" resource).filter (t.leadsTo type)

/-- The relations of resources to a group. -/
def linksToGroup (t : Tables) (group : Cell) : List Row :=
  t.rowsWhere .groupRelation "group_uuid" group

/-- Whether the resource of a link would have several relations to groups of a type
if a group were of that type. -/
def wouldCrowd (t : Tables) (group type : Cell) (link : Row) : Bool :=
  let related :=
    (t.rowsWhere .groupRelation "resource_uuid" (link.cell .groupRelation "resource_uuid")).filter
      fun other =>
        (t.typeOf? (other.cell .groupRelation "group_uuid")).isSome &&
          ((other.cell .groupRelation "group_uuid").same group || t.leadsTo type other)
  decide (1 < related.length)

/-- Whether a link carries an index. -/
def isIndexed (link : Row) : Bool := (link.cell .groupRelation "group_index").isIndex

/-- A second relation of a resource to groups of an exclusive type. -/
def exclusiveTypeHeld? (t : Tables) (link : Row) : Option Fault :=
  match t.typeOf? (link.cell .groupRelation "group_uuid") with
  | none => none
  | some type =>
      if t.typeHas type "is_exclusive" 1 &&
          !(t.linksToType (link.cell .groupRelation "resource_uuid") type).isEmpty then
        some (.integrity .groupRelation .exclusiveTypeHeld)
      else none

/-- A move of a group to a type whose rules its relations break. -/
def relationsAgainstType? (t : Tables) (group newType : Cell) : Option Fault :=
  let links := t.linksToGroup group
  if (t.typeHas newType "is_exclusive" 1 && links.any (t.wouldCrowd group newType)) ||
      (t.typeHas newType "is_ordered" 0 && links.any isIndexed) then
    some (.integrity .group .relationsAgainstType)
  else none

end Tables

end Shelfmark
