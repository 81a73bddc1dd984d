import Shelfmark.Json
import Shelfmark.Record.Entity

/-!
# Records as JSON documents

The form in which records are handed out: an object with a field for every field
of the record, under the name that callers use. A group carries its type as a
whole, and a resource with its relations carries the related records.

A document that is taken in may leave parts out. Sort names are then the names
themselves, other texts are empty, and a group type may be given by its identifier
alone.
-/

namespace Shelfmark

open Shelfmark.Text

/-! ## Parts of documents -/

namespace Json

/-- A part of a document; null when it is left out. -/
def part (j : Json) (name : String) : Json := (j.field? name).getD .null

/-- The text that a part is. -/
def text? : Json → Option String
  | .text s => some s
  | _ => none

/-- The truth value that a part is. -/
def truth? : Json → Option Bool
  | .bool b => some b
  | _ => none

/-- The signed word that a part is. -/
def int64? : Json → Option Int64
  | .integer i => if fitsInt64 i then some (Int64.ofInt i) else none
  | _ => none

/-- The items of a list; none of them when it is left out. -/
def items? : Json → Option (List Json)
  | .list items => some items
  | .null => some []
  | _ => none

/-- A part that may be null. -/
def optional? {α : Type} (read : Json → Option α) : Json → Option (Option α)
  | .null => some none
  | j => (read j).map some

/-- A named part that may be null or left out. -/
def maybe? {α : Type} (j : Json) (name : String) (read : Json → Option α) : Option (Option α) :=
  optional? read (j.part name)

/-- A named text that may be left out. -/
def textOr? (j : Json) (name default : String) : Option String :=
  (j.maybe? name text?).map fun s => s.getD default

/-- A named truth value that may be left out. -/
def truthOr? (j : Json) (name : String) (default : Bool) : Option Bool :=
  (j.maybe? name truth?).map fun b => b.getD default

end Json

/-! ## Handing out -/

/-- An optional part of a document. -/
def Json.ofOption {α : Type} (f : α → Json) : Option α → Json
  | some a => f a
  | none => .null

/-- A signed word. -/
def Json.ofInt64 (i : Int64) : Json := .integer i.toInt

/-- A publication date says which kind it is. -/
def PublishDate.toJson : PublishDate → Json
  | .text s => .ofFields [("Text", .text s)]
  | .timestamp t => .ofFields [("Timestamp", .ofInt64 t.seconds)]

/-- The document of a resource. -/
def Resource.toJson (r : Resource) : Json :=
  .ofFields [("uuid", .text r.uuid), ("title", .text r.title), ("titleSort", .text r.titleSort),
    ("rating", .ofOption .ofInt64 r.rating), ("addDate", .ofInt64 r.addDate.seconds),
    ("lastModifyDate", .ofInt64 r.lastModifyDate.seconds),
    ("publishDate", .ofOption PublishDate.toJson r.publishDate),
    ("publisher", .text r.publisher), ("desc", .text r.desc)]

/-- The document of a person. -/
def Person.toJson (p : Person) : Json :=
  .ofFields [("uuid", .text p.uuid), ("name", .text p.name), ("nameSort", .text p.nameSort)]

/-- The document of a group type. -/
def GroupType.toJson (t : GroupType) : Json :=
  .ofFields [("uuid", .text t.uuid), ("name", .text t.name), ("exclusive", .bool t.exclusive),
    ("ordered", .bool t.ordered)]

/-- The document of a group. -/
def Group.toJson (g : Group) : Json :=
  .ofFields [("uuid", .text g.uuid), ("title", .text g.title), ("titleSort", .text g.titleSort),
    ("groupType", g.groupType.toJson)]

/-- The document of an object relation. -/
def ObjectRelation.toJson (o : ObjectRelation) : Json :=
  .ofFields [("id", .ofInt64 o.id), ("resourceUuid", .text o.resourceUuid), ("uuid", .text o.uuid),
    ("role", .text o.role.word), ("tag", .text o.tag)]

/-- The document of a person as related to a resource. -/
def RelatedPerson.toJson (p : RelatedPerson) : Json :=
  .ofFields [("person", p.person.toJson), ("relation", .text p.relation.word)]

/-- The document of a group as related to a resource. -/
def RelatedGroup.toJson (g : RelatedGroup) : Json :=
  .ofFields [("group", g.group.toJson), ("groupIndex", .ofOption .ofInt64 g.groupIndex),
    ("relationTag", .text g.relationTag)]

/-- The document of a resource with everything related to it. -/
def Amalgam.toJson (a : Amalgam) : Json :=
  .ofFields [("resource", a.resource.toJson), ("persons", .list (a.persons.map RelatedPerson.toJson)),
    ("groups", .list (a.groups.map RelatedGroup.toJson)),
    ("objects", .list (a.objects.map ObjectRelation.toJson))]

/-! ## Taking in -/

/-- The person role that a part names. -/
def PersonRole.ofJson? (j : Json) : Option PersonRole := j.text?.bind PersonRole.ofText?

/-- The object role that a part names. -/
def ObjectRole.ofJson? (j : Json) : Option ObjectRole := j.text?.bind ObjectRole.ofText?

/-- The publication date that a part is. -/
def PublishDate.ofJson? : Json → Option PublishDate
  | .object [("Text", .text s)] => some (.text s)
  | .object [("Timestamp", t)] => t.int64?.map fun s => .timestamp ⟨s⟩
  | _ => none

/-- The resource of a document, which says when it was added and changed. -/
def Resource.ofJson? (j : Json) : Option Resource := do
  let title ← (j.part "title").text?
  return {
    uuid := ← j.textOr? "uuid" "", title := title, titleSort := ← j.textOr? "titleSort" title
    rating := ← j.maybe? "rating" Json.int64?
    addDate := ⟨← (j.part "addDate").int64?⟩, lastModifyDate := ⟨← (j.part "lastModifyDate").int64?⟩
    publishDate := ← j.maybe? "publishDate" PublishDate.ofJson?
    publisher := ← j.textOr? "publisher" "", desc := ← j.textOr? "desc" "" }

/-- The person of a document. -/
def Person.ofJson? (j : Json) : Option Person := do
  let name ← (j.part "name").text?
  return ⟨← j.textOr? "uuid" "", name, ← j.textOr? "nameSort" name⟩

/-- The group type of a document. -/
def GroupType.ofJson? (j : Json) : Option GroupType := do
  return ⟨← j.textOr? "uuid" "", ← (j.part "name").text?, ← j.truthOr? "exclusive" false,
    ← j.truthOr? "ordered" false⟩

/-- The group of a document. -/
def Group.ofJson? (j : Json) : Option Group := do
  let title ← (j.part "title").text?
  let type : GroupType ←
    match j.part "groupType" with
    | .text uuid => some ⟨uuid, "", false, false⟩
    | t => GroupType.ofJson? t
  return ⟨← j.textOr? "uuid" "", title, ← j.textOr? "titleSort" title, type⟩

/-- The object relation of a document. -/
def ObjectRelation.ofJson? (j : Json) : Option ObjectRelation := do
  let id := (← j.maybe? "id" Json.int64?).getD 0
  return ⟨id, ← j.textOr? "resourceUuid" "", ← j.textOr? "uuid" "",
    ← ObjectRole.ofJson? (j.part "role"), ← j.textOr? "tag" ""⟩

/-- The related person of a document. -/
def RelatedPerson.ofJson? (j : Json) : Option RelatedPerson := do
  return ⟨← Person.ofJson? (j.part "person"), ← PersonRole.ofJson? (j.part "relation")⟩

/-- The related group of a document. -/
def RelatedGroup.ofJson? (j : Json) : Option RelatedGroup := do
  return ⟨← Group.ofJson? (j.part "group"), ← j.maybe? "groupIndex" Json.int64?,
    ← j.textOr? "relationTag" ""⟩

/-- The resource of a document with everything related to it. -/
def Amalgam.ofJson? (j : Json) : Option Amalgam := do
  return ⟨← Resource.ofJson? (j.part "resource"),
    ← (← (j.part "persons").items?).mapM RelatedPerson.ofJson?,
    ← (← (j.part "groups").items?).mapM RelatedGroup.ofJson?,
    ← (← (j.part "objects").items?).mapM ObjectRelation.ofJson?⟩

/-! ## Changes -/

/-- A change that may set a part to null; a part that is left out stays. -/
def Json.change? {α : Type} (j : Json) (name : String) (read : Json → Option α) :
    Option (Option (Option α)) :=
  match j.field? name with
  | none => some none
  | some v => (Json.optional? read v).map some

/-- The changes to a resource of a document. -/
def ResourcePatch.ofJson? (j : Json) : Option ResourcePatch := do
  return {
    title := ← j.maybe? "title" Json.text?, titleSort := ← j.maybe? "titleSort" Json.text?
    rating := ← j.change? "rating" Json.int64?
    publishDate := ← j.change? "publishDate" PublishDate.ofJson?
    publisher := ← j.maybe? "publisher" Json.text?, desc := ← j.maybe? "desc" Json.text? }

/-- The changes to a person of a document. -/
def PersonPatch.ofJson? (j : Json) : Option PersonPatch := do
  return { name := ← j.maybe? "name" Json.text?, nameSort := ← j.maybe? "nameSort" Json.text? }

/-- The changes to a group type of a document. -/
def GroupTypePatch.ofJson? (j : Json) : Option GroupTypePatch := do
  return {
    name := ← j.maybe? "name" Json.text?, exclusive := ← j.maybe? "exclusive" Json.truth?
    ordered := ← j.maybe? "ordered" Json.truth? }

/-- The changes to a group of a document. -/
def GroupPatch.ofJson? (j : Json) : Option GroupPatch := do
  return {
    title := ← j.maybe? "title" Json.text?, titleSort := ← j.maybe? "titleSort" Json.text?
    groupType := ← j.maybe? "groupType" Json.text? }

/-- The changes to an object relation of a document. -/
def ObjectPatch.ofJson? (j : Json) : Option ObjectPatch := do
  return {
    uuid := ← j.maybe? "uuid" Json.text?, role := ← j.maybe? "role" ObjectRole.ofJson?
    tag := ← j.maybe? "tag" Json.text? }

end Shelfmark
