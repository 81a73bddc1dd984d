import Shelfmark.Record.Entity
import Shelfmark.Template.Evaluation

/-!
# A resource as a source of variables

The variables that a label can use about a resource and what is related to it.
Lists take an index after `#`. A variable that exists but has no value is empty
text, so that it never counts as unresolved.
-/

namespace Shelfmark

open Shelfmark.Text
open Shelfmark.Template

/-- The value of a point in time. -/
def Timestamp.toValue (t : Timestamp) : Value := .date t.toMoment

/-- The value of a publication date. -/
def PublishDate.toValue : PublishDate → Value
  | text s => .text s
  | timestamp t => t.toValue

namespace Amalgam

/-- The value of a variable that may be absent. -/
def known (value : Option Value) : Value := value.getD (.text "")

/-- A list, or one of its items when an index is given. -/
def listVariable (texts : List String) : Option String → Option Value
  | none => some (.ofTexts texts)
  | some index =>
      match readUnsigned? index.toList with
      | some i => if i < UInt64.size then some (known ((texts[i]?).map .text)) else none
      | none => none

/-- The names of the persons with a role. -/
def names (a : Amalgam) (role : PersonRole) : List String :=
  (a.personsWith role).map Person.name

/-- The titles of the groups of a type. -/
def titles (a : Amalgam) (typeUuid : String) : List String :=
  (a.groupsOf typeUuid).map fun g => g.group.title

/-- The tags of the objects that are formats. -/
def formats (a : Amalgam) : List String :=
  (a.objects.filter fun o => o.role = .format).map ObjectRelation.tag

/-- The rating in stars, or as it is stored. -/
def ratingVariable (rating : Option Int64) (specifier : Option String) : Value :=
  match rating, specifier with
  | some raw, some "raw" => .ofInt64 raw
  | some raw, _ =>
      -- a stored rating is rounded to a double before it is divided
      .number ((Binary64.ofInt raw.toInt).div (Binary64.ofInt 100))
  | none, _ => known none

/-- The value of a variable; `none` for an unknown name or a malformed index. -/
def resolve (a : Amalgam) : Resolver := fun name specifier =>
  match name with
  | "title" => some (.text a.resource.title)
  | "titlesort" => some (.text a.resource.titleSort)
  | "uuid" => some (.text a.resource.uuid)
  | "publisher" => some (.text a.resource.publisher)
  | "desc" => some (.text a.resource.desc)
  | "rating" => some (ratingVariable a.resource.rating specifier)
  | "publish_date" => some (known (a.resource.publishDate.map PublishDate.toValue))
  | "add_date" => some a.resource.addDate.toValue
  | "last_modify_date" => some a.resource.lastModifyDate.toValue
  | "authors" => listVariable (a.names .author) specifier
  | "editors" => listVariable (a.names .editor) specifier
  | "translators" => listVariable (a.names .translator) specifier
  | "author" => some (known ((a.names .author).head?.map .text))
  | "tags" => listVariable (a.titles tagTypeUuid) specifier
  | "categories" => listVariable (a.titles categoryTypeUuid) specifier
  | "languages" => listVariable (a.titles languageTypeUuid) specifier
  | "series" => some (known ((a.titles seriesTypeUuid).head?.map .text))
  | "series_index" =>
      some (known (((a.groupsOf seriesTypeUuid).head?.bind RelatedGroup.groupIndex).map .ofInt64))
  | "formats" => listVariable a.formats specifier
  | _ => none

end Amalgam

end Shelfmark
