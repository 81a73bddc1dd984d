import Shelfmark.Record.Cell
import Shelfmark.Record.FieldValue
import Shelfmark.Record.Kind
import Shelfmark.Record.Role

/-!
# Fields of records

Every kind of record has an ordered list of fields. A field maps the name that
callers use to a column, and its type checks values and converts them to what is
stored and back. The columns of a statement are always taken from these lists,
so what is written and what is read agree.

What a field accepts comes back as it was, identifiers and words in their
normal form.
-/

namespace Shelfmark

open Shelfmark.Text

/-- What a field holds. -/
inductive FieldType where
  | text
  | identifier
  | rowId
  | timestamp
  | publishDate
  | integer (least greatest : Int64)
  | index
  | boolean
  | enumeration (words : List String)
  | foreign (kind : Kind)
  deriving DecidableEq, Repr

/-- A field: the name callers use, the column, what it holds, whether it may be
absent, and whether it is sorted without regard to case. -/
structure Field where
  name : String
  column : String
  type : FieldType
  nullable : Bool := false
  nocase : Bool := false
  deriving DecidableEq, Repr

/-- The type in messages. -/
def FieldType.describe : FieldType → String
  | text => "Text"
  | identifier => "Uuid"
  | rowId => "RowId"
  | timestamp => "Timestamp"
  | publishDate => "PublishDate"
  | integer least greatest =>
      "Integer \x7b min: " ++ writeInt64 least ++ ", max: " ++ writeInt64 greatest ++ " \x7d"
  | index => "Index"
  | boolean => "Boolean"
  | enumeration words =>
      "Enumeration([" ++ ", ".intercalate (words.map FieldValue.describeText) ++ "])"
  | foreign kind => "Foreign(" ++ kind.word ++ ")"

/-! ## The fields of each kind -/

namespace ResourceField

def uuid : Field := { name := "uuid", column := "uuid", type := .identifier }
def title : Field := { name := "title", column := "title", type := .text, nocase := true }
def titleSort : Field :=
  { name := "titleSort", column := "title_sort", type := .text, nocase := true }
def rating : Field :=
  { name := "rating", column := "rating", type := .integer 0 500, nullable := true }
def addDate : Field := { name := "addDate", column := "add_date", type := .timestamp }
def lastModifyDate : Field :=
  { name := "lastModifyDate", column := "last_modify_date", type := .timestamp }
def publishDate : Field :=
  { name := "publishDate", column := "publish_date", type := .publishDate, nullable := true }
def publisher : Field :=
  { name := "publisher", column := "publisher", type := .text, nocase := true }
def desc : Field := { name := "desc", column := "description", type := .text }

/-- The fields of a resource. -/
def all : List Field :=
  [uuid, title, titleSort, rating, addDate, lastModifyDate, publishDate, publisher, desc]

end ResourceField

namespace PersonField

def uuid : Field := { name := "uuid", column := "uuid", type := .identifier }
def name : Field := { name := "name", column := "name", type := .text, nocase := true }
def nameSort : Field :=
  { name := "nameSort", column := "name_sort", type := .text, nocase := true }

/-- The fields of a person. -/
def all : List Field := [uuid, name, nameSort]

end PersonField

namespace GroupTypeField

def uuid : Field := { name := "uuid", column := "uuid", type := .identifier }
def name : Field := { name := "name", column := "name", type := .text, nocase := true }
def exclusive : Field := { name := "exclusive", column := "is_exclusive", type := .boolean }
def ordered : Field := { name := "ordered", column := "is_ordered", type := .boolean }

/-- The fields of a group type. -/
def all : List Field := [uuid, name, exclusive, ordered]

end GroupTypeField

namespace GroupField

def uuid : Field := { name := "uuid", column := "uuid", type := .identifier }
def title : Field := { name := "title", column := "title", type := .text, nocase := true }
def titleSort : Field :=
  { name := "titleSort", column := "title_sort", type := .text, nocase := true }
def groupType : Field :=
  { name := "groupType", column := "type_uuid", type := .foreign .groupType }

/-- The fields of a group. -/
def all : List Field := [uuid, title, titleSort, groupType]

end GroupField

namespace ObjectField

def id : Field := { name := "id", column := "id", type := .rowId }
def resource : Field :=
  { name := "resource", column := "resource_uuid", type := .foreign .resource }
def uuid : Field := { name := "uuid", column := "object_uuid", type := .identifier }
def role : Field :=
  { name := "role", column := "role", type := .enumeration ["format", "cover"] }
def tag : Field := { name := "tag", column := "tag", type := .text, nocase := true }

/-- The fields of an object relation; the first is assigned by the store. -/
def all : List Field := [id, resource, uuid, role, tag]

end ObjectField

namespace PersonLinkField

def resource : Field :=
  { name := "resource", column := "resource_uuid", type := .foreign .resource }
def person : Field := { name := "person", column := "person_uuid", type := .foreign .person }
def relation : Field :=
  { name := "relation", column := "relation",
    type := .enumeration ["author", "editor", "translator"] }

/-- The fields of a person relation. -/
def all : List Field := [resource, person, relation]

end PersonLinkField

namespace GroupLinkField

def resource : Field :=
  { name := "resource", column := "resource_uuid", type := .foreign .resource }
def group : Field := { name := "group", column := "group_uuid", type := .foreign .group }
def groupIndex : Field := { name := "groupIndex", column := "group_index", type := .index }
def relationTag : Field := { name := "relationTag", column := "relation_tag", type := .text }

/-- The fields of a group relation. -/
def all : List Field := [resource, group, groupIndex, relationTag]

end GroupLinkField

/-- The fields of the summary of a resource, in which the names of related records
are joined. -/
def summaryFields : List Field :=
  [{ name := "uuid", column := "uuid", type := .identifier },
    { name := "authors", column := "authors", type := .text, nullable := true, nocase := true },
    { name := "tags", column := "tags", type := .text, nullable := true, nocase := true },
    { name := "series", column := "series", type := .text, nullable := true, nocase := true },
    { name := "seriesIndex", column := "series_index", type := .integer 0 Int64.maxValue,
      nullable := true }]

/-- The fields of a kind, in the order of its columns. -/
def Kind.fields : Kind → List Field
  | .resource => ResourceField.all
  | .person => PersonField.all
  | .group => GroupField.all
  | .groupType => GroupTypeField.all
  | .objectRelation => ObjectField.all
  | .personRelation => PersonLinkField.all
  | .groupRelation => GroupLinkField.all

/-- The field of a kind with a name. -/
def Kind.field? (kind : Kind) (name : String) : Option Field :=
  kind.fields.find? fun f => f.name = name

/-! ## Storing and reading back -/

/-- Why a field refuses a value. -/
inductive FieldFault where
  | required
  | emptyIdentifier
  | prefixedText
  | outside (value least greatest : Int64)
  | negativeIndex (value : Int64)
  | notAmong (text : String) (words : List String)
  | mistyped (expected : FieldType) (got : String)
  | storedNull
  | storedMisfit (expected : FieldType)
  deriving DecidableEq, Repr

/-- The wording of a cause. -/
def FieldFault.message : FieldFault → String
  | required => "value is required"
  | emptyIdentifier => "identifier must not be empty"
  | prefixedText => "text must not start with '" ++ PublishDate.timestampPrefix ++ "'"
  | outside value least greatest =>
      writeInt64 value ++ " is outside " ++ writeInt64 least ++ "..=" ++ writeInt64 greatest
  | negativeIndex value => "index " ++ writeInt64 value ++ " must not be negative"
  | notAmong text words => "'" ++ text ++ "' is not one of " ++ ", ".intercalate words
  | mistyped expected got => "expected " ++ expected.describe ++ ", got " ++ got
  | storedNull => "stored value is unexpectedly null"
  | storedMisfit expected => "stored value does not fit " ++ expected.describe

namespace Field

/-- The normal form of an identifier, which must not be empty. -/
def storeIdentifier (s : String) : Except FieldFault Cell :=
  let normal := normalize s
  if normal.isEmpty then .error .emptyIdentifier else .ok (.text normal)

/-- What is stored for a value other than null. -/
def storeValue (type : FieldType) (value : FieldValue) : Except FieldFault Cell :=
  match type, value with
  | .text, .text s => .ok (.text s)
  | .identifier, .text s => storeIdentifier s
  | .foreign _, .text s => storeIdentifier s
  | .rowId, .integer i => .ok (.integer i)
  | .timestamp, .timestamp t => .ok (.integer t.seconds)
  | .publishDate, .publishDate date =>
      match date with
      | .text s =>
          if (PublishDate.afterPrefix? s).isSome then .error .prefixedText
          else .ok (.text date.encode)
      | .timestamp _ => .ok (.text date.encode)
  | .integer least greatest, .integer i =>
      if least ≤ i && i ≤ greatest then .ok (.integer i)
      else .error (.outside i least greatest)
  | .index, .integer i => if 0 ≤ i then .ok (.integer i) else .error (.negativeIndex i)
  | .boolean, .boolean b => .ok (.integer (if b then 1 else 0))
  | .enumeration words, .text s =>
      let normal := normalize s
      if words.contains normal then .ok (.text normal) else .error (.notAmong s words)
  | type, value => .error (.mistyped type value.typeName)

/-- What is stored for a value. An absent index is stored as -1. -/
def toCell (f : Field) (value : FieldValue) : Except FieldFault Cell :=
  match value with
  | .null =>
      if f.type = .index then .ok (.integer (-1))
      else if f.nullable then .ok .null
      else .error .required
  | value => storeValue f.type value

/-- The value of a stored integer, text or other cell that is not null. -/
def readCell (type : FieldType) (cell : Cell) : Except FieldFault FieldValue :=
  match type, cell with
  | .text, .text s => .ok (.text s)
  | .identifier, .text s => .ok (.text s)
  | .foreign _, .text s => .ok (.text s)
  | .enumeration _, .text s => .ok (.text s)
  | .publishDate, .text s => .ok (.publishDate (.decode s))
  | .timestamp, .integer i => .ok (.timestamp ⟨i⟩)
  | .boolean, .integer i => .ok (.boolean (i != 0))
  | .rowId, .integer i => .ok (.integer i)
  | .index, .integer i => .ok (if i < 0 then .null else .integer i)
  | .integer _ _, .integer i => .ok (.integer i)
  | type, _ => .error (.storedMisfit type)

/-- The value of what is stored. A negative index is absent. -/
def ofCell (f : Field) (cell : Cell) : Except FieldFault FieldValue :=
  if cell.isNull then (if f.nullable then .ok .null else .error .storedNull)
  else readCell f.type cell

end Field

end Shelfmark
