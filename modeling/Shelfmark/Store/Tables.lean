import Shelfmark.Record.Statement
import Shelfmark.Store.CellOrder

/-!
# Tables

The rows of every kind, in the order of their row identifiers. New rows get the
greatest identifier plus one, so that order is the order of insertion. Object
relations are known by their row identifier, so a sequence makes sure that none is
given out twice.

Beside the tables there are options, which are texts under names.
-/

namespace Shelfmark

/-- A row: its identifier, and the cells of the fields that the store does not assign. -/
structure Row where
  id : Int64
  cells : List Cell
  deriving DecidableEq, Repr

/-- The rows of every kind, the last object identifier given out, and the options. -/
structure Tables where
  resources : List Row := []
  persons : List Row := []
  groups : List Row := []
  groupTypes : List Row := []
  objects : List Row := []
  personLinks : List Row := []
  groupLinks : List Row := []
  objectSequence : Int64 := 0
  options : List (String × String) := []
  deriving DecidableEq, Repr

namespace Row

/-- The cell of a column. Every table has a column for the row identifier, which is
also the `id` of an object relation. -/
def cell (kind : Kind) (row : Row) (column : String) : Cell :=
  if column = "rowid" || (kind = .objectRelation && column = "id") then .integer row.id
  else (((kind.givenFields.map Field.column).zip row.cells).lookup column).getD .null

/-- The cell that identifies the row. -/
def key (kind : Kind) (row : Row) : Cell := row.cell kind kind.keyColumn

/-- The row with the cell of a column replaced. -/
def set (kind : Kind) (row : Row) (column : String) (value : Cell) : Row :=
  { row with
    cells := (kind.givenFields.zip row.cells).map fun p => if p.1.column = column then value else p.2 }

/-- The cells of all fields of the kind, in field order. -/
def fieldCells (kind : Kind) (row : Row) : List Cell :=
  kind.fields.map fun f => row.cell kind f.column

end Row

namespace Tables

/-- The rows of a kind. -/
def rows (t : Tables) : Kind → List Row
  | .resource => t.resources
  | .person => t.persons
  | .group => t.groups
  | .groupType => t.groupTypes
  | .objectRelation => t.objects
  | .personRelation => t.personLinks
  | .groupRelation => t.groupLinks

/-- The tables with the rows of a kind replaced. -/
def withRows (t : Tables) (kind : Kind) (rows : List Row) : Tables :=
  match kind with
  | .resource => { t with resources := rows }
  | .person => { t with persons := rows }
  | .group => { t with groups := rows }
  | .groupType => { t with groupTypes := rows }
  | .objectRelation => { t with objects := rows }
  | .personRelation => { t with personLinks := rows }
  | .groupRelation => { t with groupLinks := rows }

@[simp] theorem rows_withRows_self (t : Tables) (kind : Kind) (rows : List Row) :
    (t.withRows kind rows).rows kind = rows := by
  cases kind <;> rfl

theorem rows_withRows_of_ne (t : Tables) {kind other : Kind} (rows : List Row)
    (h : other ≠ kind) : (t.withRows kind rows).rows other = t.rows other := by
  cases kind <;> cases other <;> simp_all [withRows, Tables.rows]

/-- The rows of a kind whose cell of a column is a value. -/
def rowsWhere (t : Tables) (kind : Kind) (column : String) (value : Cell) : List Row :=
  (t.rows kind).filter fun row => (row.cell kind column).same value

/-- Whether a kind has a row whose cell of a column is a value. -/
def hasRow (t : Tables) (kind : Kind) (column : String) (value : Cell) : Bool :=
  (t.rows kind).any fun row => (row.cell kind column).same value

/-! ## Options -/

/-- The value of an option. -/
def option? (t : Tables) (name : String) : Option String := t.options.lookup name

/-- The tables with an option set. -/
def setOption (t : Tables) (name value : String) : Tables :=
  { t with options := (name, value) :: t.options.filter fun o => o.1 != name }

end Tables

/-- What a text column shows of a cell when texts are joined. -/
def Cell.joined? : Cell → Option String
  | .null => none
  | .integer i => some (Text.writeInt64 i)
  | .real _ => some ""
  | .text s => some s
  | .blob bytes => some ((String.fromUTF8? ⟨bytes.toArray⟩).getD "")

/-- The summary of a resource: what is related to it, joined in the order in which
it was related. -/
structure Summary where
  uuid : Cell
  authors : Cell
  tags : Cell
  series : Cell
  seriesIndex : Cell
  deriving DecidableEq, Repr

namespace Summary

/-- The cell of a column. -/
def cell (s : Summary) (column : String) : Cell :=
  match column with
  | "uuid" => s.uuid
  | "authors" => s.authors
  | "tags" => s.tags
  | "series" => s.series
  | "series_index" => s.seriesIndex
  | _ => .null

/-- Texts joined by a separator; nothing when there is no text. -/
def joinCells (separator : String) (cells : List Cell) : Cell :=
  match cells.filterMap Cell.joined? with
  | [] => .null
  | texts => .text (separator.intercalate texts)

/-- The link rows of a resource with the rows at their other end. -/
def linked (t : Tables) (link target : Kind) (reference : String) (resource : Cell) :
    List (Row × Row) :=
  (t.rowsWhere link "resource_uuid" resource).flatMap fun x =>
    (t.rowsWhere target "uuid" (x.cell link reference)).map fun row => (x, row)

/-- The summary of a resource row. -/
def ofResource (t : Tables) (row : Row) : Summary :=
  let uuid := row.cell .resource "uuid"
  let authors :=
    (linked t .personRelation .person "person_uuid" uuid).filter fun p =>
      (p.1.cell .personRelation "relation").same (.text PersonRole.author.word)
  let groups := linked t .groupRelation .group "group_uuid" uuid
  let ofType (type : String) :=
    groups.filter fun p => (p.2.cell .group "type_uuid").same (.text type)
  let firstSeries := (ofType seriesTypeUuid).head?
  let index :=
    match firstSeries with
    | some p =>
        let i := p.1.cell .groupRelation "group_index"
        if i.isNull || i.order .binary (.integer 0) = .lt then .null else i
    | none => .null
  { uuid := uuid
    authors := joinCells " & " (authors.map fun p => p.2.cell .person "name")
    tags := joinCells ", " ((ofType tagTypeUuid).map fun p => p.2.cell .group "title")
    series := ((firstSeries.map fun p => p.2.cell .group "title")).getD .null
    seriesIndex := index }

end Summary

/-- The summaries of all resources. -/
def Tables.summaries (t : Tables) : List Summary := t.resources.map (Summary.ofResource t)

end Shelfmark
