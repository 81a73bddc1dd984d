import Shelfmark.Query.Selection
import Shelfmark.Store.Change
import Shelfmark.Store.TypeCache

/-!
# The catalogue

An open catalogue: its tables, the tables as they were at every open savepoint,
and the group types in memory. Its identity is given once, when it is created.

What only reads is a function of the catalogue. What writes answers with the
catalogue that it leaves; most of these operations build the new catalogue only
when nothing is left that can fail.
-/

namespace Shelfmark

/-- An open catalogue. The innermost savepoint comes first. -/
structure Catalogue where
  tables : Tables := {}
  savepoints : List Tables := []
  types : TypeCache := {}
  identity : String
  created : Bool := false
  deriving DecidableEq, Repr

/-- What an operation answers, and the catalogue that it leaves. -/
abbrev Outcome (α : Type) := Except Fault α × Catalogue

namespace Catalogue

/-! ## Outcomes -/

/-- The outcome of a change that happens as a whole or not at all. -/
def outcome {α : Type} (c : Catalogue) : Except Fault (α × Catalogue) → Outcome α
  | .ok (a, changed) => (.ok a, changed)
  | .error fault => (.error fault, c)

/-- The outcome of a change after which something is read. -/
def outcomeThen {α : Type} (c : Catalogue) (read : Catalogue → Except Fault α) :
    Except Fault Catalogue → Outcome α
  | .ok changed => (read changed, changed)
  | .error fault => (.error fault, c)

/-! ## Reading rows -/

/-- The values of fields in the columns of a result from an offset on; the first column
that is missing or holds no value of its field is the fault. -/
def readFields (kind : Kind) (columns : List Cell) : Nat → List Field → Except Fault FieldRow
  | _, [] => .ok []
  | offset, f :: rest =>
      match columns[offset]? with
      | none => .error (.storage (.noColumn offset))
      | some cell =>
          match Fault.ofField kind f (f.ofCell cell) with
          | .error fault => .error fault
          | .ok value => (readFields kind columns (offset + 1) rest).map (value :: ·)

/-- The record whose fields are in the columns of a result from an offset on. -/
def readEntry (α : Type) [Storable α] (types : TypeLookup) (columns : List Cell) (offset : Nat) :
    Except Fault α :=
  let kind := Storable.kind α
  match readFields kind columns offset kind.fields with
  | .error fault => .error fault
  | .ok values => Storable.ofValues types values

/-- The record of a row. -/
def readRow (α : Type) [Storable α] (types : TypeCache) (row : Row) : Except Fault α :=
  readEntry α types.find? (row.fieldCells (Storable.kind α)) 0

/-- The record with a key; the fault shows the key as given. -/
def fetch (α : Type) [Storable α] (c : Catalogue) (key : Cell) (shown : String) : Except Fault α :=
  match c.tables.find? (Storable.kind α) key with
  | none => .error (.notFound (Storable.kind α) shown)
  | some row => readRow α c.types row

/-! ## Writing rows -/

/-- Inserts a record; also tells the identifier of its row. -/
def insertRecord {α : Type} [Storable α] (c : Catalogue) (record : α) :
    Except Fault (Int64 × Catalogue) :=
  match insertValues record with
  | .error fault => .error fault
  | .ok stored =>
      match c.tables.insert (Storable.kind α) (stored.map Prod.snd) with
      | .error fault => .error fault
      | .ok (tables, id) => .ok (id, { c with tables := tables })

/-- Sets fields of the record with a key. Setting nothing always succeeds. -/
def updateRecord (c : Catalogue) (kind : Kind) (key : FieldValue) (shown : String)
    (assignments : Assignments) : Except Fault Catalogue :=
  if assignments.isEmpty then .ok c
  else
    match storedValues kind assignments with
    | .error fault => .error fault
    | .ok stored =>
        match c.tables.update kind (keyCell key) stored with
        | .error fault => .error fault
        | .ok (_, 0) => .error (.notFound kind shown)
        | .ok (tables, _) => .ok { c with tables := tables }

/-- Removes the record with a key and what depends on it. -/
def removeRecord (c : Catalogue) (kind : Kind) (key : Cell) (shown : String) :
    Except Fault Catalogue :=
  match c.tables.remove kind key with
  | .error fault => .error fault
  | .ok (_, 0) => .error (.notFound kind shown)
  | .ok (tables, _) => .ok { c with tables := tables }

/-! ## Finding and counting -/

/-- The records of a kind that satisfy a criterion, sorted, on a page. As in every selection, the
store is taken to set no limit on the depth of the criterion and on the number of its values. -/
def find (α : Type) [Storable α] (c : Catalogue) (criterion : Option Criterion)
    (options : Options) : Except Fault (List α) :=
  let kind := Storable.kind α
  match c.tables.select (.records kind) none criterion options kind.view (c.tables.rows kind) with
  | .error fault => .error fault
  | .ok rows => rows.mapM (readRow α c.types)

/-- How many records of a kind satisfy a criterion, of any depth and with any number of values
as in `find`. -/
def count (c : Catalogue) (kind : Kind) (criterion : Option Criterion) : Except Fault Nat :=
  (c.tables.filterBy (.records kind) criterion kind.view (c.tables.rows kind)).map List.length

/-! ## Identifiers -/

/-- The identifier of a new record: the given one in its normal form, or the fresh one
when none is given. -/
def chooseUuid (given fresh : String) : String :=
  let normal := normalize given
  if normal.isEmpty then fresh else normal

/-- An identifier as text cell. -/
def uuidCell (uuid : String) : Cell := .text (normalize uuid)

end Catalogue

end Shelfmark
