import Shelfmark.Store.Rule

/-!
# Changes of the tables

Rows are added, changed and removed one rule-abiding step at a time. A change
that breaks a rule is refused and leaves the tables as they were, because the new
tables are only built when no rule is broken.

A row that goes takes the relations that refer to it along. A group type that
groups refer to stays.
-/

namespace Shelfmark

/-- The value that the column of a field stores for another. -/
def Field.convert (f : Field) (cell : Cell) : Cell := f.type.affinity.apply cell.storable

namespace Tables

/-- The result of a change that may break a rule. -/
def permit {α : Type} (value : α) : Option Fault → Except Fault α
  | some fault => .error fault
  | none => .ok value

/-! ## Adding a row -/

/-- The greatest row identifier of a kind; 0 when there is no row. -/
def greatestId (t : Tables) (kind : Kind) : Int64 :=
  (t.rows kind).foldl (fun greatest row => if greatest < row.id then row.id else greatest) 0

/-- The identifier for the next row of a kind, unless there is none left. Identifiers
of object relations are not given out again. -/
def nextId? (t : Tables) (kind : Kind) : Option Int64 :=
  let used := t.greatestId kind
  let last := if kind = .objectRelation && used < t.objectSequence then t.objectSequence else used
  if last = Int64.maxValue then none else some (last + 1)

/-- The tables with a row at the end. -/
def append (t : Tables) (kind : Kind) (row : Row) : Tables :=
  let added := t.withRows kind (t.rows kind ++ [row])
  if kind = .objectRelation then { added with objectSequence := row.id } else added

/-- Adds a row with given cells, one for each field that the store does not assign;
also tells the identifier of the row. -/
def insert (t : Tables) (kind : Kind) (cells : List Cell) : Except Fault (Tables × Int64) :=
  let converted := (kind.givenFields.zip cells).map fun p => p.1.convert p.2
  match t.nextId? kind with
  | none => .error (.storage .full)
  | some id =>
      let row : Row := ⟨id, converted⟩
      let held := if kind = .groupRelation then t.exclusiveTypeHeld? row else none
      permit (t.append kind row, id) (held.or (t.violation? kind (t.rows kind) row))

/-! ## Changing a row -/

/-- A key as the key column of a kind compares it. -/
def convertKey (kind : Kind) (key : Cell) : Cell :=
  match kind.keyColumn with
  | "uuid" => Affinity.text.apply key.storable
  | _ => Affinity.integer.apply key.storable

/-- The row of a kind with a key. -/
def find? (t : Tables) (kind : Kind) (key : Cell) : Option Row :=
  (t.rows kind).find? fun row => (row.key kind).same (convertKey kind key)

/-- The row with a field set; the identifier can only be set to an integer. -/
def assignCell (kind : Kind) (row : Row) (f : Field) (cell : Cell) : Except Fault Row :=
  let value := f.convert cell
  if f.type = .rowId then
    match value with
    | .integer i => .ok { row with id := i }
    | _ => .error (.storage .datatypeMismatch)
  else .ok (row.set kind f.column value)

/-- The row with some fields set, one after the other. -/
def assignCells (kind : Kind) (row : Row) : List (Field × Cell) → Except Fault Row
  | [] => .ok row
  | (f, cell) :: rest =>
      match assignCell kind row f cell with
      | .error fault => .error fault
      | .ok changed => assignCells kind changed rest

/-- A row put among others in the order of identifiers. -/
def placeRow (row : Row) : List Row → List Row
  | [] => [row]
  | r :: rest => if row.id < r.id then row :: r :: rest else r :: placeRow row rest

/-- The rows with the one that has an identifier replaced. -/
def replaceRow (id : Int64) (row : Row) (rows : List Row) : List Row :=
  if row.id = id then rows.map fun r => if r.id = id then row else r
  else placeRow row (rows.filter fun r => r.id != id)

/-- Whether a row of another kind refers to an identifier. -/
def isReferenced (t : Tables) (kind : Kind) (uuid : Cell) : Bool :=
  Kind.all.any fun child =>
    child.references.any fun r => r.target = kind && t.hasRow child r.column uuid

/-- A changed identifier that rows of other kinds refer to. -/
def orphans? (t : Tables) (kind : Kind) (old new : Row) : Option Fault :=
  let uuid := old.cell kind "uuid"
  if t.isReferenced kind uuid && !uuid.same (new.cell kind "uuid") then
    some (.integrity kind .reference)
  else none

/-- A group that changes its type against the rules of the new one. -/
def misplaced? (t : Tables) (kind : Kind) (old new : Row) : Option Fault :=
  let type := new.cell .group "type_uuid"
  if kind = .group && !type.isNull && !(old.cell .group "type_uuid").same type then
    t.relationsAgainstType? (new.cell .group "uuid") type
  else none

/-- Sets fields of the row with a key; tells how many rows there were. -/
def update (t : Tables) (kind : Kind) (key : Cell) (set : List (Field × Cell)) :
    Except Fault (Tables × Nat) :=
  match t.find? kind key with
  | none => .ok (t, 0)
  | some old =>
      match assignCells kind old set with
      | .error fault => .error fault
      | .ok new =>
          let others := (t.rows kind).filter fun r => r.id != old.id
          permit (t.withRows kind (replaceRow old.id new (t.rows kind)), 1)
            ((t.misplaced? kind old new).or
              ((t.violation? kind others new).or (t.orphans? kind old new)))

/-! ## Removing rows -/

/-- The tables without the rows of a kind that a test picks. -/
def without (t : Tables) (kind : Kind) (doomed : Row → Bool) : Tables :=
  t.withRows kind ((t.rows kind).filter fun row => !doomed row)

/-- The tables without the dependent rows of a kind that refer to an identifier. -/
def withoutDependents (t : Tables) (kind : Kind) (uuid : Cell) : Tables :=
  (Kind.all.filter Kind.isDependent).foldl
    (fun t child =>
      t.without child fun row =>
        child.references.any fun r => r.target = kind && (row.cell child r.column).same uuid) t

/-- Removes the rows of a dependent kind that a test picks; tells how many. -/
def removeDependents (t : Tables) (kind : Kind) (doomed : Row → Bool) : Tables × Nat :=
  (t.without kind doomed, (t.rows kind).countP doomed)

/-- Removes the row with a key and the rows that depend on it; tells how many rows
had the key. -/
def remove (t : Tables) (kind : Kind) (key : Cell) : Except Fault (Tables × Nat) :=
  match t.find? kind key with
  | none => .ok (t, 0)
  | some row =>
      let uuid := row.cell kind "uuid"
      let rest := (t.without kind fun r => r.id = row.id).withoutDependents kind uuid
      permit (rest, 1)
        (if rest.isReferenced kind uuid then some (.integrity kind .reference) else none)

end Tables

end Shelfmark
