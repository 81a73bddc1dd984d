import Shelfmark.Record.Entity

/-!
# Statements that write records

The columns and stored values of a record or of a change, and the statements
that write them. The values of a statement stand in the order in which its text
mentions them.
-/

namespace Shelfmark

open Shelfmark.Text

/-- The text of a statement and its values. -/
structure Statement where
  text : String
  params : List Cell
  deriving DecidableEq, Repr

/-- The stored values of fields, in order; the first refused value is the fault. -/
def storedValues (kind : Kind) : Assignments → Except Fault (List (Field × Cell))
  | [] => .ok []
  | (f, value) :: rest =>
      match Fault.ofField kind f (f.toCell value) with
      | .error fault => .error fault
      | .ok cell => (storedValues kind rest).map ((f, cell) :: ·)

/-- The fields of a kind that the store does not assign itself. -/
def Kind.givenFields (kind : Kind) : List Field := kind.fields.filter fun f => f.type != .rowId

/-- The fields of a record with their values, without those that the store assigns. -/
def givenValues {α : Type} [Storable α] (record : α) : Assignments :=
  ((Storable.kind α).fields.zip (Storable.values record)).filter fun p => p.1.type != .rowId

/-- The stored values of a record. -/
def insertValues {α : Type} [Storable α] (record : α) : Except Fault (List (Field × Cell)) :=
  storedValues (Storable.kind α) (givenValues record)

/-- The mark of the value at a position, from 1. -/
def placeholder (i : Nat) : String := "?" ++ Nat.repr i

/-- The statement that inserts a record. -/
def insertStatement {α : Type} [Storable α] (record : α) : Except Fault Statement :=
  (insertValues record).map fun stored =>
    let columns := stored.map fun p => p.1.column
    let marks := (List.range columns.length).map fun i => placeholder (i + 1)
    ⟨"INSERT INTO " ++ (Storable.kind α).table ++ " (" ++ ", ".intercalate columns ++
      ") VALUES (" ++ ", ".intercalate marks ++ ")", stored.map Prod.snd⟩

/-- The stored form of a key: identifiers in their normal form, and a description of
what is neither number nor text. -/
def keyCell : FieldValue → Cell
  | .integer i => .integer i
  | .text s => .text (normalize s)
  | value => .text value.describe

/-- The statement that sets fields of the record with a key; `none` when nothing is
set. -/
def updateStatement (kind : Kind) (assignments : Assignments) (key : FieldValue) :
    Except Fault (Option Statement) :=
  if assignments.isEmpty then .ok none
  else
    (storedValues kind assignments).map fun stored =>
      let sets := stored.mapIdx fun i p => p.1.column ++ " = " ++ placeholder (i + 1)
      some ⟨"UPDATE " ++ kind.table ++ " SET " ++ ", ".intercalate sets ++ " WHERE " ++
        kind.keyColumn ++ " = " ++ placeholder (stored.length + 1),
        stored.map Prod.snd ++ [keyCell key]⟩

/-- The columns of a kind in a table that goes by a short name. -/
def selectColumns (kind : Kind) (shortName : String) : String :=
  ", ".intercalate (kind.fields.map fun f => shortName ++ "." ++ f.column)

end Shelfmark
