import Shelfmark.Query.Sort

/-!
# Selections

A selection finds the rows that satisfy a criterion, sorts them, and cuts a page
out of them. A faulty criterion is noticed before a faulty order.

Offset and length of a page are counted in 64 bits. What does not fit with a sign
is no bound at all.

The store is taken to run any statement that a criterion and an order lead to, however long
it is, however deeply its conditions are nested and however many parameters it has. A store
is built with limits on these, and one whose limits are exceeded refuses the statement: a
disjunction of a thousand criteria may be too deep for it, and a list of tens of thousands
of values too long. Such a refusal is none of the faults here, so what is said of an answer
is said of statements within the limits.
-/

namespace Shelfmark

/-- A part of a list: how many are left out, and how many are kept at most. -/
structure Page where
  offset : UInt64 := 0
  maxCount : Option UInt64 := none
  deriving DecidableEq, Repr

namespace Page

/-- How many items the page leaves out. -/
def skipped (page : Page) : Nat := page.offset.toInt64.toInt.toNat

/-- How many items the page keeps at most. -/
def limit? (page : Page) : Option Nat :=
  match page.maxCount with
  | none => none
  | some n => if n.toInt64 < 0 then none else some n.toNat

/-- The items on the page. -/
def slice {α : Type} (page : Page) (xs : List α) : List α :=
  match page.limit? with
  | none => xs.drop page.skipped
  | some n => (xs.drop page.skipped).take n

end Page

/-- How a finder sorts and which page it shows. -/
structure Options where
  page : Page := {}
  order : SortOrder := .preferred .ascending
  deriving DecidableEq, Repr

/-! ## What a query looks at -/

/-- A row of a kind, found in its table. -/
def Kind.view (kind : Kind) (row : Row) : Hit := { target := .record kind row }

/-- A link row with the row of a kind that it leads to. -/
def Kind.viewLinked (kind link : Kind) (pair : Row × Row) : Hit :=
  { link := some (.record link pair.1), target := .record kind pair.2 }

/-! ## Choosing -/

/-- The condition of an optional criterion, with how many numbers are in use. -/
def Scope.condition? (scope : Scope) (criterion : Option Criterion) :
    Except Fault (Option Condition × Nat) :=
  match criterion with
  | none => .ok (none, 0)
  | some c => (c.compile scope 0).map fun p => (some p.1, p.2)

/-- Whether a row satisfies an optional condition. -/
def satisfies (t : Tables) (condition : Option Condition) (hit : Hit) : Bool :=
  match condition with
  | none => true
  | some c => c.eval t (.ofHit hit)

/-- The items that satisfy a criterion, in the order that they are given. A criterion of any
depth and with any number of values is taken to be within the limits of the store. -/
def Tables.filterBy {α : Type} (t : Tables) (scope : Scope) (criterion : Option Criterion)
    (view : α → Hit) (items : List α) : Except Fault (List α) :=
  (scope.condition? criterion).map fun p => items.filter fun item => satisfies t p.1 (view item)

/-- The items that satisfy a criterion, sorted, on a page. The faults are those of a statement
that cannot be written; one that can is run, whatever its depth and the number of its
parameters. -/
def Tables.select {α : Type} (t : Tables) (scope : Scope) (declared : Option Column)
    (criterion : Option Criterion) (options : Options) (view : α → Hit) (items : List α) :
    Except Fault (List α) :=
  match scope.condition? criterion with
  | .error fault => .error fault
  | .ok (condition, used) =>
      match scope.sortKeys used declared options.order with
      | .error fault => .error fault
      | .ok keys =>
          let found := items.filter fun item => satisfies t condition (view item)
          .ok (options.page.slice (sortBy t keys view found))

end Shelfmark
