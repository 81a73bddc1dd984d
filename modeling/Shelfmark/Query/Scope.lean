import Shelfmark.Query.Condition
import Shelfmark.Query.Criterion

/-!
# From criteria to conditions

Properties are traced from a scope, the row looked for with the link that led to
it. A name without `#` is a field of the row, else a field of the link, else a
route that stands for its usual property. What follows `#` is a field at the end
of the route, else a field of the link on the way.

Every subquery gets the next number, so no two of them share a row name. Values
are checked and converted by the field that they are compared with.
-/

namespace Shelfmark

/-- The row that criteria are about, and the link that led to it. -/
structure Scope where
  kind : Kind
  self : RowName := .self
  link : Option (Kind × RowName) := none
  deriving DecidableEq, Repr

namespace Scope

/-- The scope of records found in their table. -/
def records (kind : Kind) : Scope := { kind := kind }

/-- The scope of records found through links. -/
def linked (kind link : Kind) : Scope := { kind := kind, link := some (link, .selfLink) }

/-- The scope at the end of a route, in the subquery with a number. -/
def inner (kind : Kind) (route : Route) (number : Nat) : Scope :=
  { kind := kind, self := .target number
    link := route.link?.map fun link => (link, .link number) }

end Scope

/-- The subquery that a path goes through. -/
structure Subquery where
  route : Route
  outer : RowName
  number : Nat
  deriving DecidableEq, Repr

/-- What a property leads to: a column, perhaps in a subquery, and its field. -/
structure Path where
  via : Option Subquery := none
  column : Column
  kind : Kind
  field : Field
  deriving DecidableEq, Repr

namespace Scope

/-- The path to a field of the row or of its link. -/
def fieldPath? (scope : Scope) (name : String) : Option Path :=
  match scope.kind.field? name with
  | some f =>
      some { column := scope.kind.column scope.self f.column, kind := scope.kind, field := f }
  | none =>
      match scope.link with
      | none => none
      | some (link, row) =>
          (link.field? name).map fun f =>
            { column := link.column row f.column, kind := link, field := f }

/-- The path to a field at the end of a route or of the link on the way. -/
def routePath? (scope : Scope) (route : Route) (number : Nat) (name : String) : Option Path :=
  let via : Subquery := ⟨route, scope.self, number⟩
  match route.target.fields.find? fun f => f.name = name with
  | some f =>
      some
        { via := via, column := route.target.column (.target number) f.column,
          kind := route.target.kind, field := f }
  | none =>
      match route.link? with
      | none => none
      | some link =>
          (link.field? name).map fun f =>
            { via := via, column := link.column (.link number) f.column, kind := link, field := f }

/-- The path of a property from a scope, with how many numbers are in use after
it. The function tells which property a route alone stands for. -/
def resolve (scope : Scope) (usual : Route → String) (used : Nat) (property : String) :
    Except Fault (Path × Nat) :=
  let unknown : Except Fault (Path × Nat) := .error (.unknownProperty scope.kind property)
  let byRoute (name : String) (inner : Option String) : Except Fault (Path × Nat) :=
    match scope.kind.route? name with
    | none => unknown
    | some route =>
        match scope.routePath? route (used + 1) (inner.getD (usual route)) with
        | none => unknown
        | some path => .ok (path, used + 1)
  match splitPath? property with
  | some (name, inner) => byRoute name (some inner)
  | none =>
      match scope.fieldPath? property with
      | some path => .ok (path, used)
      | none => byRoute property none

end Scope

/-- The stored forms of values to compare with a field; the first refused value is
the fault. -/
def comparedCells (kind : Kind) (f : Field) : List FieldValue → Except Fault (List Cell)
  | [] => .ok []
  | value :: values =>
      match Fault.ofField kind f (f.toCell value) with
      | .error fault => .error fault
      | .ok cell => (comparedCells kind f values).map (cell :: ·)

/-- The condition that a path leads to one of some cells. -/
def Path.condition (path : Path) (cells : List Cell) : Condition :=
  let test :=
    Condition.test path.column (cells.filter fun c => !c.isNull) (cells.any Cell.isNull)
  match path.via with
  | none => test
  | some via => .reaches via.route via.outer via.number test

/-- The condition that a property has one of some values. -/
def Scope.propertyCondition (scope : Scope) (used : Nat) (property : String)
    (values : List FieldValue) : Except Fault (Condition × Nat) :=
  match scope.resolve Route.filterProperty used property with
  | .error fault => .error fault
  | .ok (path, used) =>
      match comparedCells path.kind path.field values with
      | .error fault => .error fault
      | .ok cells => .ok (path.condition cells, used)

namespace Criterion

mutual

/-- The condition of a criterion, with how many numbers are in use after it. -/
def compile (scope : Scope) (used : Nat) : Criterion → Except Fault (Condition × Nat)
  | equal property value => scope.propertyCondition used property [value]
  | oneOf property values => scope.propertyCondition used property values
  | both left right =>
      match left.compile scope used with
      | .error fault => .error fault
      | .ok (l, used) =>
          match right.compile scope used with
          | .error fault => .error fault
          | .ok (r, used) => .ok (.both l r, used)
  | anyOf terms =>
      match compileAll scope used terms with
      | .error fault => .error fault
      | .ok (conditions, used) => .ok (.anyOf conditions, used)
  | related kind inner =>
      match scope.kind.routeTo? kind with
      | none => .error (.criteria (.noRelation scope.kind kind))
      | some route =>
          match inner.compile (.inner kind route (used + 1)) (used + 1) with
          | .error fault => .error fault
          | .ok (condition, after) =>
              .ok (.reaches route scope.self (used + 1) condition, after)

/-- The conditions of several criteria, from left to right. -/
def compileAll (scope : Scope) (used : Nat) :
    List Criterion → Except Fault (List Condition × Nat)
  | [] => .ok ([], used)
  | c :: cs =>
      match c.compile scope used with
      | .error fault => .error fault
      | .ok (condition, used) =>
          match compileAll scope used cs with
          | .error fault => .error fault
          | .ok (conditions, used) => .ok (condition :: conditions, used)

end

/-- The condition of a criterion alone. -/
def condition (scope : Scope) (c : Criterion) : Except Fault Condition :=
  (c.compile scope 0).map Prod.fst

end Criterion

end Shelfmark
