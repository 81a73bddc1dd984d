import Shelfmark.Query.Route

/-!
# Conditions

A criterion in which every property has been traced to a column. A condition has
two faces. As text it is an expression with a mark for every value, and the values
stand in the order of their marks. As a function it tells whether given rows
satisfy it.

A test of a value never holds of an absent cell, and no condition negates, so two
truth values are enough.
-/

namespace Shelfmark

/-- A test of columns of named rows. -/
inductive Condition where
  /-- The column equals one of the values, or is absent if that counts too. -/
  | test (column : Column) (values : List Cell) (orAbsent : Bool)
  | both (left right : Condition)
  | anyOf (terms : List Condition)
  /-- One of the rows that a route reaches from an outer row satisfies the inner test. -/
  | reaches (route : Route) (outer : RowName) (number : Nat) (inner : Condition)
  deriving Repr

/-! ## As text -/

/-- Terms of a disjunction: `0` for none, and parentheses around several. -/
def disjunction : List String → String
  | [] => "0"
  | [term] => term
  | terms => "(" ++ " or ".intercalate terms ++ ")"

/-- The test of a column against a number of values. -/
def testText (column : Column) (values : Nat) (orAbsent : Bool) : String :=
  let equals :=
    match values with
    | 0 => []
    | 1 => [column.text ++ " = ?"]
    | n => [column.text ++ " in (" ++ ", ".intercalate (List.replicate n "?") ++ ")"]
  disjunction (equals ++ if orAbsent then [column.text ++ " is null"] else [])

/-- A subquery that asks whether a route reaches a row with a property. -/
def reachesText (route : Route) (outer : RowName) (number : Nat) (inner : String) : String :=
  "exists (select 1 from " ++ route.fromText number ++ " where " ++
    route.conditionText outer number ++ " and " ++ inner ++ ")"

/-- Alternatives that a criterion lists; parentheses also around a single one. -/
def alternatives : List String → String
  | [] => "0"
  | terms => "(" ++ " or ".intercalate terms ++ ")"

namespace Condition

mutual

/-- The condition as an expression. -/
def text : Condition → String
  | test column values orAbsent => testText column values.length orAbsent
  | both left right => "(" ++ left.text ++ " and " ++ right.text ++ ")"
  | anyOf terms => alternatives (texts terms)
  | reaches route outer number inner => reachesText route outer number inner.text

/-- The expressions of several conditions. -/
def texts : List Condition → List String
  | [] => []
  | c :: cs => c.text :: texts cs

end

mutual

/-- The values, in the order of their marks. -/
def params : Condition → List Cell
  | test _ values _ => values
  | both left right => left.params ++ right.params
  | anyOf terms => allParams terms
  | reaches _ _ _ inner => inner.params

/-- The values of several conditions. -/
def allParams : List Condition → List Cell
  | [] => []
  | c :: cs => c.params ++ allParams cs

end

end Condition

/-! ## As a function -/

/-- The rows that the names of a statement stand for. -/
abbrev Env := RowName → Option SourceRow

namespace Env

/-- The names of the row looked for and of the link that led to it. -/
def ofHit (hit : Hit) : Env
  | .self => some hit.target
  | .selfLink => hit.link
  | _ => none

/-- The environment of a numbered subquery at one of its rows. -/
def bind (env : Env) (number : Nat) (hit : Hit) : Env := fun name =>
  if name = .target number then some hit.target
  else if name = .link number then hit.link
  else env name

/-- The cell of a column; absent when the row has no such name. -/
def cell (env : Env) (c : Column) : Cell := ((env c.row).map fun row => row.cell c.name).getD .null

/-- What a route reaches from a named row. -/
def reach (env : Env) (t : Tables) (route : Route) (outer : RowName) : List Hit :=
  match env outer with
  | some row => route.reach t row
  | none => []

end Env

/-- Whether a cell equals one of the values, or is absent if that counts too. -/
def Cell.among (cell : Cell) (collation : Collation) (values : List Cell) (orAbsent : Bool) : Bool :=
  values.any (fun v => cell.equals collation v) || (orAbsent && cell.isNull)

namespace Condition

mutual

/-- Whether rows satisfy the condition. -/
def eval (t : Tables) : Condition → Env → Bool
  | test column values orAbsent, env => (env.cell column).among column.collation values orAbsent
  | both left right, env => left.eval t env && right.eval t env
  | anyOf terms, env => evalAny t terms env
  | reaches route outer number inner, env =>
      (env.reach t route outer).any fun hit => inner.eval t (env.bind number hit)

/-- Whether rows satisfy one of several conditions. -/
def evalAny (t : Tables) : List Condition → Env → Bool
  | [], _ => false
  | c :: cs, env => c.eval t env || evalAny t cs env

end

end Condition

end Shelfmark
