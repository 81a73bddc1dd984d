import Shelfmark.Query.Scope

/-!
# Sort orders

What is found is sorted by properties, each ascending or descending, or in the
order that is natural for its kind. What is absent counts as lower than anything
else. The identifier of the record comes last, then the identifier of the link
that led to it, so an order never leaves two rows undecided.

A property reached by a route is the one of the first row that the route reaches.
-/

namespace Shelfmark

/-- The direction of a sort key. -/
inductive Direction where
  | ascending
  | descending
  deriving DecidableEq, Repr

namespace Direction

/-- The direction as a word. -/
def word : Direction → String
  | ascending => "asc"
  | descending => "desc"

/-- The direction that a text names. -/
def ofText (s : String) : Except Fault Direction :=
  match normalize s with
  | "asc" => .ok ascending
  | "ascending" => .ok ascending
  | "desc" => .ok descending
  | "descending" => .ok descending
  | other => .error (.criteria (.notADirection other))

/-- The direction of a sort key as text. -/
def text : Direction → String
  | ascending => "asc nulls first"
  | descending => "desc nulls last"

/-- A comparison in the direction. -/
def turn : Direction → Ordering → Ordering
  | ascending, o => o
  | descending, o => o.swap

end Direction

/-- How to sort: in the natural order, or by properties. -/
inductive SortOrder where
  | preferred (direction : Direction)
  | byKeys (keys : List (String × Direction))
  deriving DecidableEq, Repr

/-- A compiled sort key. Without a direction it ascends. -/
structure SortKey where
  via : Option Subquery := none
  column : Column
  /-- Whether -1 counts as absent. -/
  isIndex : Bool := false
  /-- Whether the case of letters is ignored. -/
  nocase : Bool := false
  direction : Option Direction := none
  deriving DecidableEq, Repr

/-- The property that the records of a kind are naturally sorted by. -/
def Kind.sortProperty? : Kind → Option String
  | .resource => some "titleSort"
  | .group => some "titleSort"
  | .person => some "nameSort"
  | .groupType => some "name"
  | .objectRelation => some "tag"
  | _ => none

/-! ## Compilation -/

/-- What makes two paths the same property: the column of a row in scope, or the
property of a route. -/
inductive PropertyKey where
  | column (row : RowName) (name : String)
  | foreign (route property : String)
  deriving DecidableEq, Repr

/-- The property that a path leads to. -/
def Path.propertyKey (path : Path) : PropertyKey :=
  match path.via with
  | none => .column path.column.row path.column.name
  | some via => .foreign via.route.name path.field.name

/-- The sort key of a path. -/
def Path.sortKey (path : Path) (direction : Direction) : SortKey :=
  { via := path.via, column := path.column, isIndex := path.field.type = .index,
    nocase := path.field.nocase, direction := some direction }

/-- The sort keys of properties that differ from those seen before. -/
def Scope.propertyKeys (scope : Scope) (used : Nat) (seen : List PropertyKey) :
    List (String × Direction) → Except Fault (List SortKey)
  | [] => .ok []
  | (property, direction) :: rest =>
      match scope.resolve Route.sortProperty used property with
      | .error fault => .error fault
      | .ok (path, used) =>
          if seen.contains path.propertyKey then .error (.criteria (.sortedTwice property))
          else
            (scope.propertyKeys used (path.propertyKey :: seen) rest).map
              (path.sortKey direction :: ·)

/-- The keys that end every order: the identifier of the row, then that of its link. -/
def Scope.lastKeys (scope : Scope) : List SortKey :=
  { column := scope.kind.column scope.self scope.kind.keyColumn } ::
    match scope.link with
    | none => []
    | some (link, row) => [{ column := link.column row "rowid" }]

/-- The sort keys of an order. A scope of related records may have a natural order of
its own, by a declared column. -/
def Scope.sortKeys (scope : Scope) (used : Nat) (declared : Option Column) (order : SortOrder) :
    Except Fault (List SortKey) :=
  let first : Except Fault (List SortKey) :=
    match order, declared with
    | .preferred direction, some column =>
        .ok [{ column := column, direction := some direction }]
    | .preferred direction, none =>
        scope.propertyKeys used [] (scope.kind.sortProperty?.toList.map fun p => (p, direction))
    | .byKeys keys, _ => scope.propertyKeys used [] keys
  first.map (· ++ scope.lastKeys)

/-! ## As text -/

namespace SortKey

/-- The column, or the first one of the subquery. -/
def valueText (key : SortKey) : String :=
  match key.via with
  | none => key.column.text
  | some via =>
      "(select " ++ key.column.text ++ " from " ++ via.route.fromText via.number ++ " where " ++
        via.route.conditionText via.outer via.number ++ " order by " ++
        via.route.orderText via.number ++ " limit 1)"

/-- The key as text. -/
def text (key : SortKey) : String :=
  (if key.isIndex then "nullif(" ++ key.valueText ++ ", -1)" else key.valueText) ++
    (if key.nocase then " collate nocase" else "") ++
    match key.direction with
    | some direction => " " ++ direction.text
    | none => ""

end SortKey

/-- The clause of an order. -/
def orderText (keys : List SortKey) : String :=
  "order by " ++ ", ".intercalate (keys.map SortKey.text)

/-! ## As a comparison -/

namespace SortKey

/-- The value that rows are sorted by. -/
def value (t : Tables) (key : SortKey) (env : Env) : Cell :=
  let cell :=
    match key.via with
    | none => env.cell key.column
    | some via =>
        match env.reach t via.route via.outer with
        | [] => .null
        | hit :: _ => (env.bind via.number hit).cell key.column
  if key.isIndex && cell.same (.integer (-1)) then .null else cell

/-- How the key compares text. -/
def collation (key : SortKey) : Collation := if key.nocase then .nocase else key.column.collation

/-- The order of two values of the key. -/
def compare (key : SortKey) (a b : Cell) : Ordering :=
  (key.direction.getD .ascending).turn (a.order key.collation b)

end SortKey

/-- The order of two lists of values: the first key that decides. -/
def compareKeys : List SortKey → List Cell → List Cell → Ordering
  | key :: keys, a :: as, b :: bs => (key.compare a b).then (compareKeys keys as bs)
  | _, _, _ => .eq

/-- Items in the order of the keys, each seen as a row that a query looks at. -/
def sortBy {α : Type} (t : Tables) (keys : List SortKey) (view : α → Hit) (items : List α) : List α :=
  let valued := items.map fun item => (keys.map fun key => key.value t (.ofHit (view item)), item)
  (valued.mergeSort fun a b => compareKeys keys a.1 b.1 != .gt).map Prod.snd

end Shelfmark
