import Shelfmark.Store.Rule

/-!
# Routes between kinds

A route leads from a record to a list of related records: straight by a column
that holds an identifier, or through the rows of a link table. It may keep to one
role or to groups of one type. Summaries of resources are reached by a route like
records.

A route has two faces. As text it is the `from` and `where` part of a subquery in
which the rows have short names with a number. As a function it gives the rows
themselves, in the order in which they were linked, or in the order of their keys
where no link is between.
-/

namespace Shelfmark

/-- Where a route leads. -/
inductive Source where
  | records (kind : Kind)
  | summaries
  deriving DecidableEq, Repr

/-- A row of a source. -/
inductive SourceRow where
  | record (kind : Kind) (row : Row)
  | summary (summary : Summary)
  deriving DecidableEq, Repr

/-- How the rows at the end of a route are found: by a column that equals a column of
the outer row, or through links whose one end is the outer row. -/
inductive Join where
  | direct (column outerColumn : String)
  | through (link : Kind) (anchor reference : String)
  deriving DecidableEq, Repr

/-- A column of the link or of the target that must have a value. -/
structure Restriction where
  onLink : Bool
  column : String
  value : String
  deriving DecidableEq, Repr

/-- A route: its name, where it leads and how, what it keeps to, and which property
stands for it in criteria and in sort orders. -/
structure Route where
  name : String
  target : Source
  join : Join
  restriction : Option Restriction := none
  filterProperty : String
  sortProperty : String
  deriving DecidableEq, Repr

/-! ## Short names of rows -/

/-- The name of a row in a statement: the row looked for, the link that led to it, or
the target or link row of a numbered subquery. -/
inductive RowName where
  | self
  | selfLink
  | target (number : Nat)
  | link (number : Nat)
  deriving DecidableEq, Repr

/-- The name as text. -/
def RowName.text : RowName → String
  | self => "o"
  | selfLink => "l"
  | target n => "t" ++ Nat.repr n
  | link n => "x" ++ Nat.repr n

/-- A column of a named row. -/
structure Column where
  row : RowName
  name : String
  collation : Collation := .binary
  deriving DecidableEq, Repr

/-- The column as text. -/
def Column.text (c : Column) : String := c.row.text ++ "." ++ c.name

/-- A column of a row of a kind. -/
def Kind.column (kind : Kind) (row : RowName) (name : String) : Column :=
  ⟨row, name, kind.collation name⟩

namespace Source

/-- The kind that faults about the source mention. -/
def kind : Source → Kind
  | records kind => kind
  | summaries => .resource

/-- The fields of the rows. -/
def fields : Source → List Field
  | records kind => kind.fields
  | summaries => summaryFields

/-- The table or view. -/
def table : Source → String
  | records kind => kind.table
  | summaries => "resource_summaries"

/-- The column that identifies a row. -/
def keyColumn : Source → String
  | records kind => kind.keyColumn
  | summaries => "uuid"

/-- A column of a row of the source. -/
def column : Source → RowName → String → Column
  | records kind, row, name => kind.column row name
  | summaries, row, name => ⟨row, name, .binary⟩

/-- All rows of the source. -/
def rows (t : Tables) : Source → List SourceRow
  | records kind => (t.rows kind).map (.record kind)
  | summaries => t.summaries.map .summary

end Source

/-- The cell of a column. -/
def SourceRow.cell : SourceRow → String → Cell
  | record kind row, column => row.cell kind column
  | summary s, column => s.cell column

/-! ## The routes of each kind -/

namespace Route

/-- The route to the persons of a resource, or to those with a role. -/
def persons (name : String) (role : Option PersonRole) : Route :=
  { name := name, target := .records .person
    join := .through .personRelation "resource_uuid" "person_uuid"
    restriction := role.map fun r => ⟨true, "relation", r.word⟩
    filterProperty := "name", sortProperty := "nameSort" }

/-- The route to the groups of a resource, or to those of a type. -/
def groups (name : String) (typeUuid : Option String) : Route :=
  { name := name, target := .records .group
    join := .through .groupRelation "resource_uuid" "group_uuid"
    restriction := typeUuid.map fun uuid => ⟨false, "type_uuid", uuid⟩
    filterProperty := "title", sortProperty := "titleSort" }

/-- The route to the objects of a resource, or to those with a role. -/
def objects (name : String) (role : Option ObjectRole) : Route :=
  { name := name, target := .records .objectRelation
    join := .direct "resource_uuid" "uuid"
    restriction := role.map fun r => ⟨false, "role", r.word⟩
    filterProperty := "tag", sortProperty := "tag" }

/-- The route to the summary of a resource. -/
def summary : Route :=
  { name := "summary", target := .summaries, join := .direct "uuid" "uuid"
    filterProperty := "authors", sortProperty := "authors" }

/-- The route back to resources through a link table. -/
def resources (link : Kind) (anchor : String) : Route :=
  { name := "resources", target := .records .resource
    join := .through link anchor "resource_uuid"
    filterProperty := "title", sortProperty := "titleSort" }

/-- The route from a group to its type. -/
def groupType : Route :=
  { name := "groupType", target := .records .groupType, join := .direct "uuid" "type_uuid"
    filterProperty := "name", sortProperty := "name" }

/-- The route from a type to its groups. -/
def groupsOfType : Route :=
  { name := "groups", target := .records .group, join := .direct "type_uuid" "uuid"
    filterProperty := "title", sortProperty := "titleSort" }

/-- The route from an object to its resource. -/
def resourceOfObject : Route :=
  { name := "resource", target := .records .resource, join := .direct "uuid" "resource_uuid"
    filterProperty := "title", sortProperty := "titleSort" }

end Route

/-- The routes that start at a kind. -/
def Kind.routes : Kind → List Route
  | .resource =>
      [.persons "persons" none, .persons "authors" (some .author),
        .persons "editors" (some .editor), .persons "translators" (some .translator),
        .groups "groups" none, .groups "tags" (some tagTypeUuid),
        .groups "series" (some seriesTypeUuid), .groups "categories" (some categoryTypeUuid),
        .groups "languages" (some languageTypeUuid), .objects "objects" none,
        .objects "formats" (some .format), .objects "covers" (some .cover), .summary]
  | .person => [.resources .personRelation "person_uuid"]
  | .group => [.resources .groupRelation "group_uuid", .groupType]
  | .groupType => [.groupsOfType]
  | .objectRelation => [.resourceOfObject]
  | _ => []

/-- The route from a kind with a name. -/
def Kind.route? (kind : Kind) (name : String) : Option Route :=
  kind.routes.find? fun r => r.name = name

/-- The route that leads from a kind to all related records of another. -/
def Kind.routeTo? (kind target : Kind) : Option Route :=
  kind.routes.find? fun r => r.target = .records target && r.restriction.isNone

namespace Route

/-- The link table that the route goes through. -/
def link? (r : Route) : Option Kind :=
  match r.join with
  | .direct _ _ => none
  | .through link _ _ => some link

/-! ## The route as text -/

/-- The tables of the subquery with a number. -/
def fromText (r : Route) (n : Nat) : String :=
  let t := (RowName.target n).text
  let x := (RowName.link n).text
  match r.join with
  | .direct _ _ => r.target.table ++ " " ++ t
  | .through link _ reference =>
      link.table ++ " " ++ x ++ " join " ++ r.target.table ++ " " ++ t ++ " on " ++ t ++
        ".uuid = " ++ x ++ "." ++ reference

/-- What the restriction says. -/
def restrictionText (r : Route) (n : Nat) : String :=
  match r.restriction with
  | none => ""
  | some rule =>
      let row := if rule.onLink then RowName.link n else RowName.target n
      " and " ++ row.text ++ "." ++ rule.column ++ " = '" ++ rule.value ++ "'"

/-- The condition that ties the subquery with a number to an outer row. -/
def conditionText (r : Route) (outer : RowName) (n : Nat) : String :=
  (match r.join with
    | .direct column outerColumn =>
        (RowName.target n).text ++ "." ++ column ++ " = " ++ outer.text ++ "." ++ outerColumn
    | .through _ anchor _ =>
        (RowName.link n).text ++ "." ++ anchor ++ " = " ++ outer.text ++ ".uuid") ++
    r.restrictionText n

/-- The column by which the rows of the subquery are ordered. -/
def orderText (r : Route) (n : Nat) : String :=
  match r.join with
  | .direct _ _ => (RowName.target n).text ++ "." ++ r.target.keyColumn
  | .through _ _ _ => (RowName.link n).text ++ ".rowid"

end Route

/-! ## The rows that a route reaches -/

/-- A row that is reached, with the link row that led to it if there is one. -/
structure Hit where
  link : Option SourceRow := none
  target : SourceRow
  deriving DecidableEq, Repr

namespace Hit

/-- Whether the hit keeps to a restriction. -/
def obeys (hit : Hit) (rule : Restriction) : Bool :=
  if rule.onLink then
    match hit.link with
    | some x => (x.cell rule.column).same (.text rule.value)
    | none => false
  else (hit.target.cell rule.column).same (.text rule.value)

end Hit

/-- Rows in the order of a column. -/
def sortRows (column : String) (rows : List SourceRow) : List SourceRow :=
  rows.mergeSort fun a b => (a.cell column).order .binary (b.cell column) != .gt

namespace Route

/-- The rows that the join finds for an outer row. -/
def joined (t : Tables) (r : Route) (outer : SourceRow) : List Hit :=
  match r.join with
  | .direct column outerColumn =>
      let found := (r.target.rows t).filter fun row => (row.cell column).same (outer.cell outerColumn)
      (sortRows r.target.keyColumn found).map fun row => { target := row }
  | .through link anchor reference =>
      let links := t.rowsWhere link anchor (outer.cell "uuid")
      links.flatMap fun x =>
        ((r.target.rows t).filter fun row => (row.cell "uuid").same (x.cell link reference)).map
          fun row => { link := some (.record link x), target := row }

/-- The rows that the route reaches from an outer row, first things first. -/
def reach (t : Tables) (r : Route) (outer : SourceRow) : List Hit :=
  match r.restriction with
  | none => r.joined t outer
  | some rule => (r.joined t outer).filter fun hit => hit.obeys rule

end Route

end Shelfmark
