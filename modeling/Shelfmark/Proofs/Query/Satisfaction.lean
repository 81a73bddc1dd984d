import Shelfmark.Proofs.Store.Folded
import Shelfmark.Query.Scope

/-!
# When a record satisfies a criterion

What a criterion says of a record, by recursion on the criterion and without a word about
how it is looked for.

A property designates fields of rows: of the record itself, else of the link that led to
it, else of what a route reaches from it. A test of a property holds when one of the
designated fields has one of the wanted values. A relation holds when one and the same
related record satisfies the inner criterion together with its link.

A field has a value when its cell is what the field stores for that value. So the null
value stands for what is absent, which for an index is `-1`, and no other value is had by
an absent cell. Columns that are declared to ignore case are compared by `EqualFolded`.
-/

namespace Shelfmark

/-! ## Values of fields -/

/-- Whether a stored cell is a wanted one in a column with a collation. -/
def Cell.Meets (collation : Collation) (stored wanted : Cell) : Prop :=
  stored = wanted ∨
    collation = .nocase ∧ ∃ s t, stored = .text s ∧ wanted = .text t ∧ EqualFolded s t

/-- How a column of a source is declared to compare text. -/
def Source.collation : Source → String → Collation
  | .records kind, column => kind.collation column
  | .summaries, _ => .binary

namespace SourceRow

/-- The source of a row. -/
def source : SourceRow → Source
  | record kind _ => .records kind
  | summary _ => .summaries

/-- The routes that start at a row. -/
def routes : SourceRow → List Route
  | record kind _ => kind.routes
  | summary _ => []

/-- Whether a field of the row has a value: its cell is what the field stores for it. -/
def Has (row : SourceRow) (f : Field) (value : FieldValue) : Prop :=
  ∃ wanted, f.toCell value = .ok wanted ∧
    (row.cell f.column).Meets (row.source.collation f.column) wanted

end SourceRow

/-! ## What a property designates -/

/-- The field that a plain name designates: one of the record, or else one of the link that
led to it. -/
inductive Hit.Shows (hit : Hit) (name : String) : Field → SourceRow → Prop where
  | own {f : Field} (hField : f ∈ hit.target.source.fields) (hName : f.name = name) :
      Shows hit name f hit.target
  | link {f : Field} {x : SourceRow} (hOwn : ∀ g ∈ hit.target.source.fields, g.name ≠ name)
      (hLink : hit.link = some x) (hField : f ∈ x.source.fields) (hName : f.name = name) :
      Shows hit name f x

/-- Cells that agree; an absent cell agrees with nothing. -/
def Cell.Agrees (a b : Cell) : Prop := a = b ∧ a ≠ .null

/-- Whether a hit keeps to a restriction. -/
def Hit.Keeps (hit : Hit) (rule : Restriction) : Prop :=
  ∃ row, (if rule.onLink then hit.link = some row else hit.target = row) ∧
    row.cell rule.column = .text rule.value

/-- Whether a join ties a hit to an outer row: a column of the hit agrees with one of the
outer row, or a link row agrees with both. -/
def Join.Ties (t : Tables) (outer : SourceRow) (hit : Hit) : Join → Prop
  | .direct column outerColumn =>
      hit.link = none ∧ (hit.target.cell column).Agrees (outer.cell outerColumn)
  | .through link anchor reference =>
      ∃ x ∈ t.rows link, hit.link = some (.record link x) ∧
        (x.cell link anchor).Agrees (outer.cell "uuid") ∧
        (hit.target.cell "uuid").Agrees (x.cell link reference)

/-- What a route reaches from a row: the rows at its end that its join ties to the row, as
far as they keep to its restriction. -/
def Route.Leads (t : Tables) (r : Route) (outer : SourceRow) (hit : Hit) : Prop :=
  hit.target ∈ r.target.rows t ∧ r.join.Ties t outer hit ∧
    ∀ rule ∈ r.restriction, hit.Keeps rule

/-- The fields that a property designates, seen from a hit. A path `name#inner` designates
`inner` at the end of the route `name`; a name that designates nothing nearer stands for
the usual property of the route of that name. -/
inductive Hit.Designates (t : Tables) (hit : Hit) : String → Field → SourceRow → Prop where
  | here {name : String} {f : Field} {row : SourceRow} (h : hit.Shows name f row) :
      Designates t hit name f row
  | path {route : Route} {reached : Hit} {inner : String} {f : Field} {row : SourceRow}
      (hRoute : route ∈ hit.target.routes) (hLeads : route.Leads t hit.target reached)
      (h : reached.Shows inner f row) : Designates t hit (route.name ++ "#" ++ inner) f row
  | usual {route : Route} {reached : Hit} {f : Field} {row : SourceRow}
      (hRoute : route ∈ hit.target.routes) (hFar : ∀ g x, ¬ hit.Shows route.name g x)
      (hLeads : route.Leads t hit.target reached)
      (h : reached.Shows route.filterProperty f row) : Designates t hit route.name f row

/-- Whether a field that a property designates has one of some values. -/
def Hit.HasOne (t : Tables) (hit : Hit) (property : String) (values : List FieldValue) : Prop :=
  ∃ f row, hit.Designates t property f row ∧ ∃ value ∈ values, row.Has f value

/-! ## Satisfaction -/

namespace Criterion

mutual

/-- Whether a record, with the link that led to it, satisfies a criterion. -/
def Holds (t : Tables) : Criterion → Hit → Prop
  | equal property value, hit => hit.HasOne t property [value]
  | oneOf property values, hit => hit.HasOne t property values
  | both left right, hit => left.Holds t hit ∧ right.Holds t hit
  | anyOf terms, hit => OneHolds t terms hit
  | related kind inner, hit =>
      ∃ route ∈ hit.target.routes, route.target = .records kind ∧ route.restriction = none ∧
        ∃ reached, route.Leads t hit.target reached ∧ inner.Holds t reached

/-- Whether it satisfies one of several. -/
def OneHolds (t : Tables) : List Criterion → Hit → Prop
  | [], _ => False
  | c :: cs, hit => c.Holds t hit ∨ OneHolds t cs hit

end

end Criterion

end Shelfmark
