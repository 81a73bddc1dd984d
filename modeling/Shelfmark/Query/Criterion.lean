import Shelfmark.Record.FieldValue
import Shelfmark.Record.Kind

/-!
# Criteria

What to look for. A criterion tests properties of a record and of what is related
to it. A property is a field of the record, a field of the link that led to it, or
a field reached by a route: `authors#nameSort` is the sort name of one of the
authors. A route alone stands for its usual property.
-/

namespace Shelfmark

/-- A test of a record. -/
inductive Criterion where
  | equal (property : String) (value : FieldValue)
  | oneOf (property : String) (values : List FieldValue)
  | both (left right : Criterion)
  | anyOf (terms : List Criterion)
  | related (kind : Kind) (inner : Criterion)
  deriving Repr

/-- The two parts of a path around its first `#`; `none` without one. -/
def splitPath? (property : String) : Option (String × String) :=
  let cs := property.toList
  if cs.contains '#' then
    some (String.ofList (cs.takeWhile (· != '#')), String.ofList ((cs.dropWhile (· != '#')).drop 1))
  else none

end Shelfmark
