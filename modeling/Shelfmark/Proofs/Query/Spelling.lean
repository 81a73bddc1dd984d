import Shelfmark.Proofs.Query.Naming
import Shelfmark.Proofs.Text.Normal
import Shelfmark.Query.Selection

/-!
# Spellings of identifiers in criteria

An identifier can be written in capitals or with blanks around it, and is still the same
identifier. Which texts of a criterion are identifiers is not to be seen from the texts: it
depends on the field that the property leads to, so on the scope, and behind a relation on the
scope at the end of the route. `Criterion.canonical` follows the compiler there and writes every
identifier in its normal form, and no other text.

The compiler does not notice: both criteria get the same condition, or the same fault.
-/

namespace Shelfmark

/-! ## Values -/

/-- Whether a field holds identifiers, those of its own records or of others. -/
def FieldType.isIdentifier : FieldType → Bool
  | .identifier => true
  | .foreign _ => true
  | _ => false

/-- The value with an identifier in its normal form. -/
def FieldType.canonical (type : FieldType) (value : FieldValue) : FieldValue :=
  match type.isIdentifier, value with
  | true, .text s => .text (normalize s)
  | _, value => value

theorem Field.storeIdentifier_normalize (s : String) :
    Field.storeIdentifier (normalize s) = Field.storeIdentifier s := by
  simp only [Field.storeIdentifier, normalize_normalize]

/-- A field stores the same for every spelling of an identifier, or refuses all for the same
reason. -/
@[simp] theorem Field.toCell_canonical (f : Field) (value : FieldValue) :
    f.toCell (f.type.canonical value) = f.toCell value := by
  unfold FieldType.canonical
  split
  · rename_i s hType
    show Field.storeValue f.type (.text (normalize s)) = Field.storeValue f.type (.text s)
    cases hCase : f.type with
    | identifier => simp only [Field.storeValue, Field.storeIdentifier_normalize]
    | foreign kind => simp only [Field.storeValue, Field.storeIdentifier_normalize]
    | _ => simp [FieldType.isIdentifier, hCase] at hType
  · rfl

theorem comparedCells_canonical (kind : Kind) (f : Field) (values : List FieldValue) :
    comparedCells kind f (values.map f.type.canonical) = comparedCells kind f values := by
  induction values with
  | nil => rfl
  | cons value values ih => simp only [List.map_cons, comparedCells, Field.toCell_canonical, ih]

/-! ## Properties -/

namespace Scope

/-- The value that a property is compared with, an identifier in its normal form. -/
def canonicalValue (s : Scope) (property : String) (value : FieldValue) : FieldValue :=
  match s.resolve Route.filterProperty 0 property with
  | .ok found => found.1.field.type.canonical value
  | .error _ => value

/-- The property leads to the same field in alike scopes, whatever numbers are in use. -/
theorem Alike.canonicalValue {s s' : Scope} (h : s.Alike s') {property : String} {used : Nat}
    {found : Path × Nat} (hFound : s.resolve Route.filterProperty used property = .ok found) :
    s'.canonicalValue property = found.1.field.type.canonical := by
  have hSame := h.meaning_resolve Route.filterProperty used 0 property
  rw [hFound] at hSame
  funext value
  unfold Scope.canonicalValue
  cases hOther : s'.resolve Route.filterProperty 0 property with
  | error fault =>
      rw [hOther] at hSame
      cases hSame
  | ok other =>
      rw [hOther] at hSame
      have hMeaning : found.1.meaning = other.1.meaning := Except.ok.inj hSame
      have hField : found.1.field = other.1.field := congrArg Prod.snd hMeaning
      rw [hField]

/-- A property has one of some values in whatever spelling they are given. -/
theorem Alike.propertyCondition_canonical {s s' : Scope} (h : s.Alike s') (used : Nat)
    (property : String) (values : List FieldValue) :
    s.propertyCondition used property (values.map (s'.canonicalValue property)) =
      s.propertyCondition used property values := by
  rw [propertyCondition_eq, propertyCondition_eq]
  cases hFound : s.resolve Route.filterProperty used property with
  | error fault => rfl
  | ok found =>
      rw [h.canonicalValue hFound]
      simp only [Except.bind, comparedCells_canonical]

end Scope

/-! ## Criteria -/

namespace Criterion

mutual

/-- The criterion with all identifiers in their normal form, seen from a scope. Where there is
no route to a kind, nothing is known of what is asked of it. -/
def canonical (s : Scope) : Criterion → Criterion
  | equal property value => equal property (s.canonicalValue property value)
  | oneOf property values => oneOf property (values.map (s.canonicalValue property))
  | both left right => both (left.canonical s) (right.canonical s)
  | anyOf terms => anyOf (canonicalAll s terms)
  | related kind inner =>
      match s.kind.routeTo? kind with
      | none => related kind inner
      | some route => related kind (inner.canonical (.inner kind route 1))

/-- The criteria with all identifiers in their normal form. -/
def canonicalAll (s : Scope) : List Criterion → List Criterion
  | [] => []
  | c :: cs => c.canonical s :: canonicalAll s cs

end

mutual

/-- **The condition of a criterion does not depend on how identifiers are spelled**, and neither
does its fault. -/
theorem compile_canonical (c : Criterion) {s s' : Scope} (h : s.Alike s') (used : Nat) :
    (c.canonical s').compile s used = c.compile s used := by
  match c with
  | .equal property value => exact h.propertyCondition_canonical used property [value]
  | .oneOf property values => exact h.propertyCondition_canonical used property values
  | .both left right =>
      rw [canonical, compile_both, compile_both, left.compile_canonical h used]
      congr 1
      funext l
      rw [right.compile_canonical h l.2]
  | .anyOf terms =>
      rw [canonical, compile_anyOf, compile_anyOf, compileAll_canonical terms h used]
  | .related kind inner =>
      cases hRoute : s.kind.routeTo? kind with
      | none =>
          have hRoute' : s'.kind.routeTo? kind = none := h.kind ▸ hRoute
          rw [canonical, hRoute']
      | some route =>
          have hRoute' : s'.kind.routeTo? kind = some route := h.kind ▸ hRoute
          have hInner := inner.compile_canonical
            (Scope.alike_inner kind route (used + 1) 1) (used + 1)
          rw [canonical, hRoute']
          dsimp only
          rw [compile_related _ hRoute, compile_related _ hRoute, hInner]

theorem compileAll_canonical (cs : List Criterion) {s s' : Scope} (h : s.Alike s')
    (used : Nat) : compileAll s used (canonicalAll s' cs) = compileAll s used cs := by
  match cs with
  | [] => rfl
  | c :: cs =>
      rw [canonicalAll, compileAll_cons, compileAll_cons, c.compile_canonical h used]
      congr 1
      funext p
      rw [compileAll_canonical cs h p.2]

end

end Criterion

/-! ## Selections -/

theorem Scope.condition?_canonical (s : Scope) (criterion : Option Criterion) :
    s.condition? (criterion.map (Criterion.canonical s)) = s.condition? criterion := by
  cases criterion with
  | none => rfl
  | some c =>
      simp only [Option.map_some, Scope.condition?, c.compile_canonical (Scope.Alike.refl s)]

namespace Tables

variable {α : Type} (t : Tables) (s : Scope) (criterion : Option Criterion) (view : α → Hit)
  (items : List α)

@[simp] theorem filterBy_canonical :
    t.filterBy s (criterion.map (Criterion.canonical s)) view items =
      t.filterBy s criterion view items := by
  simp only [filterBy, Scope.condition?_canonical]

@[simp] theorem select_canonical (declared : Option Column) (options : Options) :
    t.select s declared (criterion.map (Criterion.canonical s)) options view items =
      t.select s declared criterion options view items := by
  simp only [select, Scope.condition?_canonical]

end Tables

end Shelfmark
