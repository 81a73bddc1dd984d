import Shelfmark.Query.Scope

/-!
# Faults do not depend on names

A scope says of which kind a row is and by a link of which kind it was found, and how the two
are called in the text of a statement. What is wrong with a criterion has nothing to do with
these names, nor with the numbers of subqueries: in scopes of the same kinds, a criterion has
the same fault or makes sense in both. So it is all the same whether a criterion stands alone
or behind a route.

A property is traced to a column under its name in the statement, and to a field of a kind.
The column is only written down; `Path.meaning` is the part that can be at fault, and it is
the same in alike scopes.
-/

namespace Shelfmark

/-! ## Faults of answers -/

/-- The fault of an answer that fails. -/
def fault? {ε α : Type} : Except ε α → Option ε
  | .ok _ => none
  | .error fault => some fault

section

variable {ε α β : Type}

@[simp] theorem fault?_ok (a : α) : fault? (.ok a : Except ε α) = none := rfl

@[simp] theorem fault?_error (fault : ε) : fault? (.error fault : Except ε α) = some fault := rfl

@[simp] theorem fault?_map (answer : Except ε α) (f : α → β) :
    fault? (answer.map f) = fault? answer := by
  cases answer <;> rfl

theorem fault?_eq_none_iff {answer : Except ε α} : fault? answer = none ↔ ∃ a, answer = .ok a := by
  cases answer <;> simp

variable {γ δ : Type} {answer : Except ε α} {other : Except ε β} {f : α → Except ε γ}
  {g : β → Except ε δ}

/-- What follows on answers that tell the same has the same fault, if it depends only on what
they tell. -/
theorem fault?_bind_of_map {τ : Type} {tells : α → τ} {tells' : β → τ}
    (h : answer.map tells = other.map tells')
    (hNext : ∀ a b, tells a = tells' b → fault? (f a) = fault? (g b)) :
    fault? (answer.bind f) = fault? (other.bind g) := by
  cases answer with
  | error fault =>
      cases other with
      | error fault' => exact congrArg some (Except.error.inj h)
      | ok b => cases h
  | ok a =>
      cases other with
      | error fault => cases h
      | ok b => exact hNext a b (Except.ok.inj h)

/-- What follows on answers with the same fault has the same fault. -/
theorem fault?_bind (h : fault? answer = fault? other)
    (hNext : ∀ a b, fault? (f a) = fault? (g b)) :
    fault? (answer.bind f) = fault? (other.bind g) := by
  have hSame : answer.map (fun _ => ()) = other.map (fun _ => ()) := by
    cases answer <;> cases other <;> simp_all [Except.map]
  exact fault?_bind_of_map hSame fun a b _ => hNext a b

end

/-! ## Properties -/

/-- The field that a path leads to, with its kind. -/
def Path.meaning (path : Path) : Kind × Field := (path.kind, path.field)

/-- Scopes that differ in names only. -/
structure Scope.Alike (s s' : Scope) : Prop where
  kind : s.kind = s'.kind
  link : s.link.map Prod.fst = s'.link.map Prod.fst

variable {s s' : Scope}

theorem Scope.Alike.refl (s : Scope) : s.Alike s := ⟨rfl, rfl⟩

theorem Scope.alike_inner (kind : Kind) (route : Route) (number other : Nat) :
    (Scope.inner kind route number).Alike (.inner kind route other) where
  kind := rfl
  link := by simp [Scope.inner, Function.comp_def]

/-- A route leads to the same field whatever the rows are called. -/
theorem Scope.meaning_routePath? (s s' : Scope) (route : Route) (number other : Nat)
    (name : String) :
    (s.routePath? route number name).map Path.meaning =
      (s'.routePath? route other name).map Path.meaning := by
  unfold routePath?
  cases route.target.fields.find? fun f => f.name = name with
  | some f => rfl
  | none =>
      cases route.link? with
      | none => rfl
      | some link => simp [Option.map_map, Function.comp_def, Path.meaning]

/-- A property is traced before the values are converted. -/
theorem Scope.propertyCondition_eq (s : Scope) (used : Nat) (property : String)
    (values : List FieldValue) :
    s.propertyCondition used property values =
      (s.resolve Route.filterProperty used property).bind fun p =>
        (comparedCells p.1.kind p.1.field values).map fun cells => (p.1.condition cells, p.2) := by
  unfold propertyCondition
  cases s.resolve Route.filterProperty used property with
  | error fault => rfl
  | ok p =>
      cases hCells : comparedCells p.1.kind p.1.field values <;>
        simp [Except.bind, hCells, Except.map]

namespace Scope.Alike

theorem meaning_fieldPath? (h : s.Alike s') (name : String) :
    (s.fieldPath? name).map Path.meaning = (s'.fieldPath? name).map Path.meaning := by
  have hLink := h.link
  unfold fieldPath?
  rw [h.kind]
  cases s'.kind.field? name with
  | some f => rfl
  | none =>
      cases hs : s.link with
      | none =>
          rw [hs, Option.map_none, eq_comm, Option.map_eq_none_iff] at hLink
          rw [hLink]
      | some p =>
          rw [hs, Option.map_some, eq_comm, Option.map_eq_some_iff] at hLink
          obtain ⟨q, hs', hKind⟩ := hLink
          rw [hs']
          simp [hKind, Option.map_map, Function.comp_def, Path.meaning]

private theorem meaning_found {p q : Option Path} (h : p.map Path.meaning = q.map Path.meaning)
    (fault : Fault) (used other : Nat) :
    Except.map (fun found : Path × Nat => found.1.meaning)
        (match p with
          | none => .error fault
          | some path => .ok (path, used)) =
      Except.map (fun found : Path × Nat => found.1.meaning)
        (match q with
          | none => .error fault
          | some path => .ok (path, other)) := by
  cases p <;> cases q <;> simp_all [Except.map]

/-- **A property has the same meaning in alike scopes**, or the same fault. -/
theorem meaning_resolve (h : s.Alike s') (usual : Route → String) (used other : Nat)
    (property : String) :
    (s.resolve usual used property).map (fun found => found.1.meaning) =
      (s'.resolve usual other property).map (fun found => found.1.meaning) := by
  have hField := h.meaning_fieldPath? property
  unfold resolve
  dsimp only
  rw [h.kind]
  split
  · rename_i name inner _
    cases s'.kind.route? name with
    | none => rfl
    | some route => exact meaning_found (s.meaning_routePath? s' route _ _ _) _ _ _
  · cases hs : s.fieldPath? property with
    | some path =>
        rw [hs, Option.map_some, eq_comm, Option.map_eq_some_iff] at hField
        obtain ⟨other, hs', hMeaning⟩ := hField
        rw [hs']
        exact congrArg Except.ok hMeaning.symm
    | none =>
        rw [hs, Option.map_none, eq_comm, Option.map_eq_none_iff] at hField
        rw [hField]
        dsimp only
        cases s'.kind.route? property with
        | none => rfl
        | some route => exact meaning_found (s.meaning_routePath? s' route _ _ _) _ _ _

theorem fault?_propertyCondition (h : s.Alike s') (used other : Nat) (property : String)
    (values : List FieldValue) :
    fault? (s.propertyCondition used property values) =
      fault? (s'.propertyCondition other property values) := by
  rw [propertyCondition_eq, propertyCondition_eq]
  refine fault?_bind_of_map (h.meaning_resolve Route.filterProperty used other property) ?_
  rintro ⟨path, after⟩ ⟨path', after'⟩ hMeaning
  obtain ⟨hKind, hField⟩ := Prod.mk.inj hMeaning
  dsimp only at hKind hField ⊢
  rw [fault?_map, fault?_map, hKind, hField]

end Scope.Alike

/-! ## Criteria -/

namespace Criterion

/-- One part is compiled after the other. -/
theorem compile_both (left right : Criterion) (s : Scope) (used : Nat) :
    (both left right).compile s used =
      (left.compile s used).bind fun l => (right.compile s l.2).map fun r => (.both l.1 r.1, r.2) := by
  rw [compile]
  cases left.compile s used with
  | error fault => rfl
  | ok l => cases hRight : right.compile s l.2 <;> simp [Except.bind, hRight, Except.map]

theorem compile_anyOf (terms : List Criterion) (s : Scope) (used : Nat) :
    (anyOf terms).compile s used = (compileAll s used terms).map fun p => (.anyOf p.1, p.2) := by
  rw [compile]
  cases compileAll s used terms <;> rfl

theorem compileAll_cons (c : Criterion) (cs : List Criterion) (s : Scope) (used : Nat) :
    compileAll s used (c :: cs) =
      (c.compile s used).bind fun p => (compileAll s p.2 cs).map fun q => (p.1 :: q.1, q.2) := by
  rw [compileAll]
  cases c.compile s used with
  | error fault => rfl
  | ok p => cases hRest : compileAll s p.2 cs <;> simp [Except.bind, hRest, Except.map]

/-- Behind a route, the inner criterion is compiled in the scope of the subquery. -/
theorem compile_related {kind : Kind} {route : Route} (inner : Criterion) {s : Scope}
    (hRoute : s.kind.routeTo? kind = some route) (used : Nat) :
    (related kind inner).compile s used =
      (inner.compile (.inner kind route (used + 1)) (used + 1)).map fun p =>
        (.reaches route s.self (used + 1) p.1, p.2) := by
  rw [compile, hRoute]
  dsimp only
  cases inner.compile (.inner kind route (used + 1)) (used + 1) <;> rfl

mutual

/-- **A criterion has the same fault in alike scopes**, or none in both. -/
theorem fault?_compile (c : Criterion) {s s' : Scope} (h : s.Alike s') (used other : Nat) :
    fault? (c.compile s used) = fault? (c.compile s' other) := by
  match c with
  | .equal property value => exact h.fault?_propertyCondition used other property [value]
  | .oneOf property values => exact h.fault?_propertyCondition used other property values
  | .both left right =>
      rw [compile_both, compile_both]
      refine fault?_bind (left.fault?_compile h used other) fun l l' => ?_
      rw [fault?_map, fault?_map]
      exact right.fault?_compile h l.2 l'.2
  | .anyOf terms =>
      rw [compile_anyOf, compile_anyOf, fault?_map, fault?_map]
      exact fault?_compileAll terms h used other
  | .related kind inner =>
      cases hRoute : s.kind.routeTo? kind with
      | none =>
          have hRoute' : s'.kind.routeTo? kind = none := h.kind ▸ hRoute
          rw [compile, compile, hRoute, hRoute', h.kind]
      | some route =>
          have hRoute' : s'.kind.routeTo? kind = some route := h.kind ▸ hRoute
          rw [compile_related inner hRoute, compile_related inner hRoute', fault?_map, fault?_map]
          exact inner.fault?_compile (Scope.alike_inner kind route _ _) _ _

theorem fault?_compileAll (cs : List Criterion) {s s' : Scope} (h : s.Alike s')
    (used other : Nat) : fault? (compileAll s used cs) = fault? (compileAll s' other cs) := by
  match cs with
  | [] => rfl
  | c :: cs =>
      rw [compileAll_cons, compileAll_cons]
      refine fault?_bind (c.fault?_compile h used other) fun p p' => ?_
      rw [fault?_map, fault?_map]
      exact fault?_compileAll cs h p.2 p'.2

end

/-- **A criterion makes sense behind a route just when it makes sense alone**, of a row of the
same kind that was found by links of the same kind; and if not, for the same reason. -/
theorem fault?_condition_related {kind : Kind} {route : Route} (c : Criterion) {outer scope : Scope}
    (hRoute : outer.kind.routeTo? kind = some route) (hKind : scope.kind = kind)
    (hLink : scope.link.map Prod.fst = route.link?) :
    fault? ((related kind c).condition outer) = fault? (c.condition scope) := by
  have hAlike : (Scope.inner kind route 1).Alike scope :=
    ⟨hKind.symm, by rw [hLink]; simp [Scope.inner, Function.comp_def]⟩
  rw [condition, condition, fault?_map, fault?_map, compile_related c hRoute, fault?_map]
  exact c.fault?_compile hAlike 1 0

end Criterion

end Shelfmark
