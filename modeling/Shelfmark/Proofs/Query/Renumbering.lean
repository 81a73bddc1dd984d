import Shelfmark.Proofs.Query.Selection

/-!
# Orders do not depend on numbers

The subqueries of a sort order are numbered after those of the criterion. So the text of an
order depends on the criterion in front of it, but what it sorts by does not: a key is read
through the rows that its route reaches, whatever they are called. `SortKey.reading` is what a
key gives for rows and how it compares, and it is all that sorting looks at.
-/

namespace Shelfmark

/-- What a key gives for rows, and how it compares what it gives. -/
def SortKey.reading (key : SortKey) : (Tables → Env → Cell) × (Cell → Cell → Ordering) :=
  (fun t env => key.value t env, key.compare)

/-- What a path gives to an order: which property it is, and how it is read. -/
def Path.reading (path : Path) :
    PropertyKey × (Direction → (Tables → Env → Cell) × (Cell → Cell → Ordering)) :=
  (path.propertyKey, fun direction => (path.sortKey direction).reading)

/-! ## One key -/

private theorem reading_congr {p q : Path} {route : Route} {outer : RowName} {n m : Nat}
    (hp : p.via = some ⟨route, outer, n⟩) (hq : q.via = some ⟨route, outer, m⟩)
    (hField : p.field = q.field) (hCollation : p.column.collation = q.column.collation)
    (hCell : ∀ (env : Env) (hit : Hit),
      (env.bind n hit).cell p.column = (env.bind m hit).cell q.column) :
    p.reading = q.reading := by
  obtain ⟨_, pColumn, pKind, f⟩ := p
  obtain ⟨_, qColumn, qKind, _⟩ := q
  dsimp only at hp hq hField hCollation hCell
  subst hp hq hField
  have hValue : ∀ direction t env,
      (Path.sortKey ⟨some ⟨route, outer, n⟩, pColumn, pKind, f⟩ direction).value t env =
        (Path.sortKey ⟨some ⟨route, outer, m⟩, qColumn, qKind, f⟩ direction).value t env := by
    intro direction t env
    unfold SortKey.value
    dsimp only [Path.sortKey, SortKey.isIndex]
    cases env.reach t route outer with
    | nil => rfl
    | cons hit _ =>
        exact congrArg (fun cell : Cell =>
          if decide (f.type = .index) && cell.same (.integer (-1)) then Cell.null else cell)
          (hCell env hit)
  have hCompare : ∀ direction,
      (Path.sortKey ⟨some ⟨route, outer, n⟩, pColumn, pKind, f⟩ direction).compare =
        (Path.sortKey ⟨some ⟨route, outer, m⟩, qColumn, qKind, f⟩ direction).compare := by
    intro direction
    funext a b
    show direction.turn (a.order (if f.nocase then .nocase else pColumn.collation) b) =
      direction.turn (a.order (if f.nocase then .nocase else qColumn.collation) b)
    rw [hCollation]
  unfold Path.reading SortKey.reading
  simp only [Path.propertyKey, hValue, hCompare]

namespace Scope

/-- A property at the end of a route is read through the rows that the route reaches. -/
theorem reading_routePath? (scope : Scope) (route : Route) (number other : Nat) (name : String) :
    (scope.routePath? route number name).map Path.reading =
      (scope.routePath? route other name).map Path.reading := by
  unfold routePath?
  cases route.target.fields.find? fun f => f.name = name with
  | some f =>
      refine congrArg some (reading_congr rfl rfl rfl ?_ fun env hit => ?_)
      · cases route.target <;> rfl
      · cases route.target <;> simp [Env.cell, Env.bind, Source.column, Kind.column]
  | none =>
      cases route.link? with
      | none => rfl
      | some link =>
          dsimp only
          rw [Option.map_map, Option.map_map]
          congr 1
          funext f
          refine reading_congr rfl rfl rfl rfl fun env hit => ?_
          simp [Env.cell, Env.bind, Kind.column]

/-- Which property is meant and how it is read does not depend on the numbers in use. -/
theorem reading_resolve (scope : Scope) (usual : Route → String) (property : String)
    (used other : Nat) :
    (scope.resolve usual used property).map (fun p => p.1.reading) =
      (scope.resolve usual other property).map (fun p => p.1.reading) :=
  scope.resolve_congr scope.reading_routePath? usual property used other

/-! ## All keys of an order -/

theorem reading_propertyKeys (scope : Scope) (used other : Nat) (seen : List PropertyKey)
    (keys : List (String × Direction)) :
    (scope.propertyKeys used seen keys).map (List.map SortKey.reading) =
      (scope.propertyKeys other seen keys).map (List.map SortKey.reading) := by
  induction keys generalizing used other seen with
  | nil => rfl
  | cons key rest ih =>
      obtain ⟨property, direction⟩ := key
      have hSame := scope.reading_resolve Route.sortProperty property used other
      unfold propertyKeys
      cases hUsed : scope.resolve Route.sortProperty used property with
      | error fault =>
          cases hOther : scope.resolve Route.sortProperty other property with
          | error fault' =>
              rw [hUsed, hOther] at hSame
              exact congrArg Except.error (Except.error.inj hSame)
          | ok found =>
              rw [hUsed, hOther] at hSame
              cases hSame
      | ok found =>
          cases hOther : scope.resolve Route.sortProperty other property with
          | error fault =>
              rw [hUsed, hOther] at hSame
              cases hSame
          | ok found' =>
              rw [hUsed, hOther] at hSame
              obtain ⟨hKey, hReading⟩ := Prod.mk.inj (Except.ok.inj hSame)
              dsimp only
              rw [hKey]
              split
              · rfl
              · have hRest := ih found.2 found'.2 (found'.1.propertyKey :: seen)
                have hFirst : (found.1.sortKey direction).reading =
                    (found'.1.sortKey direction).reading := congrFun hReading direction
                cases hOne : scope.propertyKeys found.2 (found'.1.propertyKey :: seen) rest <;>
                  cases hTwo : scope.propertyKeys found'.2 (found'.1.propertyKey :: seen) rest <;>
                  rw [hOne, hTwo] at hRest
                · exact hRest
                · cases hRest
                · cases hRest
                · have hKeys := Except.ok.inj hRest
                  simp only [Except.map, List.map_cons, hFirst, hKeys]

/-- What an order sorts by does not depend on the numbers in use. -/
theorem reading_sortKeys (scope : Scope) (used other : Nat) (declared : Option Column)
    (order : SortOrder) :
    (scope.sortKeys used declared order).map (List.map SortKey.reading) =
      (scope.sortKeys other declared order).map (List.map SortKey.reading) := by
  -- The last keys are the same, whatever the first ones are.
  have hLast : ∀ first first' : Except Fault (List SortKey),
      first.map (List.map SortKey.reading) = first'.map (List.map SortKey.reading) →
        (first.map (· ++ scope.lastKeys)).map (List.map SortKey.reading) =
          (first'.map (· ++ scope.lastKeys)).map (List.map SortKey.reading) := by
    intro first first' hSame
    cases first <;> cases first'
    · exact hSame
    · cases hSame
    · cases hSame
    · have hKeys := Except.ok.inj hSame
      simp only [Except.map, List.map_append, hKeys]
  unfold sortKeys
  refine hLast _ _ ?_
  cases order with
  | byKeys keys => exact scope.reading_propertyKeys used other [] keys
  | preferred direction =>
      cases declared with
      | some column => rfl
      | none => exact scope.reading_propertyKeys used other [] _

end Scope

/-! ## Sorting -/

private theorem compareKeys_congr {keys keys' : List SortKey}
    (h : keys.map SortKey.compare = keys'.map SortKey.compare) (as bs : List Cell) :
    compareKeys keys as bs = compareKeys keys' as bs := by
  induction keys generalizing keys' as bs with
  | nil =>
      cases keys' with
      | nil => rfl
      | cons _ _ => cases h
  | cons key keys ih =>
      cases keys' with
      | nil => cases h
      | cons key' keys' =>
          obtain ⟨hKey, hRest⟩ := List.cons.inj h
          cases as with
          | nil => rfl
          | cons a as =>
              cases bs with
              | nil => rfl
              | cons b bs => rw [compareKeys, compareKeys, hKey, ih hRest]

/-- Keys that give and compare the same sort alike. -/
theorem sortBy_congr {α : Type} (t : Tables) {keys keys' : List SortKey}
    (h : keys.map SortKey.reading = keys'.map SortKey.reading) (view : α → Hit) (items : List α) :
    sortBy t keys view items = sortBy t keys' view items := by
  have hValues : ∀ item, (keys.map fun key => key.value t (.ofHit (view item))) =
      keys'.map fun key => key.value t (.ofHit (view item)) := by
    intro item
    have hApplied := congrArg (List.map fun r => r.1 t (.ofHit (view item))) h
    simpa only [List.map_map, Function.comp_def, SortKey.reading] using hApplied
  have hCompare : keys.map SortKey.compare = keys'.map SortKey.compare := by
    have hSecond := congrArg (List.map Prod.snd) h
    simpa only [List.map_map, Function.comp_def, SortKey.reading] using hSecond
  unfold sortBy
  simp only [hValues, compareKeys_congr hCompare]

end Shelfmark
