import Shelfmark.Proofs.Query.Compilation
import Shelfmark.Proofs.Query.Naming

/-!
# Criteria in other words

Much of what a criterion can say can be said in simpler words. Several wanted values are
several tests of one value. A path is a relation to a record with the property at its end; if
its route keeps to a role or to a type, the record is also asked for that role or type. The
name of a route is a path to its usual property. A relation to a record of which one of several
things holds is one of several relations.

`Criterion.Means` lists these paraphrases, each as seen from a scope, because a scope decides
what a name stands for. `Criterion.Replaces` puts one of them, in either direction, in the place
of a part of a criterion, however deep the part lies.

The two sides of a paraphrase are compiled by different ways through the compiler, and they take
different numbers of subqueries, so their conditions differ. What is the same is what can be
noticed of them: the fault, if there is one (`Replaces.fault?_compile`), and which records
satisfy them (`Replaces.holds_iff`).
-/

namespace Shelfmark

/-! ## Names that a scope knows -/

/-- Whether a name is that of a field of the rows of a scope or of their links. -/
def Scope.Knows (s : Scope) (name : String) : Prop :=
  (∃ f ∈ s.kind.fields, f.name = name) ∨
    ∃ link ∈ s.link.map Prod.fst, ∃ f ∈ link.fields, f.name = name

/-- The property that a restriction is about. -/
def Restriction.property (rule : Restriction) : String :=
  if rule.column = "type_uuid" then "groupType" else rule.column

/-! ## Paraphrases -/

namespace Criterion

/-- Whether a criterion says the same as another in simpler words, seen from a scope. -/
inductive Means (s : Scope) : Criterion → Criterion → Prop where
  /-- One of several values is one of several tests. -/
  | values (property : String) (value : FieldValue) (others : List FieldValue) :
      Means s (.oneOf property (value :: others))
        (.anyOf ((value :: others).map (.equal property)))
  /-- A path by a route without a restriction is a relation. -/
  | path {route : Route} {target : Kind} {inner : String} (hRoute : route ∈ s.kind.routes)
      (hTarget : route.target = .records target) (hFree : route.restriction = none)
      (hInner : (Scope.inner target route 1).Knows inner) (value : FieldValue) :
      Means s (.equal (route.name ++ "#" ++ inner) value) (.related target (.equal inner value))
  /-- A path by a route with a restriction is a relation that also asks for what the route
  keeps to. -/
  | restricted {route : Route} {target : Kind} {rule : Restriction} {inner : String}
      (hRoute : route ∈ s.kind.routes) (hTarget : route.target = .records target)
      (hRule : route.restriction = some rule)
      (hInner : (Scope.inner target route 1).Knows inner) (value : FieldValue) :
      Means s (.equal (route.name ++ "#" ++ inner) value)
        (.related target
          (.both (.equal inner value) (.equal rule.property (.text rule.value))))
  /-- A route alone is a path to its usual property. -/
  | usual {route : Route} (hRoute : route ∈ s.kind.routes) (hFar : ¬ s.Knows route.name)
      (value : FieldValue) :
      Means s (.equal route.name value)
        (.equal (route.name ++ "#" ++ route.filterProperty) value)
  | usualValues {route : Route} (hRoute : route ∈ s.kind.routes) (hFar : ¬ s.Knows route.name)
      (values : List FieldValue) :
      Means s (.oneOf route.name values)
        (.oneOf (route.name ++ "#" ++ route.filterProperty) values)
  /-- A relation to one of several is one of several relations. -/
  | relations (kind : Kind) (term : Criterion) (others : List Criterion) :
      Means s (.related kind (.anyOf (term :: others)))
        (.anyOf ((term :: others).map (.related kind)))

/-- Whether a criterion becomes another when a part of it is paraphrased, seen from a scope. A
part behind a relation is seen from the end of its route. -/
inductive Replaces : Scope → Criterion → Criterion → Prop where
  | here {s : Scope} {c c' : Criterion} (h : c.Means s c') : Replaces s c c'
  | back {s : Scope} {c c' : Criterion} (h : c.Means s c') : Replaces s c' c
  | left {s : Scope} {c c' : Criterion} (h : Replaces s c c') (right : Criterion) :
      Replaces s (.both c right) (.both c' right)
  | right {s : Scope} {c c' : Criterion} (left : Criterion) (h : Replaces s c c') :
      Replaces s (.both left c) (.both left c')
  | term {s : Scope} {c c' : Criterion} (before after : List Criterion) (h : Replaces s c c') :
      Replaces s (.anyOf (before ++ c :: after)) (.anyOf (before ++ c' :: after))
  | inner {s : Scope} {c c' : Criterion} {kind : Kind}
      (h : ∀ route, s.kind.routeTo? kind = some route →
        Replaces (.inner kind route 1) c c') :
      Replaces s (.related kind c) (.related kind c')

end Criterion

/-! ## What the routes have in common -/

theorem Route.knows_usual {kind : Kind} {route : Route} (h : route ∈ kind.routes) :
    ∃ f ∈ route.target.fields, f.name = route.filterProperty := by
  revert route
  cases kind <;> decide

/-- A route with a restriction has a route without one beside it. -/
theorem Route.exists_free {kind : Kind} {route : Route} {rule : Restriction}
    (h : route ∈ kind.routes) (hRule : route.restriction = some rule) :
    ∃ free ∈ kind.routes, free.target = route.target ∧ free.join = route.join ∧
      free.restriction = none := by
  have hAll : ∀ r ∈ kind.routes, r.restriction.isSome = true → ∃ free ∈ kind.routes,
      free.target = r.target ∧ free.join = r.join ∧ free.restriction = none := by
    cases kind <;> decide
  exact hAll route h (by rw [hRule]; rfl)

/-- A restriction is about a property at the end of the route, and the cell of the restriction
is what that property stores for its value. -/
theorem Route.restricts {kind : Kind} {route : Route} {target : Kind} {rule : Restriction}
    (h : route ∈ kind.routes) (hTarget : route.target = .records target)
    (hRule : route.restriction = some rule) :
    ∃ path, (Scope.inner target route 1).fieldPath? rule.property = some path ∧
      path.field.column = rule.column ∧
      path.column.row = (if rule.onLink then .link 1 else .target 1) ∧
      path.column.collation = .binary ∧
      path.field.toCell (.text rule.value) = .ok (.text rule.value) := by
  have hAll : ∀ r ∈ kind.routes, ∀ rule ∈ r.restriction,
      ∃ path ∈ (Scope.inner r.target.kind r 1).fieldPath? rule.property,
        path.field.column = rule.column ∧
        path.column.row = (if rule.onLink then .link 1 else .target 1) ∧
        path.column.collation = .binary ∧
        path.field.toCell (.text rule.value) = .ok (.text rule.value) := by
    cases kind <;> decide +kernel
  have hKind : route.target.kind = target := by rw [hTarget]; rfl
  obtain ⟨path, hPath, hRest⟩ := hAll route h rule hRule
  rw [hKind] at hPath
  exact ⟨path, hPath, hRest⟩

/-! ## What a scope knows -/

namespace Scope

variable {s s' : Scope} {name : String}

theorem knows_iff : s.Knows name ↔ ∃ path, s.fieldPath? name = some path := by
  have hField : ∀ kind : Kind,
      (∃ f ∈ kind.fields, f.name = name) ↔ ∃ f, kind.field? name = some f := by
    intro kind
    rw [← Option.isSome_iff_exists, Kind.field?, List.find?_isSome]
    simp
  unfold Knows fieldPath?
  rw [hField]
  cases hOwn : s.kind.field? name with
  | some f => simp
  | none =>
      cases s.link with
      | none => simp
      | some link => simp [hField]

theorem Alike.knows_iff (h : s.Alike s') : s.Knows name ↔ s'.Knows name := by
  unfold Knows
  rw [h.kind, h.link]

end Scope

/-! ## What is looked at from a scope -/

/-- Whether a hit is of the kinds that a scope is about. -/
structure Hit.Suits (hit : Hit) (s : Scope) : Prop where
  target : hit.target.source = .records s.kind
  link : match s.link.map Prod.fst with
    | none => hit.link = none
    | some kind => ∃ x, hit.link = some x ∧ x.source = .records kind

namespace Hit.Suits

variable {s : Scope} {hit : Hit} {name : String}

/-- A scope knows the names that show something of what it is about. -/
theorem knows_iff (h : hit.Suits s) : s.Knows name ↔ ∃ f x, hit.Shows name f x := by
  obtain ⟨hTarget, hLink⟩ := h
  have hFields : hit.target.source.fields = s.kind.fields := by rw [hTarget]; rfl
  constructor
  · intro hKnows
    by_cases hOwn : ∃ f ∈ hit.target.source.fields, f.name = name
    · obtain ⟨f, hField, hName⟩ := hOwn
      exact ⟨f, _, .own hField hName⟩
    · rcases hKnows with hNear | ⟨kind, hKind, f, hField, hName⟩
      · exact absurd (hFields ▸ hNear) hOwn
      · rw [hKind] at hLink
        obtain ⟨x, hIsLink, hSource⟩ := hLink
        refine ⟨f, x, .link (fun g hg hSame => hOwn ⟨g, hg, hSame⟩) hIsLink ?_ hName⟩
        rw [hSource]
        exact hField
  · rintro ⟨f, x, ⟨hField, hName⟩ | ⟨_, hIsLink, hField, hName⟩⟩
    · exact Or.inl ⟨f, hFields ▸ hField, hName⟩
    · cases hKind : s.link.map Prod.fst with
      | none =>
          rw [hKind, hIsLink] at hLink
          cases hLink
      | some kind =>
          rw [hKind] at hLink
          obtain ⟨y, hIsLink', hSource⟩ := hLink
          rw [hIsLink] at hIsLink'
          cases hIsLink'
          rw [hSource] at hField
          exact Or.inr ⟨kind, hKind, f, hField, hName⟩

end Hit.Suits

/-- What is seen from a scope is of the kinds that it is about. -/
theorem Env.Sees.suits {env : Env} {hit : Hit} {s : Scope}
    (h : env.Sees (.records s.kind) s.self s.link hit) : hit.Suits s := by
  refine ⟨h.source, ?_⟩
  have hSeen := h.link
  cases hLink : s.link with
  | none =>
      rw [hLink] at hSeen
      exact hSeen
  | some link =>
      rw [hLink] at hSeen
      obtain ⟨x, hIsLink, hKind, -⟩ := hSeen
      exact ⟨x, hIsLink, hKind⟩

/-- What a route leads to is of the kinds that the scope at its end is about. -/
theorem Route.Leads.suits {t : Tables} (hSound : t.Sound) {route : Route} {outer : SourceRow}
    {hit : Hit} (h : route.Leads t outer hit) {target : Kind}
    (hTarget : route.target = .records target) (number : Nat) :
    hit.Suits (.inner target route number) := by
  have hSees := h.sees hSound (fun _ => none) number
  rw [hTarget] at hSees
  exact Env.Sees.suits (s := .inner target route number) hSees

/-! ## Both sides hold of the same records -/

section

variable {t : Tables} {s : Scope} {hit : Hit} {route : Route} {target : Kind}

/-- The name of a route and an inner name make a path of them. -/
theorem Route.split_path {kind : Kind} (hRoute : route ∈ kind.routes) (inner : String) :
    splitPath? (route.name ++ "#" ++ inner) = some (route.name, inner) :=
  splitPath?_append ((routeNames kind).2 route hRoute)

/-- What a path has, something at the end of its route has. -/
theorem Hit.Suits.hasOne_path_iff (h : hit.Suits s) (hSound : t.Sound)
    (hRoute : route ∈ s.kind.routes) (hTarget : route.target = .records target) {inner : String}
    (hInner : (Scope.inner target route 1).Knows inner) (values : List FieldValue) :
    hit.HasOne t (route.name ++ "#" ++ inner) values ↔
      ∃ reached, route.Leads t hit.target reached ∧ reached.HasOne t inner values := by
  have hPath : ∀ {g x}, hit.Designates t (route.name ++ "#" ++ inner) g x ↔
      ∃ reached, route.Leads t hit.target reached ∧ reached.Shows inner g x :=
    Hit.designates_path_iff h.target (Kind.route?_eq_some_iff.2 ⟨hRoute, rfl⟩)
      (Route.split_path hRoute inner)
  have hNear : ∀ reached, route.Leads t hit.target reached → ∀ {g x},
      reached.Designates t inner g x ↔ reached.Shows inner g x := by
    intro reached hLeads g x
    obtain ⟨f, y, hShows⟩ := (hLeads.suits hSound hTarget 1).knows_iff.1 hInner
    exact Hit.designates_here_iff hShows
  unfold Hit.HasOne
  constructor
  · rintro ⟨g, x, hDesignates, hHas⟩
    obtain ⟨reached, hLeads, hShows⟩ := hPath.1 hDesignates
    exact ⟨reached, hLeads, g, x, (hNear reached hLeads).2 hShows, hHas⟩
  · rintro ⟨reached, hLeads, g, x, hDesignates, hHas⟩
    exact ⟨g, x, hPath.2 ⟨reached, hLeads, (hNear reached hLeads).1 hDesignates⟩, hHas⟩

/-- What the name of a route has, its path to the usual property has. -/
theorem Hit.Suits.hasOne_usual_iff (h : hit.Suits s) (hRoute : route ∈ s.kind.routes)
    (hFar : ¬ s.Knows route.name) (values : List FieldValue) :
    hit.HasOne t route.name values ↔
      hit.HasOne t (route.name ++ "#" ++ route.filterProperty) values := by
  have hFound : s.kind.route? route.name = some route := Kind.route?_eq_some_iff.2 ⟨hRoute, rfl⟩
  have hNone : ∀ f y, ¬ hit.Shows route.name f y := by
    intro f y hShows
    exact hFar (h.knows_iff.2 ⟨f, y, hShows⟩)
  unfold Hit.HasOne
  simp only [Hit.designates_usual_iff h.target hFound hNone,
    Hit.designates_path_iff h.target hFound (Route.split_path hRoute _)]

/-- A route with a restriction leads where the free one beside it does and keeps to the
restriction. -/
theorem Route.leads_restricted_iff {free : Route} {rule : Restriction} {outer : SourceRow}
    (hTarget : free.target = route.target) (hJoin : free.join = route.join)
    (hFree : free.restriction = none) (hRule : route.restriction = some rule) {reached : Hit} :
    route.Leads t outer reached ↔ free.Leads t outer reached ∧ reached.Keeps rule := by
  unfold Route.Leads
  rw [hTarget, hJoin, hFree, hRule]
  simp [and_assoc]

/-- To keep to a restriction is to have its value in the property that it is about. -/
theorem Route.Leads.hasOne_property_iff (hSound : t.Sound) {kind : Kind}
    (hRoute : route ∈ kind.routes) (hTarget : route.target = .records target) {rule : Restriction}
    (hRule : route.restriction = some rule) {free : Route} (hSame : free.target = route.target)
    (hJoin : free.join = route.join) {outer : SourceRow} {reached : Hit}
    (hLeads : free.Leads t outer reached) :
    reached.HasOne t rule.property [.text rule.value] ↔ reached.Keeps rule := by
  obtain ⟨path, hPath, hColumn, hRow, hCollation, hStores⟩ :=
    Route.restricts hRoute hTarget hRule
  have hLink : free.link? = route.link? := by rw [Route.link?, Route.link?, hJoin]
  have hSees := hLeads.sees hSound (fun _ => none) 1
  rw [hSame, hTarget, hLink] at hSees
  have hShown := (Scope.inner target route 1).shown?_of_fieldPath? rule.property
  rw [hPath, Option.map_some] at hShown
  obtain ⟨x, hKnown, hName, hCollation', hShows⟩ := hSees.shows_iff hShown
  have hHere : reached.Shows rule.property path.field x := (hShows _ _).2 ⟨rfl, rfl⟩
  have hHas : x.Has path.field (.text rule.value) ↔ x.cell rule.column = .text rule.value := by
    have hBinary : x.source.collation rule.column = .binary := by
      rw [← hColumn, ← hCollation', hCollation]
    simp [SourceRow.Has, hStores, hColumn, hBinary, Cell.Meets]
  have hOne : reached.HasOne t rule.property [.text rule.value] ↔
      x.cell rule.column = .text rule.value := by
    simp only [Hit.HasOne, Hit.designates_here_iff hHere, hShows, List.mem_singleton,
      exists_eq_left]
    constructor
    · rintro ⟨_, _, ⟨rfl, rfl⟩, hValue⟩
      exact hHas.1 hValue
    · intro hCell
      exact ⟨_, _, ⟨rfl, rfl⟩, hHas.2 hCell⟩
  rw [hOne, Hit.Keeps]
  -- The row of the property is the one that the restriction looks at.
  by_cases hSide : rule.onLink
  · have hIs : reached.link = some x := by simpa [hRow, hSide, Env.bind] using hKnown
    simp [hSide, hIs]
  · have hIs : reached.target = x := by simpa [hRow, hSide, Env.bind] using hKnown
    simp [hSide, hIs]

namespace Criterion

theorem oneHolds_iff {terms : List Criterion} :
    OneHolds t terms hit ↔ ∃ c ∈ terms, c.Holds t hit := by
  induction terms with
  | nil => simp [OneHolds]
  | cons c terms ih => simp [OneHolds, ih]

theorem holds_related_iff_of_mem (hSource : hit.target.source = .records s.kind)
    (hRoute : route ∈ s.kind.routes) (hTarget : route.target = .records target)
    (hFree : route.restriction = none) {inner : Criterion} :
    (related target inner).Holds t hit ↔
      ∃ reached, route.Leads t hit.target reached ∧ inner.Holds t reached := by
  have hOnly : s.kind.routeTo? target = some route :=
    Kind.routeTo?_eq_some_iff.2 ⟨hRoute, hTarget, hFree⟩
  rw [Holds, SourceRow.routes_eq hSource]
  constructor
  · rintro ⟨other, hOther, hTarget', hFree', hReached⟩
    have hSame := hOnly.symm.trans (Kind.routeTo?_eq_some_iff.2 ⟨hOther, hTarget', hFree'⟩)
    exact Option.some.inj hSame ▸ hReached
  · intro hReached
    exact ⟨route, hRoute, hTarget, hFree, hReached⟩

/-- **A paraphrase holds of the same records.** -/
theorem Means.holds_iff {c c' : Criterion} (h : c.Means s c') (hSound : t.Sound)
    (hSuits : hit.Suits s) : c.Holds t hit ↔ c'.Holds t hit := by
  cases h with
  | values property value others =>
      rw [Holds, Holds, oneHolds_iff]
      simp only [Hit.HasOne, List.mem_map]
      constructor
      · rintro ⟨f, x, hDesignates, wanted, hWanted, hHas⟩
        refine ⟨_, ⟨wanted, hWanted, rfl⟩, ?_⟩
        rw [Holds]
        exact ⟨f, x, hDesignates, wanted, List.mem_singleton_self wanted, hHas⟩
      · rintro ⟨_, ⟨wanted, hWanted, rfl⟩, hHolds⟩
        rw [Holds] at hHolds
        obtain ⟨f, x, hDesignates, only, hOnly, hHas⟩ := hHolds
        exact ⟨f, x, hDesignates, wanted, hWanted, List.mem_singleton.1 hOnly ▸ hHas⟩
  | path hRoute hTarget hFree hInner value =>
      rw [holds_related_iff_of_mem hSuits.target hRoute hTarget hFree]
      simp only [Holds]
      exact hSuits.hasOne_path_iff hSound hRoute hTarget hInner [value]
  | @restricted route target rule inner hRoute hTarget hRule hInner value =>
      obtain ⟨free, hFreeRoute, hSame, hJoin, hFree⟩ := Route.exists_free hRoute hRule
      rw [holds_related_iff_of_mem hSuits.target hFreeRoute (hSame.trans hTarget) hFree]
      simp only [Holds]
      rw [hSuits.hasOne_path_iff hSound hRoute hTarget hInner [value]]
      refine exists_congr fun reached => ?_
      rw [Route.leads_restricted_iff hSame hJoin hFree hRule, and_assoc]
      refine and_congr_right fun hLeads => ?_
      rw [hLeads.hasOne_property_iff hSound hRoute hTarget hRule hSame hJoin]
      exact and_comm
  | usual hRoute hFar value =>
      rw [Holds, Holds]
      exact hSuits.hasOne_usual_iff hRoute hFar [value]
  | usualValues hRoute hFar values =>
      rw [Holds, Holds]
      exact hSuits.hasOne_usual_iff hRoute hFar values
  | relations kind term others =>
      rw [Holds, Holds, oneHolds_iff]
      simp only [Holds, oneHolds_iff, List.mem_map, exists_exists_and_eq_and]
      constructor
      · rintro ⟨route, hRoute, hTarget, hFree, reached, hLeads, c, hTerm, hHolds⟩
        exact ⟨c, hTerm, route, hRoute, hTarget, hFree, reached, hLeads, hHolds⟩
      · rintro ⟨c, hTerm, route, hRoute, hTarget, hFree, reached, hLeads, hHolds⟩
        exact ⟨route, hRoute, hTarget, hFree, reached, hLeads, c, hTerm, hHolds⟩

/-- **A criterion with a part paraphrased holds of the same records.** The induction goes down
to the part; behind a relation the records at the end of the route are looked at. -/
theorem Replaces.holds_iff {c c' : Criterion} (h : Replaces s c c') (hSound : t.Sound)
    (hSuits : hit.Suits s) : c.Holds t hit ↔ c'.Holds t hit := by
  induction h generalizing hit with
  | here h => exact h.holds_iff hSound hSuits
  | back h => exact (h.holds_iff hSound hSuits).symm
  | left _ right ih => rw [Holds, Holds, ih hSuits]
  | right left _ ih => rw [Holds, Holds, ih hSuits]
  | term before after _ ih =>
      rw [Holds, Holds, oneHolds_iff, oneHolds_iff]
      simp only [List.mem_append, List.mem_cons, or_and_right, exists_or, exists_eq_left,
        ih hSuits]
  | @inner s c c' kind _ ih =>
      rw [Holds, Holds, SourceRow.routes_eq hSuits.target]
      refine exists_congr fun route => ?_
      refine and_congr_right fun hRoute => and_congr_right fun hTarget => ?_
      refine and_congr_right fun hFree => exists_congr fun reached => ?_
      refine and_congr_right fun hLeads => ?_
      exact ih route (Kind.routeTo?_eq_some_iff.2 ⟨hRoute, hTarget, hFree⟩)
        (hLeads.suits hSound hTarget 1)

end Criterion

end

/-! ## Both sides have the same fault -/

section

variable {s s' : Scope} {route : Route} {target : Kind}

/-- A path leads where its inner name leads in the scope at the end of the route. -/
theorem Scope.routePath?_eq (s : Scope) (hTarget : route.target = .records target) (number : Nat)
    (name : String) :
    s.routePath? route number name =
      ((Scope.inner target route number).fieldPath? name).map fun path =>
        { path with via := some ⟨route, s.self, number⟩ } := by
  unfold routePath? fieldPath?
  rw [hTarget]
  simp only [Source.fields, Source.column, Source.kind, Scope.inner, Kind.field?]
  cases target.fields.find? fun f => f.name = name with
  | some f => rfl
  | none =>
      cases route.link? with
      | none => rfl
      | some link => simp [Option.map_map, Function.comp_def]

/-- Where a path by a route leads, if its inner name is known there. -/
theorem Scope.resolve_path {s : Scope} (hRoute : route ∈ s.kind.routes) {used : Nat}
    {inner : String} {path : Path} (hPath : s.routePath? route (used + 1) inner = some path)
    (usual : Route → String) :
    s.resolve usual used (route.name ++ "#" ++ inner) = .ok (path, used + 1) := by
  unfold resolve
  rw [Route.split_path hRoute inner]
  dsimp only
  rw [Kind.route?_eq_some_iff.2 ⟨hRoute, rfl⟩]
  dsimp only [Option.getD_some]
  rw [hPath]

/-- The name of a route leads where its path to the usual property does. -/
theorem Scope.resolve_usual {s : Scope} (hRoute : route ∈ s.kind.routes)
    (hFar : ¬ s.Knows route.name) (used : Nat) :
    s.resolve Route.filterProperty used route.name =
      s.resolve Route.filterProperty used (route.name ++ "#" ++ route.filterProperty) := by
  have hNone : s.fieldPath? route.name = none := by
    cases hField : s.fieldPath? route.name with
    | none => rfl
    | some path => exact absurd (Scope.knows_iff.2 ⟨path, hField⟩) hFar
  have hPath : ∃ path, s.routePath? route (used + 1) route.filterProperty = some path := by
    obtain ⟨f, hField, hName⟩ := Route.knows_usual hRoute
    unfold routePath?
    cases hFind : route.target.fields.find? fun f => f.name = route.filterProperty with
    | some f => exact ⟨_, rfl⟩
    | none => exact absurd hName (by simpa using List.find?_eq_none.1 hFind f hField)
  obtain ⟨path, hPath⟩ := hPath
  rw [resolve_path hRoute hPath]
  unfold resolve
  rw [splitPath?_eq_none_iff.2 ((routeNames s.kind).2 route hRoute)]
  dsimp only
  rw [hNone, Kind.route?_eq_some_iff.2 ⟨hRoute, rfl⟩]
  dsimp only [Option.getD_none]
  rw [hPath]

/-- A name that the scope knows leads to the field of that name. -/
theorem Scope.resolve_known {s : Scope} {name : String} {path : Path}
    (hPath : s.fieldPath? name = some path) (usual : Route → String) (used : Nat) :
    s.resolve usual used name = .ok (path, used) := by
  have hNoHash : '#' ∉ name.toList := by
    rcases Scope.knows_iff.2 ⟨path, hPath⟩ with ⟨f, hField, rfl⟩ | ⟨link, _, f, hField, rfl⟩
    · have hMem : f ∈ (Source.records s.kind).fields := hField
      exact Source.noHash hMem
    · have hMem : f ∈ (Source.records link).fields := hField
      exact Source.noHash hMem
  unfold resolve
  rw [splitPath?_eq_none_iff.2 hNoHash]
  dsimp only
  rw [hPath]

namespace Criterion

/-- A path has the fault that its inner name has at the end of the route. -/
theorem fault?_path (hRoute : route ∈ s.kind.routes) (hTarget : route.target = .records target)
    {inner : String} (hInner : (Scope.inner target route 1).Knows inner) (value : FieldValue)
    (used other number : Nat) :
    fault? ((equal (route.name ++ "#" ++ inner) value).compile s used) =
      fault? ((equal inner value).compile (.inner target route number) other) := by
  have hAlike := Scope.alike_inner target route 1
  obtain ⟨path, hPath⟩ := Scope.knows_iff.1 ((hAlike (used + 1)).knows_iff.1 hInner)
  have hHere : fault? ((equal (route.name ++ "#" ++ inner) value).compile s used) =
      fault? (comparedCells path.kind path.field [value]) := by
    have hFar := s.routePath?_eq hTarget (used + 1) inner
    rw [hPath, Option.map_some] at hFar
    rw [compile, Scope.propertyCondition_eq, Scope.resolve_path hRoute hFar]
    exact fault?_map _ _
  have hThere : fault? ((equal inner value).compile (.inner target route (used + 1)) other) =
      fault? (comparedCells path.kind path.field [value]) := by
    rw [compile, Scope.propertyCondition_eq, Scope.resolve_known hPath]
    exact fault?_map _ _
  rw [hHere, ← hThere]
  exact fault?_compile _ (Scope.alike_inner target route (used + 1) number) other other

/-- A relation by a route has the fault that the inner criterion has at the end of the route. -/
theorem fault?_related (hRoute : s.kind.routeTo? target = some route) (inner : Criterion)
    (used other number : Nat) :
    fault? ((related target inner).compile s used) =
      fault? (inner.compile (.inner target route number) other) := by
  rw [compile_related inner hRoute, fault?_map]
  exact fault?_compile inner (Scope.alike_inner target route _ _) _ _

/-- A part without faults adds none. -/
theorem fault?_both {left right : Criterion} {used : Nat}
    (hRight : ∀ n, fault? (right.compile s n) = none) :
    fault? ((both left right).compile s used) = fault? (left.compile s used) := by
  rw [compile_both]
  cases left.compile s used with
  | error fault => rfl
  | ok l => exact (fault?_map _ _).trans (hRight l.2)

/-- Criteria with the same faults, one by one, have the same fault together. -/
theorem fault?_compileAll_congr {cs cs' : List Criterion}
    (h : List.Forall₂ (fun c c' => ∀ used other,
      fault? (c.compile s used) = fault? (c'.compile s' other)) cs cs') (used other : Nat) :
    fault? (compileAll s used cs) = fault? (compileAll s' other cs') := by
  induction h generalizing used other with
  | nil => rfl
  | cons hHead _ ih =>
      rw [compileAll_cons, compileAll_cons]
      refine fault?_bind (hHead used other) fun p p' => ?_
      rw [fault?_map, fault?_map]
      exact ih p.2 p'.2

theorem fault?_comparedCells_cons (kind : Kind) (f : Field) (value : FieldValue)
    (values : List FieldValue) :
    fault? (comparedCells kind f (value :: values)) =
      (fault? (comparedCells kind f [value])).or (fault? (comparedCells kind f values)) := by
  rw [comparedCells, comparedCells]
  cases Fault.ofField kind f (f.toCell value) with
  | error fault => rfl
  | ok cell => exact fault?_map _ _

/-- Several tests of values of one property have the fault of the first value that is
refused. -/
theorem fault?_tests {property : String} {path : Path} {used after : Nat}
    (hResolve : s.resolve Route.filterProperty used property = .ok (path, after))
    (values : List FieldValue) (other : Nat) :
    fault? (compileAll s other (values.map (equal property))) =
      fault? (comparedCells path.kind path.field values) := by
  induction values generalizing other with
  | nil => rfl
  | cons value values ih =>
      have hHead : fault? ((equal property value).compile s other) =
          fault? (comparedCells path.kind path.field [value]) := by
        rw [fault?_compile _ (.refl s) other used, compile, Scope.propertyCondition_eq, hResolve]
        exact fault?_map _ _
      rw [List.map_cons, compileAll_cons, fault?_comparedCells_cons, ← hHead]
      cases (equal property value).compile s other with
      | error fault => rfl
      | ok p =>
          show fault? ((compileAll s p.2 _).map _) = _
          rw [fault?_map, ih p.2]
          rfl

/-- **A paraphrase has the same fault**, or none like the criterion. -/
theorem Means.fault?_compile {c c' : Criterion} (h : c.Means s c') (used other : Nat) :
    fault? (c.compile s used) = fault? (c'.compile s other) := by
  cases h with
  | values property value others =>
      rw [compile_anyOf, fault?_map, compile, Scope.propertyCondition_eq]
      cases hResolve : s.resolve Route.filterProperty used property with
      | error fault =>
          have hFirst : fault? ((equal property value).compile s other) = some fault := by
            rw [Criterion.fault?_compile _ (.refl s) other used, compile, Scope.propertyCondition_eq, hResolve]
            rfl
          rw [List.map_cons, compileAll_cons]
          cases hCompile : (equal property value).compile s other with
          | ok p =>
              rw [hCompile] at hFirst
              cases hFirst
          | error fault' =>
              rw [hCompile] at hFirst
              exact hFirst.symm
      | ok p =>
          rw [fault?_tests hResolve]
          exact fault?_map _ _
  | path hRoute hTarget hFree hInner value =>
      have hOnly := Kind.routeTo?_eq_some_iff.2 ⟨hRoute, hTarget, hFree⟩
      rw [fault?_path hRoute hTarget hInner value used 0 1, fault?_related hOnly _ other 0 1]
  | @restricted route target rule inner hRoute hTarget hRule hInner value =>
      obtain ⟨free, hFreeRoute, hSame, hJoin, hFree⟩ := Route.exists_free hRoute hRule
      have hOnly := Kind.routeTo?_eq_some_iff.2 ⟨hFreeRoute, hSame.trans hTarget, hFree⟩
      have hEnd : Scope.inner target free 1 = Scope.inner target route 1 := by
        rw [Scope.inner, Scope.inner, Route.link?, Route.link?, hJoin]
      obtain ⟨path, hPath, -, -, -, hStores⟩ := Route.restricts hRoute hTarget hRule
      -- The test of what the route keeps to makes sense, so it adds no fault.
      have hRight : ∀ n, fault? ((equal rule.property (.text rule.value)).compile
          (.inner target route 1) n) = none := by
        intro n
        have hCells : comparedCells path.kind path.field [.text rule.value] =
            .ok [.text rule.value] := by
          simp [comparedCells, Fault.ofField, hStores, Except.map]
        rw [compile, Scope.propertyCondition_eq, Scope.resolve_known hPath]
        show fault? ((comparedCells path.kind path.field [.text rule.value]).map _) = none
        rw [hCells]
        rfl
      rw [fault?_path hRoute hTarget hInner value used 0 1, fault?_related hOnly _ other 0 1, hEnd,
        fault?_both hRight]
  | usual hRoute hFar value =>
      rw [Criterion.fault?_compile _ (.refl s) used other, compile, compile, Scope.propertyCondition_eq,
        Scope.propertyCondition_eq, Scope.resolve_usual hRoute hFar]
  | usualValues hRoute hFar values =>
      rw [Criterion.fault?_compile _ (.refl s) used other, compile, compile, Scope.propertyCondition_eq,
        Scope.propertyCondition_eq, Scope.resolve_usual hRoute hFar]
  | relations kind term others =>
      rw [compile_anyOf, fault?_map]
      cases hRoute : s.kind.routeTo? kind with
      | none =>
          rw [List.map_cons, compileAll_cons, compile, compile, hRoute]
          rfl
      | some route =>
          rw [fault?_related hRoute _ used 0 1, compile_anyOf, fault?_map]
          refine fault?_compileAll_congr ?_ 0 other
          rw [List.forall₂_map_right_iff, List.forall₂_same]
          intro c _ n m
          exact (fault?_related hRoute c m n 1).symm

/-- **A criterion with a part paraphrased has the same fault**, or none like the criterion. -/
theorem Replaces.fault?_compile {c c' : Criterion} (h : Replaces s c c') (used other : Nat) :
    fault? (c.compile s used) = fault? (c'.compile s other) := by
  induction h generalizing used other with
  | here h => exact h.fault?_compile used other
  | back h => exact (h.fault?_compile other used).symm
  | left _ right ih =>
      rw [compile_both, compile_both]
      refine fault?_bind (ih used other) fun l l' => ?_
      rw [fault?_map, fault?_map]
      exact Criterion.fault?_compile right (.refl _) l.2 l'.2
  | right left _ ih =>
      rw [compile_both, compile_both]
      refine fault?_bind (Criterion.fault?_compile left (.refl _) used other) fun l l' => ?_
      rw [fault?_map, fault?_map]
      exact ih l.2 l'.2
  | @term s c c' before after _ ih =>
      rw [compile_anyOf, compile_anyOf, fault?_map, fault?_map]
      refine fault?_compileAll_congr ?_ used other
      have hSame : ∀ cs : List Criterion, List.Forall₂ (fun c c' : Criterion => ∀ n m,
          fault? (c.compile s n) = fault? (c'.compile s m)) cs cs := fun cs =>
        List.forall₂_same.2 fun c _ n m => Criterion.fault?_compile c (.refl s) n m
      exact List.rel_append (hSame before) (.cons ih (hSame after))
  | @inner s c c' kind _ ih =>
      cases hRoute : s.kind.routeTo? kind with
      | none => rw [compile, compile, hRoute]
      | some route =>
          rw [fault?_related hRoute c used 0 1, fault?_related hRoute c' other 0 1]
          exact ih route hRoute 0 0

end Criterion

end

end Shelfmark
