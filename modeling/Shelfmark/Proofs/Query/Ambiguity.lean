import Shelfmark.Proofs.Query.Binding
import Shelfmark.Proofs.Query.Compilation
import Shelfmark.Proofs.Query.Selection

/-!
# Sort orders that name a property twice

A sort order is refused when it names a property twice, and a property has several names. The row
looked for and its link are in scope under plain names, and what lies behind a route is named by
the route and a field, or by the route alone, which stands for its usual field. The paths that
names are traced to are no help in telling properties apart: every path behind a route gets a
subquery of its own, so that two paths to one property differ.

So what a name leads to is said here without paths and numbers. `Property` is a field together
with where it is found, `Scope.Names` relates names to properties, and a property is known by its
key: a column of a row in scope, or the name of a route and of a field behind it. A list of names
is unambiguous when every one names a property and no two of them name properties of one key.

## Main results

* `Scope.resolve_eq_ok_iff` — names are traced to the properties that they name.
* `Scope.propertyKeys_append` — properties that differ are sorted by one after the other.
* `Scope.unambiguous_or_offends` — a list is unambiguous, or has a first entry that offends.
* `Scope.sorts_iff_unambiguous` — unambiguous lists are sort orders, and others have the fault of
  their first offending entry.
-/

namespace Shelfmark

/-! ## Properties -/

/-- A property that rows can be sorted by: a field of the row looked for or of its link, or behind
a route a field of the row at its end or of the link on the way. -/
inductive Property where
  | own (f : Field)
  | ofLink (link : Kind) (row : RowName) (f : Field)
  | atEnd (route : Route) (f : Field)
  | onTheWay (route : Route) (link : Kind) (f : Field)
  deriving DecidableEq, Repr

namespace Property

/-- What two names of a property have in common. -/
def key (scope : Scope) : Property → PropertyKey
  | own f => .column scope.self f.column
  | ofLink _ row f => .column row f.column
  | atEnd route f => .foreign route.name f.name
  | onTheWay route _ f => .foreign route.name f.name

/-- The path to a property, which is in a subquery with a number if a route is between. -/
def path (scope : Scope) (number : Nat) : Property → Path
  | own f =>
      { column := scope.kind.column scope.self f.column, kind := scope.kind, field := f }
  | ofLink link row f => { column := link.column row f.column, kind := link, field := f }
  | atEnd route f =>
      { via := some ⟨route, scope.self, number⟩
        column := route.target.column (.target number) f.column
        kind := route.target.kind, field := f }
  | onTheWay route link f =>
      { via := some ⟨route, scope.self, number⟩, column := link.column (.link number) f.column
        kind := link, field := f }

/-- How many subqueries the path to a property goes through. -/
def subqueries : Property → Nat
  | own _ => 0
  | ofLink _ _ _ => 0
  | atEnd _ _ => 1
  | onTheWay _ _ _ => 1

theorem propertyKey_path (scope : Scope) (number : Nat) (p : Property) :
    (p.path scope number).propertyKey = p.key scope := by
  cases p <;> rfl

end Property

/-- Whether a plain name is one of a field behind a route. The row at the end has the first say. -/
inductive Route.Offers (route : Route) (name : String) : Property → Prop
  | atEnd {f : Field} (hField : f ∈ route.target.fields) (hName : f.name = name) :
      Offers route name (.atEnd route f)
  | onTheWay {link : Kind} {f : Field} (hOther : ∀ g ∈ route.target.fields, g.name ≠ name)
      (hLink : route.link? = some link) (hField : f ∈ link.fields) (hName : f.name = name) :
      Offers route name (.onTheWay route link f)

namespace Scope

/-- Whether a plain name is one of a field in scope. The row looked for has the first say. -/
inductive Offers (scope : Scope) (name : String) : Property → Prop
  | own {f : Field} (hField : f ∈ scope.kind.fields) (hName : f.name = name) :
      Offers scope name (.own f)
  | ofLink {link : Kind} {row : RowName} {f : Field}
      (hOther : ∀ g ∈ scope.kind.fields, g.name ≠ name) (hLink : scope.link = some (link, row))
      (hField : f ∈ link.fields) (hName : f.name = name) : Offers scope name (.ofLink link row f)

/-- Whether a name is one of a property: of a field in scope, of a field behind a route, or of a
route that stands for its usual field and that no field in scope is named like. -/
inductive Names (scope : Scope) (name : String) : Property → Prop
  | here {p : Property} (hHere : scope.Offers name p) : Names scope name p
  | along {route : Route} {inner : String} {p : Property} (hRoute : route ∈ scope.kind.routes)
      (hInner : route.Offers inner p) (hName : name = route.name ++ "#" ++ inner) :
      Names scope name p
  | alone {route : Route} {p : Property} (hRoute : route ∈ scope.kind.routes)
      (hName : name = route.name) (hNone : ∀ q, ¬scope.Offers name q)
      (hUsual : route.Offers route.sortProperty p) : Names scope name p

/-! ## Names are traced to properties -/

variable {scope : Scope} {name : String} {path : Path} {p q : Property}

private theorem field?_eq_some_iff {kind : Kind} {f : Field} :
    kind.field? name = some f ↔ f ∈ kind.fields ∧ f.name = name :=
  find?_key_iff (Source.records kind).fieldNames_nodup

private theorem field?_eq_none_iff {kind : Kind} :
    kind.field? name = none ↔ ∀ g ∈ kind.fields, g.name ≠ name := by
  simp [Kind.field?]

/-- A field in scope has its path, which goes through no subquery. -/
theorem Offers.fieldPath?_eq (h : scope.Offers name p) (number : Nat) :
    scope.fieldPath? name = some (p.path scope number) ∧ p.subqueries = 0 := by
  cases h with
  | own hField hName =>
      rw [fieldPath?, field?_eq_some_iff.2 ⟨hField, hName⟩]
      exact ⟨rfl, rfl⟩
  | ofLink hOther hLink hField hName =>
      rw [fieldPath?, field?_eq_none_iff.2 hOther, hLink]
      dsimp only
      rw [field?_eq_some_iff.2 ⟨hField, hName⟩]
      exact ⟨rfl, rfl⟩

theorem fieldPath?_eq_none_iff :
    scope.fieldPath? name = none ↔ ∀ p, ¬scope.Offers name p := by
  constructor
  · intro hNone p hOffers
    rw [(hOffers.fieldPath?_eq 0).1] at hNone
    cases hNone
  · intro hNone
    cases hOwn : scope.kind.field? name with
    | some f =>
        obtain ⟨hField, hName⟩ := field?_eq_some_iff.1 hOwn
        exact absurd (.own hField hName) (hNone (.own f))
    | none =>
        rw [fieldPath?, hOwn]
        cases hLink : scope.link with
        | none => rfl
        | some link =>
            refine Option.map_eq_none_iff.2 (field?_eq_none_iff.2 fun g hField hName => ?_)
            exact hNone _ (.ofLink (field?_eq_none_iff.1 hOwn) hLink hField hName)

/-- A field behind a route has its path in the subquery with a number. -/
theorem routePath?_eq_of_offers {route : Route} (h : route.Offers name p) (scope : Scope)
    (number : Nat) :
    scope.routePath? route number name = some (p.path scope number) ∧ p.subqueries = 1 := by
  cases h with
  | atEnd hField hName =>
      rw [routePath?, (find?_key_iff route.target.fieldNames_nodup).2 ⟨hField, hName⟩]
      exact ⟨rfl, rfl⟩
  | onTheWay hOther hLink hField hName =>
      have hNone : route.target.fields.find? (fun g => g.name = name) = none := by
        simpa using hOther
      rw [routePath?, hNone, hLink]
      dsimp only
      rw [field?_eq_some_iff.2 ⟨hField, hName⟩]
      exact ⟨rfl, rfl⟩

theorem exists_offers_of_routePath? {route : Route} {number : Nat}
    (h : scope.routePath? route number name = some path) : ∃ p, route.Offers name p := by
  unfold routePath? at h
  extract_lets via at h
  split at h
  · rename_i f hEnd
    obtain ⟨hField, hName⟩ := (find?_key_iff route.target.fieldNames_nodup).1 hEnd
    exact ⟨_, .atEnd hField hName⟩
  · rename_i hNone
    split at h
    · cases h
    · rename_i link hLink
      obtain ⟨f, hWay, -⟩ := Option.map_eq_some_iff.1 h
      obtain ⟨hField, hName⟩ := field?_eq_some_iff.1 hWay
      exact ⟨_, .onTheWay (by simpa using hNone) hLink hField hName⟩

/-- Fields are not named with a hash sign. -/
private theorem Offers.noHash (h : scope.Offers name p) : '#' ∉ name.toList := by
  cases h with
  | own hField hName => exact hName ▸ @Source.noHash (.records scope.kind) _ hField
  | @ofLink link _ _ _ _ hField hName => exact hName ▸ @Source.noHash (.records link) _ hField

/-- A name of a property is traced to it, behind a route in the next subquery. -/
theorem Names.resolve_eq (h : scope.Names name p) (used : Nat) :
    scope.resolve Route.sortProperty used name =
      .ok (p.path scope (used + 1), used + p.subqueries) := by
  cases h with
  | here hHere =>
      obtain ⟨hPath, hSubqueries⟩ := hHere.fieldPath?_eq (used + 1)
      rw [resolve, splitPath?_eq_none_iff.2 hHere.noHash, hSubqueries]
      dsimp only
      rw [hPath]
      rfl
  | @along route inner _ hRoute hInner hName =>
      obtain ⟨hPath, hSubqueries⟩ := routePath?_eq_of_offers hInner scope (used + 1)
      rw [resolve, hName, splitPath?_append ((routeNames scope.kind).2 route hRoute), hSubqueries]
      dsimp only
      rw [Kind.route?_eq_some_iff.2 ⟨hRoute, rfl⟩]
      dsimp only [Option.getD_some]
      rw [hPath]
  | @alone route _ hRoute hName hNone hUsual =>
      obtain ⟨hPath, hSubqueries⟩ := routePath?_eq_of_offers hUsual scope (used + 1)
      have hSplit : splitPath? name = none :=
        splitPath?_eq_none_iff.2 (hName ▸ (routeNames scope.kind).2 route hRoute)
      rw [resolve, hSplit, fieldPath?_eq_none_iff.2 hNone, hSubqueries]
      dsimp only
      rw [Kind.route?_eq_some_iff.2 ⟨hRoute, hName.symm⟩]
      dsimp only [Option.getD_none]
      rw [hPath]

/-- What can be traced is the name of a property. -/
theorem names_of_resolve {used after : Nat}
    (h : scope.resolve Route.sortProperty used name = .ok (path, after)) :
    ∃ p, scope.Names name p := by
  rcases resolve_eq_ok h with ⟨start, inner, route, hSplit, hRoute, hPath⟩ | hField |
    ⟨hNone, route, hRoute, hPath⟩
  · obtain ⟨p, hOffers⟩ := exists_offers_of_routePath? hPath
    obtain ⟨hMem, rfl⟩ := Kind.route?_eq_some_iff.1 hRoute
    exact ⟨p, .along hMem hOffers (eq_of_splitPath? hSplit)⟩
  · have hSome : scope.fieldPath? name ≠ none := by simp [hField]
    obtain ⟨p, hOffers⟩ := not_forall_not.1 (mt fieldPath?_eq_none_iff.2 hSome)
    exact ⟨p, .here hOffers⟩
  · obtain ⟨p, hOffers⟩ := exists_offers_of_routePath? hPath
    obtain ⟨hMem, hName⟩ := Kind.route?_eq_some_iff.1 hRoute
    exact ⟨p, .alone hMem hName.symm (fieldPath?_eq_none_iff.1 hNone) hOffers⟩

/-- **Names are traced to the properties that they name**, and other texts to none. -/
theorem resolve_eq_ok_iff {used after : Nat} :
    scope.resolve Route.sortProperty used name = .ok (path, after) ↔
      ∃ p, scope.Names name p ∧ path = p.path scope (used + 1) ∧
        after = used + p.subqueries := by
  constructor
  · intro h
    obtain ⟨p, hNames⟩ := names_of_resolve h
    rw [hNames.resolve_eq] at h
    cases h
    exact ⟨p, hNames, rfl, rfl⟩
  · rintro ⟨p, hNames, rfl, rfl⟩
    exact hNames.resolve_eq used

theorem resolve_eq_unknown (h : ∀ p, ¬scope.Names name p) (used : Nat) :
    scope.resolve Route.sortProperty used name = .error (.unknownProperty scope.kind name) := by
  cases hResolve : scope.resolve Route.sortProperty used name with
  | error fault => rw [resolve_eq_error hResolve]
  | ok traced =>
      obtain ⟨path, after⟩ := traced
      obtain ⟨p, hNames⟩ := names_of_resolve hResolve
      exact absurd hNames (h p)

/-- A name is one of a single property. -/
theorem Names.key_eq (hp : scope.Names name p) (hq : scope.Names name q) :
    p.key scope = q.key scope := by
  have hSame := (hp.resolve_eq 0).symm.trans (hq.resolve_eq 0)
  rw [← p.propertyKey_path scope 1, ← q.propertyKey_path scope 1]
  exact congrArg Path.propertyKey (Prod.mk.inj (Except.ok.inj hSame)).1

/-! ## Lists of names -/

/-- Whether every name of a list is one of a property, and no two are names of one property. -/
def Unambiguous (scope : Scope) (names : List String) : Prop :=
  (∀ name ∈ names, ∃ p, scope.Names name p) ∧
    names.Pairwise fun a b => ∀ p q, scope.Names a p → scope.Names b q →
      p.key scope ≠ q.key scope

/-- The fault of a name that comes after others: it is the name of no property, or of one that is
named before. -/
inductive Offends (scope : Scope) (before : List String) (name : String) : Fault → Prop
  | unknown (hNone : ∀ p, ¬scope.Names name p) :
      Offends scope before name (.unknownProperty scope.kind name)
  | twice {earlier : String} {p q : Property} (hEarlier : earlier ∈ before)
      (hp : scope.Names earlier p) (hq : scope.Names name q)
      (hSame : p.key scope = q.key scope) :
      Offends scope before name (.criteria (.sortedTwice name))

/-- One name more leaves a list unambiguous when it does not offend. -/
theorem unambiguous_snoc {names : List String} :
    scope.Unambiguous (names ++ [name]) ↔
      scope.Unambiguous names ∧ ∀ fault, ¬scope.Offends names name fault := by
  unfold Unambiguous
  simp only [List.forall_mem_append, List.forall_mem_singleton, List.pairwise_append,
    List.pairwise_singleton, true_and]
  constructor
  · rintro ⟨⟨hNames, p, hp⟩, hPairwise, hNew⟩
    refine ⟨⟨hNames, hPairwise⟩, ?_⟩
    rintro _ (hNone | ⟨hEarlier, hq, hp', hSame⟩)
    · exact hNone p hp
    · exact hNew _ hEarlier _ _ hq hp' hSame
  · rintro ⟨⟨hNames, hPairwise⟩, hSpared⟩
    refine ⟨⟨hNames, ?_⟩, hPairwise, ?_⟩
    · by_contra hNone
      exact hSpared _ (.unknown fun p hp => hNone ⟨p, hp⟩)
    · intro earlier hEarlier p q hp hq hSame
      exact hSpared _ (.twice hEarlier hp hq hSame)

/-- A list is unambiguous, or has a first name that offends. -/
theorem unambiguous_or_offends (scope : Scope) (names : List String) :
    scope.Unambiguous names ∨
      ∃ before name after fault, names = before ++ name :: after ∧ scope.Unambiguous before ∧
        scope.Offends before name fault := by
  induction names using List.reverseRecOn with
  | nil => exact Or.inl ⟨by simp, .nil⟩
  | append_singleton names last ih =>
      rcases ih with hUnambiguous | ⟨before, name, after, fault, rfl, hBefore, hOffends⟩
      · by_cases hSpared : ∀ fault, ¬scope.Offends names last fault
        · exact Or.inl (unambiguous_snoc.2 ⟨hUnambiguous, hSpared⟩)
        · obtain ⟨fault, hOffends⟩ := not_forall_not.1 hSpared
          exact Or.inr ⟨names, last, [], fault, rfl, hUnambiguous, hOffends⟩
      · exact Or.inr ⟨before, name, after ++ [last], fault, by simp, hBefore, hOffends⟩

/-- Whether names are those of properties, one by one, and no property is there twice. -/
structure Tells (scope : Scope) (names : List String) (ps : List Property) : Prop where
  names : List.Forall₂ scope.Names names ps
  distinct : (ps.map (Property.key scope)).Nodup

theorem Tells.exists_name {names : List String} {ps : List Property} (h : scope.Tells names ps)
    (hp : p ∈ ps) : ∃ name ∈ names, scope.Names name p := by
  obtain ⟨i, hi, rfl⟩ := List.getElem_of_mem hp
  have hLength := h.names.length_eq
  exact ⟨names[i], List.getElem_mem _, h.names.get (by omega) hi⟩

theorem Tells.exists_property {names : List String} {ps : List Property}
    (h : scope.Tells names ps) (hName : name ∈ names) : ∃ p ∈ ps, scope.Names name p := by
  obtain ⟨i, hi, rfl⟩ := List.getElem_of_mem hName
  have hLength := h.names.length_eq
  exact ⟨ps[i], List.getElem_mem _, h.names.get hi (by omega)⟩

/-- Names that are not ambiguous are those of properties that differ. -/
theorem Unambiguous.exists_tells {names : List String} (h : scope.Unambiguous names) :
    ∃ ps, scope.Tells names ps := by
  induction names using List.reverseRecOn with
  | nil => exact ⟨[], .nil, by simp⟩
  | append_singleton names last ih =>
      obtain ⟨hInit, hSpared⟩ := unambiguous_snoc.1 h
      obtain ⟨ps, hTells⟩ := ih hInit
      obtain ⟨p, hp⟩ := h.1 last (by simp)
      have hNew : p.key scope ∉ ps.map (Property.key scope) := by
        intro hOld
        obtain ⟨q, hMem, hSame⟩ := List.mem_map.1 hOld
        obtain ⟨earlier, hEarlier, hq⟩ := hTells.exists_name hMem
        exact hSpared _ (.twice hEarlier hq hp hSame)
      refine ⟨ps ++ [p], List.rel_append hTells.names (.cons hp .nil), ?_⟩
      rw [List.map_append, List.map_singleton, ← List.concat_eq_append]
      exact hTells.distinct.concat hNew

/-! ## Orders -/

/-- The sort keys of properties, each behind a route in the next subquery. -/
def keysOf (scope : Scope) (used : Nat) : List (Property × Direction) → List SortKey
  | [] => []
  | (p, direction) :: rest =>
      (p.path scope (used + 1)).sortKey direction :: scope.keysOf (used + p.subqueries) rest

/-- Properties that differ are sorted by one after the other, and what comes behind them is
compared with all of them. -/
theorem propertyKeys_append {entries : List (String × Direction)} {ps : List Property}
    (h : scope.Tells (entries.map Prod.fst) ps) (used : Nat) {seen : List PropertyKey}
    (hNew : ∀ p ∈ ps, p.key scope ∉ seen) (rest : List (String × Direction)) :
    scope.propertyKeys used seen (entries ++ rest) =
      (scope.propertyKeys (ps.foldl (fun number p => number + p.subqueries) used)
        ((ps.map (Property.key scope)).reverse ++ seen) rest).map
          (scope.keysOf used (ps.zip (entries.map Prod.snd)) ++ ·) := by
  obtain ⟨hNames, hDistinct⟩ := h
  induction entries generalizing ps used seen with
  | nil =>
      cases hNames
      simp only [List.nil_append, List.map_nil, List.foldl_nil, List.reverse_nil]
      cases scope.propertyKeys used seen rest <;> rfl
  | cons entry entries ih =>
      obtain ⟨name, direction⟩ := entry
      obtain ⟨p, ps, hName, hRest, rfl⟩ := List.forall₂_cons_left_iff.1 hNames
      rw [List.map_cons, List.nodup_cons] at hDistinct
      have hHead : seen.contains (p.path scope (used + 1)).propertyKey = false := by
        rw [p.propertyKey_path, ← Bool.not_eq_true, List.contains_iff_mem]
        exact hNew p (by simp)
      have hOther : ∀ q ∈ ps, q.key scope ∉ p.key scope :: seen := by
        intro q hq hMem
        rcases List.mem_cons.1 hMem with hSame | hSeen
        · exact hDistinct.1 (List.mem_map.2 ⟨q, hq, hSame⟩)
        · exact hNew q (by simp [hq]) hSeen
      rw [List.cons_append, propertyKeys, hName.resolve_eq used]
      dsimp only
      rw [hHead, p.propertyKey_path, ih (used + p.subqueries) hOther hRest hDistinct.2]
      simp only [Bool.false_eq_true, if_false, List.map_cons, List.foldl_cons, List.reverse_cons,
        List.append_assoc, List.singleton_append]
      cases scope.propertyKeys _ _ rest <;> rfl

/-- A name that offends is refused. -/
theorem Offends.propertyKeys_eq {names : List String} {ps : List Property} {fault : Fault}
    (h : scope.Offends names name fault) (hTells : scope.Tells names ps) (used : Nat)
    (direction : Direction) (rest : List (String × Direction)) :
    scope.propertyKeys used ((ps.map (Property.key scope)).reverse ++ [])
      ((name, direction) :: rest) = .error fault := by
  rw [propertyKeys, List.append_nil]
  cases h with
  | unknown hNone => rw [resolve_eq_unknown hNone]
  | @twice earlier p q hEarlier hp hq hSame =>
      obtain ⟨own, hOwn, hNames⟩ := hTells.exists_property hEarlier
      have hSeen : (ps.map (Property.key scope)).reverse.contains
          (q.path scope (used + 1)).propertyKey = true := by
        rw [q.propertyKey_path, List.contains_iff_mem, List.mem_reverse, ← hSame, hp.key_eq hNames]
        exact List.mem_map_of_mem hOwn
      rw [hq.resolve_eq used]
      dsimp only
      rw [if_pos hSeen]

theorem sortKeys_byKeys (scope : Scope) (used : Nat) (declared : Option Column)
    (entries : List (String × Direction)) :
    scope.sortKeys used declared (.byKeys entries) =
      (scope.propertyKeys used [] entries).map (· ++ scope.lastKeys) := by
  cases declared <;> rfl

theorem sortKeys_of_tells {entries : List (String × Direction)} {ps : List Property}
    (h : scope.Tells (entries.map Prod.fst) ps) (used : Nat) (declared : Option Column) :
    scope.sortKeys used declared (.byKeys entries) =
      .ok (scope.keysOf used (ps.zip (entries.map Prod.snd)) ++ scope.lastKeys) := by
  have hFresh : ∀ p ∈ ps, p.key scope ∉ ([] : List PropertyKey) := by simp
  have hKeys := propertyKeys_append h used hFresh []
  rw [List.append_nil, propertyKeys] at hKeys
  rw [sortKeys_byKeys, hKeys]
  simp [Except.map]

theorem sortKeys_of_offends {entries : List (String × Direction)} {before after : List String}
    {fault : Fault} (hEntries : entries.map Prod.fst = before ++ name :: after)
    (hBefore : scope.Unambiguous before) (h : scope.Offends before name fault) (used : Nat)
    (declared : Option Column) :
    scope.sortKeys used declared (.byKeys entries) = .error fault := by
  obtain ⟨first, others, rfl, rfl, hOthers⟩ := List.map_eq_append_iff.1 hEntries
  obtain ⟨⟨_, direction⟩, rest, rfl, rfl, -⟩ := List.map_eq_cons_iff.1 hOthers
  obtain ⟨ps, hTells⟩ := hBefore.exists_tells
  rw [sortKeys_byKeys, propertyKeys_append hTells used (by simp), h.propertyKeys_eq hTells]
  rfl

section

variable {used : Nat} {declared : Option Column} {entries : List (String × Direction)}

/-- Just the unambiguous lists are sort orders. -/
theorem exists_sortKeys_iff :
    (∃ keys, scope.sortKeys used declared (.byKeys entries) = .ok keys) ↔
      scope.Unambiguous (entries.map Prod.fst) := by
  constructor
  · rintro ⟨keys, hOk⟩
    refine (scope.unambiguous_or_offends _).resolve_right ?_
    rintro ⟨before, name, after, fault, hEntries, hBefore, hOffends⟩
    rw [sortKeys_of_offends hEntries hBefore hOffends] at hOk
    cases hOk
  · intro hUnambiguous
    obtain ⟨ps, hTells⟩ := hUnambiguous.exists_tells
    exact ⟨_, sortKeys_of_tells hTells used declared⟩

/-- The others have the fault of their first name that offends. -/
theorem sortKeys_eq_error_iff {fault : Fault} :
    scope.sortKeys used declared (.byKeys entries) = .error fault ↔
      ∃ before name after, entries.map Prod.fst = before ++ name :: after ∧
        scope.Unambiguous before ∧ scope.Offends before name fault := by
  constructor
  · intro hError
    rcases scope.unambiguous_or_offends (entries.map Prod.fst) with
      hUnambiguous | ⟨before, name, after, other, hEntries, hBefore, hOffends⟩
    · obtain ⟨keys, hOk⟩ := exists_sortKeys_iff.2 hUnambiguous
      rw [hOk] at hError
      cases hError
    · rw [sortKeys_of_offends hEntries hBefore hOffends] at hError
      cases hError
      exact ⟨before, name, after, hEntries, hBefore, hOffends⟩
  · rintro ⟨before, name, after, hEntries, hBefore, hOffends⟩
    exact sortKeys_of_offends hEntries hBefore hOffends used declared

end

/-- The clause of an order ends with the key column of the row and the row number of its link. -/
theorem orderText_lastKeys (scope : Scope) (keys : List SortKey) :
    orderText (keys ++ scope.lastKeys) =
      "order by " ++ ", ".intercalate (keys.map SortKey.text ++
        (scope.self.text ++ "." ++ scope.kind.keyColumn) ::
          (scope.link.map fun link => link.2.text ++ ".rowid").toList) := by
  have hLast : scope.lastKeys.map SortKey.text =
      (scope.self.text ++ "." ++ scope.kind.keyColumn) ::
        (scope.link.map fun link => link.2.text ++ ".rowid").toList := by
    unfold lastKeys
    cases scope.link <;>
      simp [SortKey.text, SortKey.valueText, Column.text, Kind.column, String.append_assoc]
  rw [orderText, List.map_append, hLast]

/-- **Just the ambiguous orders are refused.** A list of names is a sort order when each is the
name of a property and no two are names of one property; otherwise the fault is that of the first
name that is the name of no property or of a property that was named before. The clause then has
the keys of the properties, in their order and directions, and behind them the key column of the
row looked for and the row number of the link. -/
theorem sorts_iff_unambiguous (scope : Scope) (used : Nat) (declared : Option Column)
    (entries : List (String × Direction)) :
    ((∃ keys, scope.sortKeys used declared (.byKeys entries) = .ok keys) ↔
        scope.Unambiguous (entries.map Prod.fst)) ∧
      (∀ fault, scope.sortKeys used declared (.byKeys entries) = .error fault ↔
        ∃ before name after, entries.map Prod.fst = before ++ name :: after ∧
          scope.Unambiguous before ∧ scope.Offends before name fault) ∧
      ∀ keys, scope.sortKeys used declared (.byKeys entries) = .ok keys →
        ∃ ps, List.Forall₂ scope.Names (entries.map Prod.fst) ps ∧
          keys = scope.keysOf used (ps.zip (entries.map Prod.snd)) ++ scope.lastKeys ∧
          orderText keys = "order by " ++ ", ".intercalate
            ((scope.keysOf used (ps.zip (entries.map Prod.snd))).map SortKey.text ++
              (scope.self.text ++ "." ++ scope.kind.keyColumn) ::
                (scope.link.map fun link => link.2.text ++ ".rowid").toList) := by
  refine ⟨exists_sortKeys_iff, fun fault => sortKeys_eq_error_iff, fun keys hOk => ?_⟩
  obtain ⟨ps, hTells⟩ := (exists_sortKeys_iff.1 ⟨keys, hOk⟩).exists_tells
  rw [sortKeys_of_tells hTells] at hOk
  cases hOk
  exact ⟨ps, hTells.names, rfl, orderText_lastKeys scope _⟩

/-- A route names the property that it stands for, so naming that as well is naming it twice. -/
example :
    (records .resource).sortKeys 0 none
        (.byKeys
          [("title", .ascending), ("authors", .ascending), ("authors#nameSort", .descending)]) =
      .error (.criteria (.sortedTwice "authors#nameSort")) := by
  decide +kernel

end Scope

end Shelfmark
