import Shelfmark.Proofs.Answers
import Shelfmark.Query.Selection

/-!
# What a selection answers

A selection filters rows, sorts what is left and cuts a page out of it. Sorting only
permutes and a page only leaves out, so whatever is selected is one of the given items
and satisfies the condition. Without a page nothing else is lost: `select_eq_ok`.

A selection fails for a criterion or a sort order that makes no sense, and for nothing
else: `isQuery_of_select`.
-/

namespace Shelfmark

/-! ## Sorting and paging -/

theorem sortBy_perm {α : Type} (t : Tables) (keys : List SortKey) (view : α → Hit)
    (items : List α) : (sortBy t keys view items).Perm items := by
  unfold sortBy
  refine ((List.mergeSort_perm _ _).map Prod.snd).trans (List.Perm.of_eq ?_)
  rw [List.map_map]
  exact List.map_id items

namespace Page

/-- A page only leaves items out. -/
theorem slice_sublist {α : Type} (page : Page) (xs : List α) : (page.slice xs).Sublist xs := by
  unfold slice
  split
  · exact List.drop_sublist _ _
  · exact (List.take_sublist _ _).trans (List.drop_sublist _ _)

end Page

namespace Tables

variable {α : Type} {t : Tables} {scope : Scope} {declared : Option Column}
  {criterion : Option Criterion} {options : Options} {view : α → Hit} {items found : List α}

/-- A selection finds items that it was given. -/
theorem subset_of_select
    (h : t.select scope declared criterion options view items = .ok found) : found ⊆ items := by
  unfold select at h
  split at h
  · cases h
  · split at h
    · cases h
    · cases h
      intro item hItem
      have hSorted := (options.page.slice_sublist _).subset hItem
      exact (List.mem_filter.1 ((sortBy_perm _ _ _ _).mem_iff.1 hSorted)).1

/-- A selection finds no more items than it was given. -/
theorem length_le_of_select
    (h : t.select scope declared criterion options view items = .ok found) :
    found.length ≤ items.length := by
  unfold select at h
  split at h
  · cases h
  · split at h
    · cases h
    · cases h
      refine Nat.le_trans (options.page.slice_sublist _).length_le ?_
      rw [(sortBy_perm _ _ _ _).length_eq]
      exact List.length_filter_le _ _

/-- A selection is sorted before a page is cut out of it. -/
theorem select_page (page : Page) (order : SortOrder) :
    t.select scope declared criterion ⟨page, order⟩ view items =
      (t.select scope declared criterion ⟨{}, order⟩ view items).map page.slice := by
  unfold select
  cases scope.condition? criterion with
  | error fault => rfl
  | ok p =>
      obtain ⟨condition, used⟩ := p
      dsimp only
      cases scope.sortKeys used declared order <;> rfl

/-- Without a page a selection is what satisfies the condition, sorted. -/
theorem select_unpaged {condition : Option Condition} {used : Nat} {keys : List SortKey}
    (hPage : options.page = {}) (hCondition : scope.condition? criterion = .ok (condition, used))
    (hKeys : scope.sortKeys used declared options.order = .ok keys) :
    t.select scope declared criterion options view items =
      .ok (sortBy t keys view (items.filter fun item => satisfies t condition (view item))) := by
  unfold select
  rw [hCondition]
  dsimp only
  rw [hKeys, hPage]
  rfl

/-- Without a page a selection finds, in some order, all items that satisfy the
condition. -/
theorem select_eq_ok {condition : Option Condition} {used : Nat} {keys : List SortKey}
    (hPage : options.page = {}) (hCondition : scope.condition? criterion = .ok (condition, used))
    (hKeys : scope.sortKeys used declared options.order = .ok keys) :
    ∃ found, t.select scope declared criterion options view items = .ok found ∧
      found.Perm (items.filter fun item => satisfies t condition (view item)) :=
  ⟨_, select_unpaged hPage hCondition hKeys, sortBy_perm t keys view _⟩

end Tables

/-! ## Orders -/

namespace Scope

/-- The property behind a route does not depend on the number of the subquery. -/
private theorem propertyKey_routePath? (scope : Scope) (route : Route) (number other : Nat)
    (name : String) :
    (scope.routePath? route number name).map Path.propertyKey =
      (scope.routePath? route other name).map Path.propertyKey := by
  unfold routePath?
  cases route.target.fields.find? fun f => f.name = name with
  | some f => rfl
  | none =>
      cases route.link? with
      | none => rfl
      | some link => simp [Option.map_map, Function.comp_def, Path.propertyKey]

/-- What a path tells does not depend on the numbers in use, if it does not depend on them at the
end of a route. -/
theorem resolve_congr (scope : Scope) {β : Type} {tells : Path → β}
    (hTells : ∀ route number other name, (scope.routePath? route number name).map tells =
      (scope.routePath? route other name).map tells)
    (usual : Route → String) (property : String) (used other : Nat) :
    (scope.resolve usual used property).map (fun p => tells p.1) =
      (scope.resolve usual other property).map (fun p => tells p.1) := by
  unfold resolve
  dsimp only
  split
  · rename_i name inner _
    cases scope.kind.route? name with
    | none => rfl
    | some route =>
        have hKey := hTells route (used + 1) (other + 1) inner
        dsimp only [Option.getD_some]
        cases hUsed : scope.routePath? route (used + 1) inner <;>
          cases hOther : scope.routePath? route (other + 1) inner <;>
          simp_all [Except.map]
  · cases scope.fieldPath? property with
    | some path => rfl
    | none =>
        cases scope.kind.route? property with
        | none => rfl
        | some route =>
            have hKey := hTells route (used + 1) (other + 1) (usual route)
            dsimp only [Option.getD_none]
            cases hUsed : scope.routePath? route (used + 1) (usual route) <;>
              cases hOther : scope.routePath? route (other + 1) (usual route) <;>
              simp_all [Except.map]

/-- Which property is meant does not depend on the numbers in use. -/
theorem propertyKey_resolve (scope : Scope) (usual : Route → String) (property : String)
    (used other : Nat) :
    (scope.resolve usual used property).map (fun p => p.1.propertyKey) =
      (scope.resolve usual other property).map (fun p => p.1.propertyKey) :=
  scope.resolve_congr scope.propertyKey_routePath? usual property used other

private theorem propertyKeys_eq_ok {scope : Scope} {keys : List (String × Direction)}
    {seen : List PropertyKey} {used : Nat} {sorted : List SortKey} (other : Nat)
    (h : scope.propertyKeys used seen keys = .ok sorted) :
    ∃ sorted', scope.propertyKeys other seen keys = .ok sorted' := by
  induction keys generalizing used other seen sorted with
  | nil => exact ⟨[], rfl⟩
  | cons key rest ih =>
      obtain ⟨property, direction⟩ := key
      have hKey := scope.propertyKey_resolve Route.sortProperty property used other
      unfold propertyKeys at h ⊢
      cases hUsed : scope.resolve Route.sortProperty used property with
      | error fault =>
          rw [hUsed] at h
          cases h
      | ok path =>
          cases hOther : scope.resolve Route.sortProperty other property with
          | error fault =>
              rw [hUsed, hOther] at hKey
              cases hKey
          | ok path' =>
              rw [hUsed, hOther] at hKey
              have hSame : path.1.propertyKey = path'.1.propertyKey := Except.ok.inj hKey
              rw [hUsed] at h
              dsimp only at h ⊢
              rw [hSame] at h
              split at h
              · cases h
              · rename_i hNew
                obtain ⟨_, hRest, _⟩ := exists_of_map_ok h
                obtain ⟨_, hRest'⟩ := ih path'.2 hRest
                exact ⟨_, by rw [if_neg hNew, hRest']; rfl⟩

/-- Whether an order makes sense does not depend on the numbers in use. -/
theorem sortKeys_eq_ok {scope : Scope} {declared : Option Column} {order : SortOrder}
    {used : Nat} {keys : List SortKey} (other : Nat)
    (h : scope.sortKeys used declared order = .ok keys) :
    ∃ keys', scope.sortKeys other declared order = .ok keys' := by
  obtain ⟨first, hFirst, _⟩ := exists_of_map_ok h
  have hAppend : ∀ {answer : Except Fault (List SortKey)} {ks}, answer = .ok ks →
      ∃ keys', answer.map (· ++ scope.lastKeys) = .ok keys' := by
    rintro _ ks rfl
    exact ⟨ks ++ scope.lastKeys, rfl⟩
  cases order with
  | byKeys _ =>
      obtain ⟨ks, hKeys⟩ := propertyKeys_eq_ok other hFirst
      exact hAppend hKeys
  | preferred direction =>
      cases declared with
      | some column => exact ⟨_, rfl⟩
      | none =>
          obtain ⟨ks, hKeys⟩ := propertyKeys_eq_ok other hFirst
          exact hAppend hKeys

end Scope

/-! ## Faults of queries -/

/-- Whether a fault is about a criterion or a sort order. -/
def Fault.isQuery : Fault → Bool
  | validation _ _ _ => true
  | unknownProperty _ _ => true
  | criteria _ => true
  | _ => false

namespace Scope

/-- A property that leads nowhere is unknown. -/
theorem resolve_eq_error {scope : Scope} {usual : Route → String} {used : Nat}
    {property : String} {fault : Fault} (h : scope.resolve usual used property = .error fault) :
    fault = .unknownProperty scope.kind property := by
  unfold resolve at h
  dsimp only at h
  -- There may be no such route, or no such field at its end: the fault is the same.
  repeat' split at h
  all_goals cases h
  all_goals rfl

end Scope

private theorem isQuery_of_comparedCells {kind : Kind} {f : Field} {values : List FieldValue}
    {fault : Fault} (h : comparedCells kind f values = .error fault) : fault.isQuery = true := by
  induction values with
  | nil => cases h
  | cons value values ih =>
      unfold comparedCells at h
      cases hCell : f.toCell value with
      | error cause =>
          rw [hCell] at h
          cases h
          rfl
      | ok cell =>
          rw [hCell] at h
          exact ih (error_of_map_error h)

theorem Scope.isQuery_of_propertyCondition {scope : Scope} {used : Nat} {property : String}
    {values : List FieldValue} {fault : Fault}
    (h : scope.propertyCondition used property values = .error fault) :
    fault.isQuery = true := by
  unfold propertyCondition at h
  split at h
  · rename_i hResolve
    cases h
    rw [resolve_eq_error hResolve]
    rfl
  · split at h
    · rename_i hCells
      cases h
      exact isQuery_of_comparedCells hCells
    · cases h

namespace Criterion

mutual

/-- A criterion fails to compile for a reason of its own. -/
theorem isQuery_of_compile {c : Criterion} {scope : Scope} {used : Nat} {fault : Fault}
    (h : c.compile scope used = .error fault) : fault.isQuery = true := by
  cases c with
  | equal property value | oneOf property values =>
      exact Scope.isQuery_of_propertyCondition h
  | both left right =>
      unfold compile at h
      split at h
      · rename_i hLeft
        cases h
        exact isQuery_of_compile hLeft
      · split at h
        · rename_i hRight
          cases h
          exact isQuery_of_compile hRight
        · cases h
  | anyOf terms =>
      unfold compile at h
      split at h
      · rename_i hTerms
        cases h
        exact isQuery_of_compileAll hTerms
      · cases h
  | related kind inner =>
      unfold compile at h
      split at h
      · cases h
        rfl
      · split at h
        · rename_i hInner
          cases h
          exact isQuery_of_compile hInner
        · cases h

/-- So do several. -/
theorem isQuery_of_compileAll {cs : List Criterion} {scope : Scope} {used : Nat} {fault : Fault}
    (h : compileAll scope used cs = .error fault) : fault.isQuery = true := by
  cases cs with
  | nil => cases h
  | cons c cs =>
      unfold compileAll at h
      split at h
      · rename_i hHead
        cases h
        exact isQuery_of_compile hHead
      · split at h
        · rename_i hRest
          cases h
          exact isQuery_of_compileAll hRest
        · cases h

end

end Criterion

namespace Scope

theorem isQuery_of_condition? {scope : Scope} {criterion : Option Criterion} {fault : Fault}
    (h : scope.condition? criterion = .error fault) : fault.isQuery = true := by
  cases criterion with
  | none => cases h
  | some c => exact Criterion.isQuery_of_compile (error_of_map_error h)

private theorem isQuery_of_propertyKeys {scope : Scope} {keys : List (String × Direction)}
    {used : Nat} {seen : List PropertyKey} {fault : Fault}
    (h : scope.propertyKeys used seen keys = .error fault) : fault.isQuery = true := by
  induction keys generalizing used seen with
  | nil => cases h
  | cons key rest ih =>
      obtain ⟨property, direction⟩ := key
      unfold propertyKeys at h
      split at h
      · rename_i hResolve
        cases h
        rw [resolve_eq_error hResolve]
        rfl
      · split at h
        · cases h
          rfl
        · exact ih (error_of_map_error h)

theorem isQuery_of_sortKeys {scope : Scope} {used : Nat} {declared : Option Column}
    {order : SortOrder} {fault : Fault}
    (h : scope.sortKeys used declared order = .error fault) : fault.isQuery = true := by
  have hFirst := error_of_map_error h
  cases order with
  | byKeys keys => exact isQuery_of_propertyKeys hFirst
  | preferred direction =>
      cases declared with
      | some column => cases hFirst
      | none => exact isQuery_of_propertyKeys hFirst

end Scope

/-- A selection fails only for its criterion or its order. -/
theorem Tables.isQuery_of_select {α : Type} {t : Tables} {scope : Scope}
    {declared : Option Column} {criterion : Option Criterion} {options : Options}
    {view : α → Hit} {items : List α} {fault : Fault}
    (h : t.select scope declared criterion options view items = .error fault) :
    fault.isQuery = true := by
  unfold select at h
  split at h
  · rename_i hCondition
    cases h
    exact Scope.isQuery_of_condition? hCondition
  · split at h
    · rename_i hKeys
      cases h
      exact Scope.isQuery_of_sortKeys hKeys
    · cases h

end Shelfmark
