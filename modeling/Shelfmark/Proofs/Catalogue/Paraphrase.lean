import Shelfmark.Proofs.Catalogue.Sorting
import Shelfmark.Proofs.Query.Paraphrase
import Shelfmark.Proofs.Query.Renumbering

/-!
# Criteria in other words, asked of a catalogue

A criterion with a part paraphrased has the same fault and holds of the same records. So nobody
who asks a catalogue can tell the two apart: every finder answers the same, with the same records
in the same order on the same page, or fails with the same fault, and so does the counter.

The two conditions may take different numbers of subqueries, and those of the sort order are
numbered after them. That is where the order could have noticed: `Scope.reading_sortKeys` says
that it does not.
-/

namespace Shelfmark

/-! ## Selections -/

namespace Tables

variable {α : Type} {t : Tables} {s : Scope} {k k' : Criterion} {view : α → Hit} {items : List α}

theorem filterBy_some (k : Criterion) :
    t.filterBy s (some k) view items =
      (k.compile s 0).map fun p => items.filter fun item => satisfies t (some p.1) (view item) := by
  show ((k.compile s 0).map fun p => (some p.1, p.2)).map _ = _
  cases k.compile s 0 <;> rfl

/-- Two criteria that are told apart neither by their faults nor by what they hold of leave the
same items. -/
theorem filterBy_congr
    (hFault : fault? (k.compile s 0) = fault? (k'.compile s 0))
    (hSame : ∀ p p', k.compile s 0 = .ok p → k'.compile s 0 = .ok p' → ∀ item ∈ items,
      satisfies t (some p.1) (view item) = satisfies t (some p'.1) (view item)) :
    t.filterBy s (some k) view items = t.filterBy s (some k') view items := by
  rw [filterBy_some, filterBy_some]
  cases hLeft : k.compile s 0 with
  | error fault =>
      cases hRight : k'.compile s 0 with
      | error fault' =>
          rw [hLeft, hRight] at hFault
          exact congrArg Except.error (Option.some.inj hFault)
      | ok p' =>
          rw [hLeft, hRight] at hFault
          cases hFault
  | ok p =>
      cases hRight : k'.compile s 0 with
      | error fault' =>
          rw [hLeft, hRight] at hFault
          cases hFault
      | ok p' => exact congrArg Except.ok (List.filter_congr (hSame p p' hLeft hRight))

/-- A selection sorts what a filter leaves, and the order does not notice how many subqueries
the criterion takes. -/
theorem select_eq_filterBy (declared : Option Column) (criterion : Option Criterion)
    (options : Options) :
    t.select s declared criterion options view items =
      (t.filterBy s criterion view items).bind fun found =>
        (s.sortKeys 0 declared options.order).map fun keys =>
          options.page.slice (sortBy t keys view found) := by
  unfold select filterBy
  cases s.condition? criterion with
  | error fault => rfl
  | ok p =>
      obtain ⟨condition, used⟩ := p
      have hKeys := s.reading_sortKeys used 0 declared options.order
      simp only [Except.bind, Except.map] at hKeys ⊢
      cases hUsed : s.sortKeys used declared options.order with
      | error fault =>
          cases hZero : s.sortKeys 0 declared options.order with
          | error fault' =>
              rw [hUsed, hZero] at hKeys
              exact congrArg Except.error (Except.error.inj hKeys)
          | ok keys' =>
              rw [hUsed, hZero] at hKeys
              cases hKeys
      | ok keys =>
          cases hZero : s.sortKeys 0 declared options.order with
          | error fault' =>
              rw [hUsed, hZero] at hKeys
              cases hKeys
          | ok keys' =>
              rw [hUsed, hZero] at hKeys
              dsimp only
              rw [sortBy_congr t (Except.ok.inj hKeys)]

end Tables

/-! ## Finders -/

/-- Criteria that leave the same of what a finder looks at get the same answer. If the resource
is missing whose relations the finder looks at, no criterion is looked at. -/
theorem Finder.answer_congr {c : Catalogue} (h : c.Synced) {f : Finder} {k k' : Option Criterion}
    (hSame : ∀ {α : Type} (view : α → Hit) (items : List α), items.map view = f.hits c →
      c.tables.filterBy f.scope k view items = c.tables.filterBy f.scope k' view items)
    (options : Options) : f.answer c k options = f.answer c k' options := by
  by_cases hAsked : f.Asked c
  · obtain ⟨_, items, view, read, hPresents⟩ := exists_presents h hAsked
    rw [hPresents.answer, hPresents.answer, Tables.select_eq_filterBy, Tables.select_eq_filterBy,
      hSame view items hPresents.hits]
  · have hMissing : ∀ resource, (¬ ∃ r, c.getResource resource = .ok r) →
        ∃ fault, c.getResource (normalize resource) = .error fault := by
      intro resource hNone
      rw [c.getResource_normalize]
      cases hGet : c.getResource resource with
      | error fault => exact ⟨fault, rfl⟩
      | ok r => exact absurd ⟨r, hGet⟩ hNone
    cases f with
    | relatedObjects resource =>
        obtain ⟨fault, hFault⟩ := hMissing resource hAsked
        show c.relatedObjects resource k options = c.relatedObjects resource k' options
        rw [Catalogue.relatedObjects, Catalogue.relatedObjects, hFault]
    | relatedPersons resource =>
        obtain ⟨fault, hFault⟩ := hMissing resource hAsked
        show c.relatedPersons resource k options = c.relatedPersons resource k' options
        rw [Catalogue.relatedPersons, Catalogue.relatedPersons, Catalogue.related,
          Catalogue.related, hFault]
    | relatedGroups resource =>
        obtain ⟨fault, hFault⟩ := hMissing resource hAsked
        show c.relatedGroups resource k options = c.relatedGroups resource k' options
        rw [Catalogue.relatedGroups, Catalogue.relatedGroups, Catalogue.related,
          Catalogue.related, hFault]
    | _ => exact absurd trivial hAsked

namespace Catalogue

variable {c : Catalogue} {s : Scope} {k k' : Criterion}

/-- Conditions of a criterion and of its paraphrase hold of the same rows, by whatever names a
statement has for them. -/
theorem eval_paraphrase (hSound : c.tables.Sound) (hReplaces : k.Replaces s k')
    {used other : Nat} {p p' : Condition × Nat} (hCompile : k.compile s used = .ok p)
    (hCompile' : k'.compile s other = .ok p') {env : Env} {hit : Hit}
    (hSees : env.Sees (.records s.kind) s.self s.link hit) (hWithin : hit.Within c.tables) :
    p.1.eval c.tables env = p'.1.eval c.tables env := by
  have hPlain := hWithin.plain hSound
  rw [Bool.eq_iff_iff, k.eval_compile hSound hSees hPlain hCompile,
    k'.eval_compile hSound hSees hPlain hCompile']
  exact hReplaces.holds_iff hSound hSees.suits

/-- **A criterion and its paraphrase are interchangeable.** In every reachable catalogue, and
for every scope, a criterion of which some part is paraphrased has the same fault or none like
the other, whatever numbers are in use, and its condition holds of the same rows. So every
finder answers the same, and so does the counter. -/
theorem Reachable.paraphrase_interchangeable (h : Reachable c) (hReplaces : k.Replaces s k') :
    (∀ used other, fault? (k.compile s used) = fault? (k'.compile s other)) ∧
      (∀ used other p p', k.compile s used = .ok p → k'.compile s other = .ok p' →
        ∀ env hit, Env.Sees env (.records s.kind) s.self s.link hit → hit.Within c.tables →
          p.1.eval c.tables env = p'.1.eval c.tables env) ∧
      (∀ f : Finder, f.scope = s → ∀ options,
        f.answer c (some k) options = f.answer c (some k') options) ∧
      ∀ kind, Scope.records kind = s → c.count kind (some k) = c.count kind (some k') := by
  have hSynced := h.inv.synced
  have hFault := hReplaces.fault?_compile
  have hEval : ∀ used other p p', k.compile s used = .ok p → k'.compile s other = .ok p' →
      ∀ env hit, Env.Sees env (.records s.kind) s.self s.link hit → hit.Within c.tables →
        p.1.eval c.tables env = p'.1.eval c.tables env :=
    fun _ _ _ _ hCompile hCompile' _ _ => eval_paraphrase hSynced.sound hReplaces hCompile hCompile'
  have hFilter : ∀ {α : Type} (view : α → Hit) (items : List α),
      (∀ item ∈ items, s.Looks c.tables (view item)) →
        c.tables.filterBy s (some k) view items = c.tables.filterBy s (some k') view items := by
    intro α view items hLooks
    refine Tables.filterBy_congr (hFault 0 0) fun p p' hCompile hCompile' item hItem => ?_
    exact hEval 0 0 p p' hCompile hCompile' _ _ (hLooks item hItem).sees (hLooks item hItem).within
  refine ⟨hFault, hEval, ?_, ?_⟩
  · rintro f rfl options
    refine Finder.answer_congr hSynced (fun view items hHits => ?_) options
    refine hFilter view items fun item hItem => Finder.looks ?_
    exact hHits ▸ List.mem_map_of_mem hItem
  · rintro kind rfl
    unfold count
    rw [hFilter kind.view (c.tables.rows kind) fun row hRow => .record hRow]

/-- The series of the sample is asked for by its route, and by a relation to a group of the type
that the route keeps to. -/
theorem paraphrase_interchangeable_sample :
    Reachable sample ∧
      (Criterion.both (.equal "title" (.text "Firestarter")) (.equal "series#title" (.text "Novels"))).Replaces
        (.records .resource)
        (.both (.equal "title" (.text "Firestarter"))
          (.related .group
            (.both (.equal "title" (.text "Novels")) (.equal "groupType" (.text seriesTypeUuid))))) ∧
      sample.find Resource (some (.both (.equal "title" (.text "Firestarter"))
        (.related .group
          (.both (.equal "title" (.text "Novels")) (.equal "groupType" (.text seriesTypeUuid)))))) {} =
        .ok [sampleResource] := by
  have hRoute : Route.groups "series" (some seriesTypeUuid) ∈ Kind.resource.routes := by decide
  have hKnows : (Scope.inner .group (.groups "series" (some seriesTypeUuid)) 1).Knows "title" :=
    Or.inl (by decide)
  have hReplaces : (Criterion.both (.equal "title" (.text "Firestarter"))
      (.equal "series#title" (.text "Novels"))).Replaces (.records .resource)
      (.both (.equal "title" (.text "Firestarter")) (.related .group
        (.both (.equal "title" (.text "Novels")) (.equal "groupType" (.text seriesTypeUuid))))) :=
    .right _ (.here (.restricted hRoute rfl rfl hKnows (.text "Novels")))
  have hFind : sample.find Resource (some (.both (.equal "title" (.text "Firestarter"))
      (.equal "series#title" (.text "Novels")))) {} = .ok [sampleResource] := by
    decide +kernel
  obtain ⟨-, -, hSame, -⟩ := Reachable.paraphrase_interchangeable reachable_sample hReplaces
  exact ⟨reachable_sample, hReplaces, (hSame .resources rfl {}).symm.trans hFind⟩

end Catalogue

end Shelfmark
