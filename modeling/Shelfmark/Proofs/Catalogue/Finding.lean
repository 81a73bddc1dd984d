import Shelfmark.Proofs.Catalogue.Failure
import Shelfmark.Proofs.Query.Compilation
import Shelfmark.Proofs.Query.Selection

/-!
# Finders find what satisfies the criterion

A finder without a page answers with the records of just those rows that satisfy the
criterion, each of them once, and the counter of the same kind gives their number. The
order plays no part in this, as long as it makes sense.

What satisfying means is said in `Criterion.Holds`; that the compiled condition says the
same is `Criterion.eval_compile`. What is added here is that every row of a sound table can
be read and that its record tells the key of the row, so that no two rows are found as the
same record.
-/

namespace Shelfmark

namespace Tables

variable {t : Tables} {kind : Kind} {criterion : Criterion}

/-! ## Rows -/

/-- What a finder looks at when it compares a row with a criterion. -/
theorem satisfies_iff (h : t.Sound) {condition : Condition} {used : Nat}
    (hCompile : criterion.compile (.records kind) 0 = .ok (condition, used)) {row : Row}
    (hRow : row ∈ t.rows kind) :
    satisfies t (some condition) (kind.view row) = true ↔ criterion.Holds t (kind.view row) := by
  have hSees : (Env.ofHit (kind.view row)).Sees (.records kind) .self none (kind.view row) :=
    ⟨rfl, rfl, rfl⟩
  have hPlain : (kind.view row).Plain :=
    { target := plain_cell (h.fits kind row hRow)
      link := by simp [Kind.view] }
  exact criterion.eval_compile h hSees hPlain hCompile

/-- Without a page a selection finds the rows that satisfy the criterion, each once, and
they are as many as a filter leaves. -/
theorem select_exactly (h : t.Sound) {condition : Condition} {keys : List SortKey}
    {options : Options} (hPage : options.page = {})
    (hCondition : criterion.condition (.records kind) = .ok condition)
    (hKeys : (Scope.records kind).sortKeys 0 none options.order = .ok keys) :
    ∃ found, t.select (.records kind) none (some criterion) options kind.view (t.rows kind) =
        .ok found ∧
      (t.filterBy (.records kind) (some criterion) kind.view (t.rows kind)).map List.length =
        .ok found.length ∧
      (∀ row, row ∈ found ↔ row ∈ t.rows kind ∧ criterion.Holds t (kind.view row)) ∧
      found.Nodup := by
  obtain ⟨⟨condition, used⟩, hCompile, rfl⟩ := exists_of_map_ok hCondition
  obtain ⟨_, hKeys'⟩ := Scope.sortKeys_eq_ok used hKeys
  have hGiven : (Scope.records kind).condition? (some criterion) = .ok (some condition, used) := by
    rw [Scope.condition?, hCompile]
    rfl
  obtain ⟨found, hSelect, hPerm⟩ := select_eq_ok hPage hGiven hKeys'
  refine ⟨found, hSelect, ?_, fun row => ?_, ?_⟩
  · rw [filterBy, hGiven, hPerm.length_eq]
    rfl
  · rw [hPerm.mem_iff, List.mem_filter]
    exact and_congr_right fun hRow => satisfies_iff h hCompile hRow
  · exact hPerm.nodup_iff.2 ((h.ids kind).of_map.filter _)

end Tables

namespace Catalogue

/-! ## Records that tell their row -/

/-- Records that every row of their kind is read as, and that tell the key of the row. -/
class Keyed (α : Type) [Storable α] where
  key : α → Cell
  readable : ∀ {c : Catalogue}, c.Synced → ∀ {row : Row}, row ∈ c.tables.rows (Storable.kind α) →
    ∃ record, readRow α c.types row = .ok record
  key_eq : ∀ {row : Row}, row.Fits (Storable.kind α) → ∀ {types : TypeCache} {record : α},
    readRow α types row = .ok record → row.key (Storable.kind α) = key record

instance : Keyed Resource where
  key record := .text record.uuid
  readable h _ hRow := readable_resource h hRow
  key_eq hFits _ _ h := key_of_readRow_resource hFits h

instance : Keyed Person where
  key record := .text record.uuid
  readable h _ hRow := readable_person h hRow
  key_eq hFits _ _ h := key_of_readRow_person hFits h

instance : Keyed Group where
  key record := .text record.uuid
  readable h _ hRow := readable_group h hRow
  key_eq hFits _ _ h := key_of_readRow_group hFits h

instance : Keyed GroupType where
  key record := .text record.uuid
  readable h _ hRow := ⟨_, readRow_groupType (h.sound.type_row hRow) _⟩
  key_eq hFits _ _ h := key_of_readRow_groupType hFits h

instance : Keyed ObjectRelation where
  key record := .integer record.id
  readable h _ hRow := readable_object h hRow
  key_eq _ _ _ h := key_of_readRow_object h

/-- Different rows are read as different records. -/
private theorem records_nodup {α : Type} [Storable α] [Keyed α] {t : Tables} (h : t.Sound)
    {types : TypeCache} {rows : List Row} {records : List α}
    (hSubset : rows ⊆ t.rows (Storable.kind α)) (hNodup : rows.Nodup)
    (hRead : List.Forall₂ (fun row record => readRow α types row = .ok record) rows records) :
    records.Nodup := by
  have hKeys : rows.map (Row.key (Storable.kind α)) = records.map Keyed.key := by
    clear hNodup
    induction hRead with
    | nil => rfl
    | cons hHead _ ih =>
        have hFits := h.fits _ _ (hSubset List.mem_cons_self)
        rw [List.map_cons, List.map_cons, Keyed.key_eq hFits hHead,
          ih fun _ hRow => hSubset (List.mem_cons_of_mem _ hRow)]
  refine List.Nodup.of_map Keyed.key (hKeys ▸ hNodup.map_on fun a ha b hb hEq => ?_)
  exact List.inj_on_of_nodup_map (h.keys_nodup _) (hSubset ha) (hSubset hb) hEq

/-! ## Finding -/

/-- Whether a criterion and an order make sense for the records of a kind. -/
structure Compiles (kind : Kind) (criterion : Criterion) (order : SortOrder) : Prop where
  condition : ∃ condition, criterion.condition (.records kind) = .ok condition
  keys : ∃ keys, (Scope.records kind).sortKeys 0 none order = .ok keys

/-- The natural order makes sense for every kind. -/
theorem sortKeys_preferred (kind : Kind) (direction : Direction) :
    ∃ keys, (Scope.records kind).sortKeys 0 none (.preferred direction) = .ok keys := by
  cases kind <;> exact ⟨_, rfl⟩

/-- Whether the finder of a kind answers with the records of just those rows that satisfy
the criterion, each once, and the counter with their number. -/
def FindsExactly (α : Type) [Storable α] (c : Catalogue) (criterion : Criterion)
    (options : Options) : Prop :=
  ∃ (rows : List Row) (records : List α),
    c.find α (some criterion) options = .ok records ∧
      c.count (Storable.kind α) (some criterion) = .ok records.length ∧
      (∀ row, row ∈ rows ↔ row ∈ c.tables.rows (Storable.kind α) ∧
        criterion.Holds c.tables ((Storable.kind α).view row)) ∧
      List.Forall₂ (fun row record => readRow α c.types row = .ok record) rows records ∧
      rows.Nodup ∧ records.Nodup

/-- Finding for one kind of records: what is selected can be read, and is read as different
records. -/
theorem findsExactly (α : Type) [Storable α] [Keyed α] {c : Catalogue} (h : c.Synced)
    {criterion : Criterion} {options : Options} (hPage : options.page = {})
    (hCompiles : Compiles (Storable.kind α) criterion options.order) :
    c.FindsExactly α criterion options := by
  obtain ⟨_, hCondition⟩ := hCompiles.condition
  obtain ⟨_, hKeys⟩ := hCompiles.keys
  obtain ⟨rows, hSelect, hCount, hMem, hNodup⟩ :=
    Tables.select_exactly h.sound hPage hCondition hKeys
  obtain ⟨records, hRecords⟩ := exists_mapM_eq_ok fun row hRow =>
    Keyed.readable (α := α) h ((hMem row).1 hRow).1
  have hRead := forall₂_of_mapM hRecords
  refine ⟨rows, records, ?_, ?_, hMem, hRead, hNodup, ?_⟩
  · rw [find, hSelect]
    exact hRecords
  · rw [count, hCount, hRead.length_eq]
  · exact records_nodup h.sound (fun row hRow => ((hMem row).1 hRow).1) hNodup hRead

/-- **A criterion that makes sense finds what satisfies it.** In every reachable catalogue
and for every kind that has a finder, the finder without a page answers with the records
of exactly the rows that satisfy the criterion, each once, and the counter with their
number. -/
theorem Reachable.finds_satisfying {c : Catalogue} (h : Reachable c) {options : Options}
    (hPage : options.page = {}) (criterion : Criterion) :
    (Compiles .resource criterion options.order → c.FindsExactly Resource criterion options) ∧
      (Compiles .person criterion options.order → c.FindsExactly Person criterion options) ∧
      (Compiles .group criterion options.order → c.FindsExactly Group criterion options) ∧
      (Compiles .groupType criterion options.order →
        c.FindsExactly GroupType criterion options) ∧
      (Compiles .objectRelation criterion options.order →
        c.FindsExactly ObjectRelation criterion options) :=
  have hSynced := h.inv.synced
  ⟨findsExactly Resource hSynced hPage, findsExactly Person hSynced hPage,
    findsExactly Group hSynced hPage, findsExactly GroupType hSynced hPage,
    findsExactly ObjectRelation hSynced hPage⟩

/-- The first of a series that is called Novels. -/
def sampleCriterion : Criterion :=
  .both (.equal "series" (.text "Novels")) (.related .group (.equal "groupIndex" (.integer 1)))

private theorem exists_single_of_count {α : Type} [Storable α] {c : Catalogue}
    {criterion : Criterion} {options : Options} (h : c.FindsExactly α criterion options)
    (hCount : c.count (Storable.kind α) (some criterion) = .ok 1) :
    ∃ record, c.find α (some criterion) options = .ok [record] := by
  obtain ⟨_, records, hFind, hNumber, _⟩ := h
  have hLength : records.length = 1 := Except.ok.inj (hNumber.symm.trans hCount)
  obtain ⟨record, rfl⟩ := List.length_eq_one_iff.1 hLength
  exact ⟨record, hFind⟩

theorem finds_satisfying_sample :
    Reachable sample ∧ sample.FindsExactly Resource sampleCriterion {} ∧
      (∃ resource, sample.find Resource (some sampleCriterion) {} = .ok [resource]) ∧
      ∃ type, sample.find GroupType (some (.equal "name" (.text "SERIES"))) {} = .ok [type] := by
  have hPage : ({} : Options).page = {} := rfl
  have hResources := (Reachable.finds_satisfying reachable_sample hPage
    sampleCriterion).1 ⟨⟨_, rfl⟩, sortKeys_preferred _ _⟩
  have hTypes := (Reachable.finds_satisfying reachable_sample hPage
    (.equal "name" (.text "SERIES"))).2.2.2.1 ⟨⟨_, rfl⟩, sortKeys_preferred _ _⟩
  exact ⟨reachable_sample, hResources, exists_single_of_count hResources (by decide +kernel),
    exists_single_of_count hTypes (by decide +kernel)⟩

end Catalogue

end Shelfmark
