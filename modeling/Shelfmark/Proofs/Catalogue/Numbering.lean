import Shelfmark.Proofs.Catalogue.Invariant
import Shelfmark.Proofs.Store.Numbered

/-!
# The rows of a reachable catalogue are numbered in their order

Every operation keeps the rows in the order of their identifiers, and so does a rollback,
because the rows that it brings back were in that order when they were kept.
-/

namespace Shelfmark

namespace Catalogue

/-! ## Reachable catalogues -/

theorem Effect.numbered {c d : Catalogue} (h : Effect c d) (hNumbered : c.tables.Numbered) :
    d.tables.Numbered := by
  cases h with
  | nothing => exact hNumbered
  | inserted _ _ _ hInserted => exact hNumbered.inserted hInserted
  | related _ hInserted _ => exact hNumbered.inserted hInserted
  | typeAdded _ hInserted _ => exact hNumbered.inserted hInserted
  | changed _ _ _ _ hId _ hReplaced => exact hNumbered.replaced hId hReplaced
  | typeChanged _ _ hId _ hReplaced _ _ _ => exact hNumbered.replaced hId hReplaced
  | typeKept _ => exact hNumbered
  | removed _ _ hRemoved => exact hNumbered.sublist hRemoved.sublist
  | typeRemoved _ _ hRemoved => exact hNumbered.sublist hRemoved.sublist
  | unlinked _ doomed => exact hNumbered.sublist (Tables.without_sublist c.tables _ doomed)

/-- Whether the rows are numbered, also those that a rollback brings back. -/
def AllNumbered (c : Catalogue) : Prop :=
  c.tables.Numbered ∧ ∀ t ∈ c.savepoints, t.Numbered

private theorem allNumbered_iff {c : Catalogue} : c.AllNumbered ↔ ∀ t ∈ c.held, t.Numbered :=
  List.forall_mem_cons.symm

private theorem numbered_insertRecord {α : Type} [Storable α] [Listed α] {c : Catalogue}
    {record : α} {p : Int64 × Catalogue} (h : c.insertRecord record = .ok p)
    (hNumbered : c.tables.Numbered) : p.2.tables.Numbered ∧ p.2.savepoints = c.savepoints := by
  obtain ⟨id, d⟩ := p
  obtain ⟨_, t, _, _, hInserted, rfl⟩ := insertRecord_eq_ok h
  exact ⟨hNumbered.inserted hInserted, rfl⟩

private theorem numbered_seed {c d : Catalogue} {types : List GroupType}
    (h : c.seed types = .ok d) (hNumbered : c.tables.Numbered) :
    d.tables.Numbered ∧ d.savepoints = c.savepoints := by
  induction types generalizing c with
  | nil =>
      cases h
      exact ⟨hNumbered, rfl⟩
  | cons g rest ih =>
      unfold seed at h
      split at h
      · exact ih h hNumbered
      · split at h
        · cases h
        · rename_i hInsert
          obtain ⟨hAdded, hSame⟩ := numbered_insertRecord hInsert hNumbered
          obtain ⟨hRest, hRestSame⟩ := ih h hAdded
          exact ⟨hRest, hRestSame.trans hSame⟩

private theorem allNumbered_openOn {t : Tables} {created : Bool} {fresh : String} {d : Catalogue}
    (h : openOn t created fresh = .ok d) (hNumbered : t.Numbered) : d.AllNumbered := by
  unfold openOn at h
  split at h
  · cases h
  · rename_i checked hVersion
    dsimp only at h
    split at h
    · cases h
    · rename_i loaded hReload
      obtain ⟨_, _, rfl⟩ := exists_of_map_ok hReload
      obtain ⟨hSeeded, hNone⟩ := numbered_seed h
        (hNumbered.sublist fun kind => by rw [rows_checkVersion hVersion])
      exact ⟨hSeeded, by simp [hNone]⟩

private theorem AllNumbered.run {base : Nat} {c d : Catalogue} (hRun : Run base c d)
    (hInv : c.Inv) (h : c.AllNumbered) : d.AllNumbered := by
  induction hRun with
  | refl => exact h
  | step hRun hPlain hSupplied ih =>
      have hEffect := Step.effect (hRun.inv hInv).synced hPlain hSupplied
      exact ⟨hEffect.numbered ih.1, by rw [hEffect.savepoints]; exact ih.2⟩
  | begin _ ih => exact allNumbered_iff.2 fun t ht => allNumbered_iff.1 ih t (held_begin t ht)
  | commit _ _ ih => exact allNumbered_iff.2 fun t ht => allNumbered_iff.1 ih t (held_commit t ht)
  | rollback _ _ ih =>
      exact allNumbered_iff.2 fun t ht => allNumbered_iff.1 ih t (held_rollback t ht)

/-- **In every reachable catalogue the rows are numbered in their order.** -/
theorem Reachable.numbered {c : Catalogue} (h : Reachable c) : c.tables.Numbered := by
  suffices hAll : c.AllNumbered from hAll.1
  induction h with
  | created hCreate =>
      refine allNumbered_openOn hCreate ⟨fun kind => ?_, fun kind => ?_⟩ <;>
        cases kind <;> simp [Tables.rows]
  | @reopened _ c d _ hOpen ih =>
      exact allNumbered_openOn hOpen (allNumbered_iff.1 ih c.closed c.closed_mem_held)
  | run hReachable hRun ih => exact AllNumbered.run hRun hReachable.inv ih

end Catalogue

end Shelfmark
