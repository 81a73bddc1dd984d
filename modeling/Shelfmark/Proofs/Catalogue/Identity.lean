import Shelfmark.Proofs.Catalogue.Invariant

/-!
# The identity of a catalogue

A catalogue is given its identity when it is created, and notes it among the options of its
tables. No operation writes the options, so the note stays, in the tables and in those that a
rollback brings back, and a catalogue that is opened again finds it there.
-/

namespace Shelfmark

/-! ## Changes of rows leave the options alone -/

namespace Tables

@[simp] theorem options_withRows (t : Tables) (kind : Kind) (rows : List Row) :
    (t.withRows kind rows).options = t.options := by
  cases kind <;> rfl

@[simp] theorem options_append (t : Tables) (kind : Kind) (row : Row) :
    (t.append kind row).options = t.options := by
  unfold append
  dsimp only
  split <;> simp

@[simp] theorem options_without (t : Tables) (kind : Kind) (doomed : Row → Bool) :
    (t.without kind doomed).options = t.options :=
  t.options_withRows kind _

theorem options_withoutDependents (t : Tables) (kind : Kind) (uuid : Cell) :
    (t.withoutDependents kind uuid).options = t.options := by
  unfold withoutDependents
  generalize Kind.all.filter Kind.isDependent = children
  induction children generalizing t with
  | nil => rfl
  | cons child children ih => rw [List.foldl_cons, ih, options_without]

theorem Inserted.options {t t' : Tables} {kind : Kind} {row : Row} (h : t.Inserted kind row t') :
    t'.options = t.options := by
  rw [h.result, options_append]

theorem Replaced.options {t t' : Tables} {kind : Kind} {old new : Row}
    (h : t.Replaced kind old new t') : t'.options = t.options := by
  rw [h.result, options_withRows]

theorem Removed.options {t t' : Tables} {kind : Kind} {row : Row} (h : t.Removed kind row t') :
    t'.options = t.options := by
  rw [h.result, options_withoutDependents, options_without]

/-- Whether the tables note an identity. -/
def Notes (t : Tables) (identity : String) : Prop := t.option? "uuid" = some identity

theorem Notes.congr {t t' : Tables} {identity : String} (h : t.Notes identity)
    (hSame : t'.options = t.options) : t'.Notes identity := by
  unfold Notes option? at h ⊢
  rw [hSame]
  exact h

end Tables

namespace Catalogue

theorem Effect.options {c d : Catalogue} (h : Effect c d) :
    d.tables.options = c.tables.options ∧ d.identity = c.identity := by
  cases h with
  | nothing => exact ⟨rfl, rfl⟩
  | inserted _ _ _ hInserted => exact ⟨hInserted.options, rfl⟩
  | related _ hInserted _ => exact ⟨hInserted.options, rfl⟩
  | typeAdded _ hInserted _ => exact ⟨hInserted.options, rfl⟩
  | changed _ _ _ _ _ _ hReplaced => exact ⟨hReplaced.options, rfl⟩
  | typeChanged _ _ _ _ hReplaced _ _ _ => exact ⟨hReplaced.options, rfl⟩
  | typeKept _ => exact ⟨rfl, rfl⟩
  | removed _ _ hRemoved => exact ⟨hRemoved.options, rfl⟩
  | typeRemoved _ _ hRemoved => exact ⟨hRemoved.options, rfl⟩
  | unlinked _ doomed => exact ⟨c.tables.options_without _ doomed, rfl⟩

/-! ## Runs -/

/-- Whether the identity is noted, also in the tables that a rollback brings back. -/
def Identified (c : Catalogue) : Prop := ∀ t ∈ c.held, t.Notes c.identity

private theorem identity_commit (c : Catalogue) : c.commit.2.identity = c.identity := by
  unfold Catalogue.commit
  split <;> rfl

private theorem identity_rollback (c : Catalogue) : c.rollback.2.identity = c.identity := by
  unfold Catalogue.rollback
  split
  · rfl
  · dsimp only
    split
    · rfl
    · rename_i hReload
      exact (held_reload hReload).2

/-- A run keeps the identity, and every table that it holds has the options of one that was
held before. -/
theorem Run.options {base : Nat} {c d : Catalogue} (hRun : Run base c d) (hInv : c.Inv) :
    d.identity = c.identity ∧ ∀ t ∈ d.held, ∃ s ∈ c.held, t.options = s.options := by
  induction hRun with
  | refl => exact ⟨rfl, fun t ht => ⟨t, ht, rfl⟩⟩
  | step hRun hPlain hSupplied ih =>
      have hEffect := Step.effect (hRun.inv hInv).synced hPlain hSupplied
      obtain ⟨hOptions, hIdentity⟩ := hEffect.options
      refine ⟨hIdentity.trans ih.1, ?_⟩
      have hHeld := ih.2
      unfold held at hHeld ⊢
      rw [hEffect.savepoints]
      rw [List.forall_mem_cons] at hHeld ⊢
      refine ⟨?_, hHeld.2⟩
      rw [hOptions]
      exact hHeld.1
  | begin _ ih => exact ⟨ih.1, fun t ht => ih.2 t (held_begin t ht)⟩
  | commit _ _ ih =>
      exact ⟨(identity_commit _).trans ih.1, fun t ht => ih.2 t (held_commit t ht)⟩
  | rollback _ _ ih =>
      exact ⟨(identity_rollback _).trans ih.1, fun t ht => ih.2 t (held_rollback t ht)⟩

private theorem Identified.run {base : Nat} {c d : Catalogue} (hRun : Run base c d)
    (hInv : c.Inv) (h : c.Identified) : d.Identified := by
  obtain ⟨hIdentity, hOptions⟩ := hRun.options hInv
  intro t ht
  obtain ⟨s, hs, hSame⟩ := hOptions t ht
  rw [hIdentity]
  exact (h s hs).congr hSame

/-! ## Opening -/

/-- Where a version is found an identity is noted already, and where none is found it is noted
now. -/
private theorem notes_checkVersion {t t' : Tables} {fresh : String}
    (h : t.checkVersion fresh = .ok t')
    (hNoted : t.option? "version" = none ∨ ∃ identity, t.Notes identity) :
    ∃ identity, t'.Notes identity := by
  unfold Tables.checkVersion at h
  split at h
  · cases h
    exact ⟨fresh, by simp [Tables.Notes, Tables.option?, Tables.setOption]⟩
  · rename_i text hVersion
    rcases hNoted with hNone | hNoted
    · rw [hVersion] at hNone
      cases hNone
    · split at h
      · cases h
      · split at h
        · cases h
        · cases h
          exact hNoted

/-- Adding group types leaves the options, the identity and the savepoints alone. -/
theorem options_seed {c d : Catalogue} {types : List GroupType} (h : c.seed types = .ok d) :
    d.tables.options = c.tables.options ∧ d.identity = c.identity ∧
      d.savepoints = c.savepoints := by
  induction types generalizing c with
  | nil =>
      cases h
      exact ⟨rfl, rfl, rfl⟩
  | cons g rest ih =>
      unfold seed at h
      split at h
      · exact ih h
      · split at h
        · cases h
        · rename_i hInsert
          obtain ⟨_, t, _, _, hInserted, rfl⟩ := insertRecord_eq_ok hInsert
          obtain ⟨hOptions, hIdentity, hSavepoints⟩ := ih h
          exact ⟨hOptions.trans hInserted.options, hIdentity, hSavepoints⟩

private theorem identified_openOn {t : Tables} {created : Bool} {fresh : String} {d : Catalogue}
    (h : openOn t created fresh = .ok d)
    (hNoted : t.option? "version" = none ∨ ∃ identity, t.Notes identity) : d.Identified := by
  unfold openOn at h
  split at h
  · cases h
  · rename_i checked hVersion
    obtain ⟨identity, hNotes⟩ := notes_checkVersion hVersion hNoted
    dsimp only at h
    split at h
    · cases h
    · rename_i loaded hReload
      obtain ⟨_, _, rfl⟩ := exists_of_map_ok hReload
      have hIdentity : (checked.option? "uuid").getD "" = identity := by
        rw [show checked.option? "uuid" = some identity from hNotes, Option.getD_some]
      obtain ⟨hOptions, hSame, hNone⟩ := options_seed h
      unfold Identified held
      rw [hNone, hSame]
      refine List.forall_mem_cons.2 ⟨?_, by simp⟩
      rw [hIdentity]
      exact hNotes.congr hOptions

/-- **Every reachable catalogue has its identity noted**, also in the tables that a rollback
brings back. -/
theorem Reachable.identified {c : Catalogue} (h : Reachable c) : c.Identified := by
  induction h with
  | created hCreate => exact identified_openOn hCreate (Or.inl rfl)
  | @reopened _ c d _ hOpen ih =>
      exact identified_openOn hOpen (Or.inr ⟨c.identity, ih c.closed c.closed_mem_held⟩)
  | run hReachable hRun ih => exact Identified.run hRun hReachable.inv ih

end Catalogue

end Shelfmark
