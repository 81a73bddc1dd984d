import Shelfmark.Proofs.Catalogue.Invariant

/-!
# What savepoints keep and restore

A run that closes none of the outer savepoints leaves them as they are, however deep it
nests and however its inner savepoints end: `Run.suffix`. So what the innermost of them
holds is what the tables were when it was opened. Rolling back to it restores these
tables, and memory is loaded to mirror them; closing it otherwise touches neither.

A transaction closes one savepoint, the innermost. That is its own exactly when its work
closed every savepoint that it opened. Work that stops half-way between a savepoint and
its end leaves one open, and then the transaction ends that one instead.
-/

namespace Shelfmark

namespace Catalogue

/-- Whether two catalogues hold the same tables and answer alike about group types. -/
structure Agrees (c d : Catalogue) : Prop where
  tables : c.tables = d.tables
  byUuid : ∀ uuid, c.getGroupType uuid = d.getGroupType uuid
  byName : ∀ name, c.getGroupTypeNamed name = d.getGroupTypeNamed name
  listed : c.groupTypes = d.groupTypes

/-- Catalogues whose memory mirrors the same tables answer alike. -/
theorem agrees_of_synced {c d : Catalogue} (hc : c.Synced) (hd : d.Synced)
    (hTables : c.tables = d.tables) : c.Agrees d := by
  have hMirrors := hc.mirrors
  rw [hTables] at hMirrors
  have hKept : c.types.kept = d.types.kept := hMirrors.kept.trans hd.mirrors.kept.symm
  refine ⟨hTables, ?_, ?_, ?_⟩
  · intro uuid
    unfold getGroupType TypeCache.find?
    rw [hKept]
  · intro name
    unfold getGroupTypeNamed
    rw [hMirrors.findNamed?_eq hd.mirrors hd.sound.types_nodup name]
  · unfold groupTypes TypeCache.all
    rw [hKept]

/-! ## Outer savepoints -/

private theorem suffix_of_cons {α : Type} {outer rest : List α} {a : α}
    (h : outer <:+ a :: rest) (hLength : outer.length < (a :: rest).length) : outer <:+ rest := by
  rcases List.suffix_cons_iff.1 h with rfl | hRest
  · exact absurd hLength (Nat.lt_irrefl _)
  · exact hRest

/-- A run leaves alone the savepoints that it may not close. -/
theorem Run.suffix {base : Nat} {c d : Catalogue} (hRun : Run base c d) (hInv : c.Inv)
    {outer : List Tables} (hOuter : outer <:+ c.savepoints) (hLength : outer.length ≤ base) :
    outer <:+ d.savepoints := by
  induction hRun with
  | refl => exact hOuter
  | @step d s hRun hPlain hSupplied ih =>
      rw [(Step.effect (hRun.inv hInv).synced hPlain hSupplied).savepoints]
      exact ih
  | begin _ ih => exact ih.trans (List.suffix_cons _ _)
  | @commit d _ hOpen ih =>
      unfold Catalogue.commit
      split
      · exact ih
      · rename_i t rest hSavepoints
        rw [hSavepoints] at ih
        refine suffix_of_cons ih (Nat.lt_of_le_of_lt hLength ?_)
        rw [← hSavepoints]
        exact hOpen
  | @rollback d hRun hOpen ih =>
      cases hSavepoints : d.savepoints with
      | nil =>
          rw [depth, hSavepoints] at hOpen
          cases hOpen
      | cons t rest =>
          have hLawful := ((hRun.inv hInv).savepoints t (by simp [hSavepoints])).1
          rw [rollback_eq hSavepoints hLawful]
          rw [hSavepoints] at ih
          refine suffix_of_cons ih (Nat.lt_of_le_of_lt hLength ?_)
          rw [← hSavepoints]
          exact hOpen

/-- A run after a savepoint was opened that closes what it opened ends with the savepoints
of its start. -/
theorem Run.savepoints_eq {c d : Catalogue} (hInv : c.Inv) (hRun : Run (c.depth + 1) c.begin d)
    (hClosed : d.depth = c.depth + 1) : d.savepoints = c.tables :: c.savepoints := by
  have hSuffix := hRun.suffix hInv.begin List.suffix_rfl (Nat.le_refl _)
  exact (hSuffix.eq_of_length hClosed.symm).symm

/-- Such a run never leaves fewer savepoints open. -/
theorem Run.depth_le {c d : Catalogue} (hInv : c.Inv) (hRun : Run (c.depth + 1) c.begin d) :
    c.depth + 1 ≤ d.depth :=
  (hRun.suffix hInv.begin List.suffix_rfl (Nat.le_refl _)).length_le

/-! ## Closing a savepoint -/

/-- Rolling back to where a savepoint was opened restores what was there. -/
theorem Run.rollback_eq {c d : Catalogue} (hInv : c.Inv) (hRun : Run (c.depth + 1) c.begin d)
    (hClosed : d.depth = c.depth + 1) :
    d.rollback.1 = .ok () ∧ d.rollback.2.Agrees c ∧ d.rollback.2.savepoints = c.savepoints := by
  have hOpen := hRun.savepoints_eq hInv hClosed
  rw [Catalogue.rollback_eq hOpen hInv.synced.lawful]
  refine ⟨rfl, agrees_of_synced ?_ hInv.synced rfl, rfl⟩
  exact synced_ofTypes (c := { d with tables := c.tables, savepoints := c.savepoints })
    hInv.synced.lawful

/-- Closing a savepoint otherwise keeps what is there. -/
theorem commit_of_open {c : Catalogue} {t : Tables} {outer : List Tables}
    (hOpen : c.savepoints = t :: outer) :
    c.commit = (.ok (), { c with savepoints := outer }) := by
  unfold commit
  rw [hOpen]

theorem agrees_withSavepoints (c : Catalogue) (savepoints : List Tables) :
    Agrees { c with savepoints := savepoints } c :=
  ⟨rfl, fun _ => rfl, fun _ => rfl, rfl⟩

/-- **A rollback restores the catalogue as it was when its savepoint was opened**, after
any run that closes just the savepoints that it opened: the tables, what memory answers,
and the savepoints that were open. A commit in its place keeps what is there. -/
theorem Reachable.rollback_restores {c d : Catalogue} (h : Reachable c)
    (hRun : Run (c.depth + 1) c.begin d) (hClosed : d.depth = c.depth + 1) :
    (d.rollback.1 = .ok () ∧ d.rollback.2.Agrees c ∧ d.rollback.2.savepoints = c.savepoints ∧
        d.rollback.2.depth = c.depth) ∧
      d.commit.1 = .ok () ∧ d.commit.2.Agrees d ∧ d.commit.2.savepoints = c.savepoints ∧
        d.commit.2.depth = c.depth := by
  obtain ⟨hOk, hAgrees, hSavepoints⟩ := hRun.rollback_eq h.inv hClosed
  refine ⟨⟨hOk, hAgrees, hSavepoints, congrArg List.length hSavepoints⟩, ?_⟩
  rw [commit_of_open (hRun.savepoints_eq h.inv hClosed)]
  exact ⟨rfl, agrees_withSavepoints d _, rfl, rfl⟩

/-- The tag type renamed, and a person added in a savepoint that is committed. -/
def sampleNested : Catalogue :=
  let renamed :=
    ((Step.updateGroupType tagTypeUuid { name := some "Label" }).run sampleNew.begin).2
  ((Step.addPerson sampleUuid ⟨"k", "Stephen King", "King, Stephen"⟩).run renamed.begin).2.commit.2

theorem run_sampleNested : Run (sampleNew.depth + 1) sampleNew.begin sampleNested :=
  (((Run.refl.step rfl rfl).begin).step rfl (by decide +kernel)).commit (by decide +kernel)

theorem rollback_restores_sample :
    Reachable sampleNew ∧ Run (sampleNew.depth + 1) sampleNew.begin sampleNested ∧
      sampleNested.depth = sampleNew.depth + 1 ∧ sampleNested.tables.persons.length = 1 ∧
      sampleNested.rollback.2.Agrees sampleNew ∧ sampleNested.commit.2.Agrees sampleNested := by
  have hClosed : sampleNested.depth = sampleNew.depth + 1 := by decide +kernel
  obtain ⟨⟨_, hRestored, _, _⟩, _, hKept, _, _⟩ :=
    Reachable.rollback_restores reachable_sampleNew run_sampleNested hClosed
  exact ⟨reachable_sampleNew, run_sampleNested, hClosed, by decide +kernel, hRestored, hKept⟩

/-! ## Transactions -/

/-- Whether a transaction happens as a whole or not at all: it leaves no savepoint open,
nothing of its work is left when the work fails, and all of it when the work succeeds. -/
structure Atomic {α : Type} (c : Catalogue) (work : Catalogue → Outcome α) : Prop where
  depth : (c.transaction work).2.depth = c.depth
  undone : ∀ fault, (work c.begin).1 = .error fault → (c.transaction work).2.Agrees c
  kept : ∀ a, (work c.begin).1 = .ok a → (c.transaction work).2.Agrees (work c.begin).2

/-- The end of a transaction closes the innermost savepoint, whichever that is. -/
theorem finish_of_open {c : Catalogue} (hInv : c.Inv) {t : Tables} {outer : List Tables}
    (hOpen : c.savepoints = t :: outer) (failed : Bool) :
    (c.finish failed).1 = .ok () ∧ (c.finish failed).2.savepoints = outer := by
  unfold finish
  split
  · rw [rollback_eq hOpen (hInv.savepoints t (by simp [hOpen])).1]
    exact ⟨rfl, rfl⟩
  · rw [commit_of_open hOpen]
    exact ⟨rfl, rfl⟩

/-- **A transaction is atomic exactly when its work closes what it opens.** Work that
leaves savepoints open, as work does that stops between opening one and closing it, has
the transaction end the innermost of these in place of its own. The answer is that of
the work in any case, and one savepoint is closed. -/
theorem Reachable.transaction_atomic_iff {α : Type} {c : Catalogue} (h : Reachable c)
    {work : Catalogue → Outcome α} (hWork : Run (c.depth + 1) c.begin (work c.begin).2) :
    (c.transaction work).1 = (work c.begin).1 ∧
      (c.transaction work).2.depth + 1 = (work c.begin).2.depth ∧
      (c.Atomic work ↔ (work c.begin).2.depth = c.depth + 1) := by
  have hInv := h.inv
  have hDeep := hWork.depth_le hInv
  have hEnd : ∀ failed, ((work c.begin).2.finish failed).1 = .ok () ∧
      ((work c.begin).2.finish failed).2.depth + 1 = (work c.begin).2.depth := by
    intro failed
    cases hOpen : (work c.begin).2.savepoints with
    | nil =>
        rw [depth, depth, hOpen] at hDeep
        cases hDeep
    | cons t outer =>
        obtain ⟨hOk, hOuter⟩ := finish_of_open (hWork.inv hInv.begin) hOpen failed
        refine ⟨hOk, ?_⟩
        rw [depth, depth, hOuter, hOpen]
        rfl
  have hAnswer : (c.transaction work).1 = (work c.begin).1 := by
    rw [transaction_eq, (hEnd _).1]
  have hDepth : (c.transaction work).2.depth + 1 = (work c.begin).2.depth := by
    rw [transaction_eq]
    exact (hEnd _).2
  refine ⟨hAnswer, hDepth, ?_, ?_⟩
  · intro hAtomic
    rw [← hDepth, hAtomic.depth]
  · intro hClosed
    refine ⟨by omega, ?_, ?_⟩
    · intro fault hFault
      rw [transaction_eq, hFault]
      exact (hWork.rollback_eq hInv hClosed).2.1
    · intro a hOk
      rw [transaction_eq, hOk]
      dsimp only [Except.isOk, Except.toBool, Bool.not_true, finish]
      rw [if_neg (by decide), commit_of_open (hWork.savepoints_eq hInv hClosed)]
      exact agrees_withSavepoints _ _

/-- Work that adds a resource and then fails: the rating is out of range. -/
def sampleFailing (c : Catalogue) : Outcome Reply :=
  (Step.addResource sampleUuid { sampleResource with uuid := "o", rating := some 900 }).run
    ((Step.addResource sampleUuid sampleResource).run c).2

/-- The same work with a savepoint opened in the middle. -/
def sampleLeaking (c : Catalogue) : Outcome Reply :=
  (Step.addResource sampleUuid { sampleResource with uuid := "o", rating := some 900 }).run
    ((Step.addResource sampleUuid sampleResource).run c).2.begin

theorem transaction_atomic_iff_sample :
    Reachable sampleNew ∧
      Run (sampleNew.depth + 1) sampleNew.begin (sampleFailing sampleNew.begin).2 ∧
      (sampleFailing sampleNew.begin).1.isOk = false ∧
      (sampleFailing sampleNew.begin).2.tables.resources.length = 1 ∧
      sampleNew.Atomic sampleFailing := by
  have hRun : Run (sampleNew.depth + 1) sampleNew.begin (sampleFailing sampleNew.begin).2 :=
    (Run.refl.step rfl (by decide +kernel)).step rfl (by decide +kernel)
  have hAtomic := (Reachable.transaction_atomic_iff reachable_sampleNew hRun).2.2
  exact ⟨reachable_sampleNew, hRun, by decide +kernel, by decide +kernel,
    hAtomic.2 (by decide +kernel)⟩

/-- Failing work that leaves a savepoint open has the transaction leave its own open. -/
theorem transaction_not_always_atomic :
    ¬ ∀ (c : Catalogue) (work : Catalogue → Outcome Reply), Reachable c →
      Run (c.depth + 1) c.begin (work c.begin).2 → c.Atomic work := by
  intro hAlways
  have hRun : Run (sampleNew.depth + 1) sampleNew.begin (sampleLeaking sampleNew.begin).2 :=
    ((Run.refl.step rfl (by decide +kernel)).begin).step rfl (by decide +kernel)
  have hDepth := (hAlways sampleNew sampleLeaking reachable_sampleNew hRun).depth
  have hLeft : (sampleNew.transaction sampleLeaking).2.depth ≠ sampleNew.depth := by
    decide +kernel
  exact hLeft hDepth

end Catalogue

end Shelfmark
