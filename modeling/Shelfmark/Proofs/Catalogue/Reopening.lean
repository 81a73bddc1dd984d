import Shelfmark.Proofs.Catalogue.Identity
import Shelfmark.Proofs.Catalogue.Memory
import Shelfmark.Proofs.Catalogue.Savepoint

/-!
# Opening a catalogue again

Opening does three things that could change what is there: it checks the version and notes one
where it finds none, it loads the group types, and it adds those well-known types that it
misses. On what a catalogue leaves behind each of them has nothing to do. The options are still
those of the day it was created, whatever has happened to it since; the stored types can all be
read; and the well-known ones are there under their identifiers, however they are called by now.
So the catalogue that is opened is known in advance, `Reachable.reopen_eq`.

What is left behind is what was there when no savepoint was open for the last time: the present
tables, or those at the outermost of the open savepoints. `Outside c d` says that `c` is this
catalogue for `d`.

## Main results

* `Reachable.reopens_faithfully`: opening again succeeds, adds nothing, and gives back the tables,
  the identity and the group types that were there at the outermost savepoint.
-/

namespace Shelfmark

open Shelfmark.Text

/-! ## The options of a catalogue -/

/-- Whether the options are those that a new catalogue notes. -/
def Tables.Labelled (t : Tables) (identity : String) : Prop :=
  t.options = [("uuid", identity), ("version", Nat.repr currentVersion)]

namespace Tables

variable {t : Tables} {identity : String}

/-- The version of a new catalogue can be read, and is not too new. -/
theorem Labelled.checkVersion_eq (h : t.Labelled identity) (fresh : String) :
    t.checkVersion fresh = .ok t := by
  have hVersion : t.option? "version" = some (Nat.repr currentVersion) := by
    rw [option?, h]
    rfl
  have hRead : readVersion? (Nat.repr currentVersion) = some currentVersion := by decide +kernel
  unfold checkVersion
  rw [hVersion]
  dsimp only
  rw [hRead]
  dsimp only
  rw [if_neg (Nat.lt_irrefl currentVersion)]

theorem Labelled.identity_eq (h : t.Labelled identity) : t.option? "uuid" = some identity := by
  rw [option?, h]
  rfl

end Tables

namespace Catalogue

/-- A new catalogue notes its options before anything is added. -/
private theorem labelled_created {fresh : String} {c : Catalogue} (h : create fresh = .ok c) :
    c.tables.Labelled c.identity ∧ c.savepoints = [] := by
  have hChecked : ({} : Tables).checkVersion fresh =
      .ok (((({} : Tables).setOption "version" (Nat.repr currentVersion)).setOption "uuid" fresh)) :=
    rfl
  unfold create openOn at h
  rw [hChecked] at h
  dsimp only at h
  split at h
  · cases h
  · rename_i hReload
    obtain ⟨_, _, rfl⟩ := exists_of_map_ok hReload
    obtain ⟨hOptions, hIdentity, hSavepoints⟩ := options_seed h
    refine ⟨?_, hSavepoints⟩
    rw [Tables.Labelled, hOptions, hIdentity]
    simp [Tables.setOption, Tables.option?]

/-! ## Opening -/

/-- The catalogue that another one becomes when it is closed and opened again. -/
def reopened (c : Catalogue) : Catalogue where
  tables := c.closed
  types := .ofTypes c.closed.types
  identity := c.identity

/-- Opening finds nothing to note, nothing to refuse and nothing to add. -/
theorem Inv.reopen_eq {c : Catalogue} (h : c.Inv) (hLabelled : c.closed.Labelled c.identity)
    (fresh : String) : c.reopen fresh = .ok c.reopened := by
  obtain ⟨hLawful, hSeeded⟩ := h.closed
  unfold reopen openOn
  rw [hLabelled.checkVersion_eq fresh]
  dsimp only
  rw [hLabelled.identity_eq, Option.getD_some]
  rw [reload_eq (c := { tables := c.closed, identity := c.identity, created := false }) hLawful]
  refine seed_of_present fun w hw => ?_
  obtain ⟨g, hg, hUuid⟩ := hSeeded w hw
  have hSynced : c.reopened.Synced :=
    synced_ofTypes (c := { tables := c.closed, identity := c.identity }) hLawful
  exact Option.isSome_iff_exists.2 ⟨g, hSynced.find?_eq_some_iff.2 ⟨hg, hUuid⟩⟩

/-- All tables that are held have the options of a new catalogue. -/
theorem Reachable.labelled {c : Catalogue} (h : Reachable c) :
    ∀ t ∈ c.held, t.Labelled c.identity := by
  induction h with
  | created hCreate =>
      obtain ⟨hLabelled, hNone⟩ := labelled_created hCreate
      rw [held, hNone]
      simpa using hLabelled
  | @reopened _ c d hReachable hOpen ih =>
      have hClosed := ih c.closed c.closed_mem_held
      rw [hReachable.inv.reopen_eq hClosed] at hOpen
      cases hOpen
      simpa [held, Catalogue.reopened] using hClosed
  | run hReachable hRun ih =>
      obtain ⟨hIdentity, hOptions⟩ := hRun.options hReachable.inv
      intro t ht
      obtain ⟨s, hs, hSame⟩ := hOptions t ht
      rw [Tables.Labelled, hIdentity, hSame]
      exact ih s hs

/-- **What a reachable catalogue is opened as** depends on what it leaves behind alone. -/
theorem Reachable.reopen_eq {c : Catalogue} (h : Reachable c) (fresh : String) :
    c.reopen fresh = .ok c.reopened :=
  h.inv.reopen_eq (h.labelled _ c.closed_mem_held) fresh

theorem Inv.synced_reopened {c : Catalogue} (h : c.Inv) : c.reopened.Synced :=
  synced_ofTypes (c := { tables := c.closed, identity := c.identity }) h.closed.1

/-! ## The outermost savepoint -/

/-- Whether a catalogue is the one that another was when it had no open savepoint for the last
time: itself, or the one on which its outermost savepoint was opened. -/
inductive Outside (c : Catalogue) : Catalogue → Prop
  | here (hClosed : c.depth = 0) : Outside c c
  | inside {d : Catalogue} (hClosed : c.depth = 0) (hRun : Run 1 c.begin d) : Outside c d

theorem savepoints_of_closed {c : Catalogue} (hClosed : c.depth = 0) : c.savepoints = [] :=
  List.length_eq_zero_iff.1 hClosed

/-- A run that is bound to leave savepoints alone is a run. -/
theorem Run.weaken {base : Nat} {c d : Catalogue} (hRun : Run base c d) : Run 0 c d := by
  induction hRun with
  | refl => exact .refl
  | step _ hPlain hSupplied ih => exact ih.step hPlain hSupplied
  | begin _ ih => exact ih.begin
  | commit _ hOpen ih => exact ih.commit (Nat.zero_lt_of_lt hOpen)
  | rollback _ hOpen ih => exact ih.rollback (Nat.zero_lt_of_lt hOpen)

theorem Outside.reachable {c d : Catalogue} (hc : Reachable c) (h : Outside c d) :
    Reachable d := by
  cases h with
  | here _ => exact hc
  | inside _ hRun => exact hc.run (Run.refl.begin.trans hRun.weaken)

/-- What a catalogue leaves behind are the tables of the one outside its savepoints. -/
theorem Outside.closed_eq {c d : Catalogue} (hInv : c.Inv) (h : Outside c d) :
    d.closed = c.tables := by
  cases h with
  | here hClosed =>
      rw [closed, savepoints_of_closed hClosed]
      rfl
  | inside hClosed hRun =>
      have hBegun : c.begin.savepoints = [c.tables] := by
        rw [Catalogue.begin, savepoints_of_closed hClosed]
      obtain ⟨inner, hInner⟩ :=
        hRun.suffix hInv.begin (hBegun ▸ List.suffix_rfl) (Nat.le_refl [c.tables].length)
      rw [closed, ← hInner, List.getLastD_eq_getLast?]
      simp

/-- Closing a savepoint leads outside when it is the outermost, and stays inside otherwise. -/
private theorem exists_outside_finish {c d : Catalogue} (hc : Reachable c) (hOutside : Outside c d)
    (hOpen : 0 < d.depth) (failed : Bool) :
    ∃ e, Reachable e ∧ Outside e (d.finish failed).2 := by
  cases hOutside with
  | here hClosed => omega
  | inside hClosed hRun =>
      by_cases hDeep : 1 < d.depth
      · exact ⟨c, hc, .inside hClosed (hRun.finish (.inl hDeep) failed)⟩
      · have hd : Reachable d := Outside.reachable hc (.inside hClosed hRun)
        obtain ⟨t, outer, hSavepoints⟩ := List.exists_cons_of_length_pos hOpen
        have hOuter := (finish_of_open hd.inv hSavepoints failed).2
        refine ⟨_, hd.run (Run.refl.finish (.inl hOpen) failed), .here ?_⟩
        rw [depth, hSavepoints, List.length_cons] at hDeep
        rw [depth, hOuter]
        omega

/-- A run stays outside of savepoints or inside of the outermost. -/
private theorem exists_outside_run {b c d : Catalogue} (hReachable : Reachable c)
    (hRun : Run 0 c d) (hb : Reachable b) (hOutside : Outside b c) :
    ∃ e, Reachable e ∧ Outside e d := by
  induction hRun with
  | refl => exact ⟨b, hb, hOutside⟩
  | @step d s hRun hPlain hSupplied ih =>
      obtain ⟨e, he, hOut⟩ := ih
      cases hOut with
      | here hClosed =>
          have hEffect := Step.effect (hReachable.run hRun).inv.synced hPlain hSupplied
          refine ⟨_, hReachable.run (hRun.step hPlain hSupplied), .here ?_⟩
          rw [depth, hEffect.savepoints]
          exact hClosed
      | inside hClosed hInside => exact ⟨e, he, .inside hClosed (hInside.step hPlain hSupplied)⟩
  | @begin d hRun ih =>
      obtain ⟨e, he, hOut⟩ := ih
      cases hOut with
      | here hClosed => exact ⟨d, he, .inside hClosed .refl⟩
      | inside hClosed hInside => exact ⟨e, he, .inside hClosed hInside.begin⟩
  | commit _ hOpen ih =>
      obtain ⟨e, he, hOut⟩ := ih
      exact exists_outside_finish he hOut hOpen false
  | rollback _ hOpen ih =>
      obtain ⟨e, he, hOut⟩ := ih
      exact exists_outside_finish he hOut hOpen true

/-- Every reachable catalogue was outside of savepoints at some time. -/
theorem Reachable.exists_outside {d : Catalogue} (h : Reachable d) :
    ∃ c, Reachable c ∧ Outside c d := by
  induction h with
  | @created _ c hCreate =>
      refine ⟨c, .created hCreate, .here ?_⟩
      rw [depth, (labelled_created hCreate).2]
      rfl
  | @reopened _ c d hReachable hOpen ih =>
      refine ⟨d, hReachable.reopened hOpen, .here ?_⟩
      rw [hReachable.reopen_eq] at hOpen
      cases hOpen
      rfl
  | run hReachable hRun ih =>
      obtain ⟨b, hb, hOutside⟩ := ih
      exact exists_outside_run hReachable hRun hb hOutside

/-! ## Faithfulness -/

/-- Whether memory tells just the group types that the tables hold, under their identifiers and
their names and in the listing. -/
structure TellsTypes (c : Catalogue) : Prop where
  byUuid : ∀ uuid g, c.getGroupType uuid = .ok g ↔
    g.uuid = normalize uuid ∧ ∃ row ∈ c.tables.groupTypes, row.cells = g.cells
  byName : ∀ name g, c.getGroupTypeNamed name = .ok g ↔
    Text.lowercase g.name = normalize name ∧ ∃ row ∈ c.tables.groupTypes, row.cells = g.cells
  listed : (c.groupTypes.map GroupType.cells).Perm (c.tables.groupTypes.map Row.cells)

theorem Synced.tellsTypes {c : Catalogue} (h : c.Synced) : c.TellsTypes := by
  refine ⟨fun uuid g => getGroupType_eq_ok_iff h, fun name g => ?_, groupTypes_perm h⟩
  rw [getGroupTypeNamed_eq_ok_iff h, GroupType.answersTo_iff]

/-- The well-known types have rows under their identifiers. -/
theorem Inv.wellKnown_rows {c : Catalogue} (h : c.Inv) :
    ∀ w ∈ wellKnownTypes, ∃ row ∈ c.tables.groupTypes,
      row.cell .groupType "uuid" = .text w.uuid := by
  intro w hw
  obtain ⟨g, hg, hUuid⟩ := h.seeded w hw
  obtain ⟨⟨id, cells⟩, hRow, hCells⟩ := (mem_types_iff h.synced.sound).1 hg
  dsimp only at hCells
  subst hCells
  exact ⟨_, hRow, congrArg Cell.text hUuid⟩

/-- **Opening a catalogue again is faithful.** The well-known group types are always there, so
whatever a catalogue has been through, it can be opened again without a type being added. It
then is what it was when it had no open savepoint for the last time: as it is, or as it was
when its outermost savepoint was opened. All tables are the same, so is the identity, and memory
tells the types of the tables and answers as it did. -/
theorem Reachable.reopens_faithfully {d : Catalogue} (h : Reachable d) :
    (∀ w ∈ wellKnownTypes, ∃ row ∈ d.tables.groupTypes,
      row.cell .groupType "uuid" = .text w.uuid) ∧
    (d.depth = 0 → Outside d d) ∧
    (∃ c, Reachable c ∧ Outside c d) ∧
    ∀ c, Reachable c → Outside c d → ∀ fresh, ∃ e, d.reopen fresh = .ok e ∧
      e.Agrees c ∧ e.TellsTypes ∧ e.identity = d.identity ∧ e.savepoints = [] ∧
      e.created = false := by
  refine ⟨h.inv.wellKnown_rows, .here, h.exists_outside, ?_⟩
  intro c hc hOutside fresh
  have hTables : d.reopened.tables = c.tables := hOutside.closed_eq hc.inv
  have hSynced := h.inv.synced_reopened
  exact ⟨d.reopened, h.reopen_eq fresh, agrees_of_synced hSynced hc.inv.synced hTables,
    hSynced.tellsTypes, rfl, rfl, rfl⟩

/-- The type of tags is renamed and a person is added in savepoints that are open when the
catalogue is closed; after a commit of the outermost of them both are kept. -/
theorem reopens_faithfully_sample :
    Reachable sampleNested ∧ Outside sampleNew sampleNested ∧
      (∃ e, sampleNested.reopen "" = .ok e ∧ e.Agrees sampleNew) ∧
      ∃ e, sampleNested.commit.2.reopen "" = .ok e ∧ e.Agrees sampleNested.commit.2 ∧
        e.tables.persons.length = 1 ∧ e.identity = sampleUuid := by
  have hOutside : Outside sampleNew sampleNested := .inside rfl run_sampleNested
  have hNested : Reachable sampleNested := hOutside.reachable reachable_sampleNew
  have hKept : Reachable sampleNested.commit.2 :=
    hNested.run (Run.refl.commit (by decide +kernel))
  obtain ⟨e, hOpen, hAgrees, -⟩ :=
    (Reachable.reopens_faithfully hNested).2.2.2 sampleNew reachable_sampleNew hOutside ""
  obtain ⟨-, hHere, -, hFaithful⟩ := Reachable.reopens_faithfully hKept
  obtain ⟨k, hOpenKept, hAgreesKept, -, hIdentity, -⟩ :=
    hFaithful _ hKept (hHere (by decide +kernel)) ""
  refine ⟨hNested, hOutside, ⟨e, hOpen, hAgrees⟩, k, hOpenKept, hAgreesKept, ?_, ?_⟩
  · rw [hAgreesKept.tables]
    decide +kernel
  · rw [hIdentity]
    decide +kernel

end Catalogue

end Shelfmark
