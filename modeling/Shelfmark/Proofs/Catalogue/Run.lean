import Shelfmark.Proofs.Catalogue.Operation

/-!
# Runs of operations

A run is any sequence of public operations, failing ones included. It may be bound to
leave the outer savepoints alone: a run with a base closes a savepoint only while more
of them are open than the base says. With base 0 nothing is forbidden.

A transaction is not an operation of its own here. It opens a savepoint, does its work
and closes a savepoint, so it is a run whenever its work is one: `Run.transaction`.

A catalogue is reachable when it was created, or opened again, and then run.
-/

namespace Shelfmark

namespace Catalogue

/-- The catalogues that runs of operations lead to, none of which closes one of the
outermost `base` savepoints. -/
inductive Run (base : Nat) (c : Catalogue) : Catalogue → Prop
  | refl : Run base c c
  | step {d : Catalogue} {s : Step} (hRun : Run base c d) (hPlain : s.isPlain = true)
      (hSupplied : s.isSupplied = true) : Run base c (s.run d).2
  | begin {d : Catalogue} (hRun : Run base c d) : Run base c d.begin
  | commit {d : Catalogue} (hRun : Run base c d) (hOpen : base < d.depth) :
      Run base c d.commit.2
  | rollback {d : Catalogue} (hRun : Run base c d) (hOpen : base < d.depth) :
      Run base c d.rollback.2

/-- The catalogues that can come about. -/
inductive Reachable : Catalogue → Prop
  | created {fresh : String} {c : Catalogue} (hCreate : create fresh = .ok c) : Reachable c
  | reopened {fresh : String} {c d : Catalogue} (hReachable : Reachable c)
      (hOpen : c.reopen fresh = .ok d) : Reachable d
  | run {c d : Catalogue} (hReachable : Reachable c) (hRun : Run 0 c d) : Reachable d

/-! ## Tables that are held -/

/-- The tables of a catalogue and those that a rollback can bring back. -/
def held (c : Catalogue) : List Tables := c.tables :: c.savepoints

theorem held_begin {c : Catalogue} : ∀ t ∈ c.begin.held, t ∈ c.held := by
  simp [held, Catalogue.begin]

theorem held_commit {c : Catalogue} : ∀ t ∈ c.commit.2.held, t ∈ c.held := by
  intro t ht
  unfold Catalogue.commit at ht
  split at ht
  · exact ht
  · rename_i outer hOpen
    rcases List.mem_cons.1 ht with rfl | hOuter
    · exact List.mem_cons_self
    · exact List.mem_cons_of_mem _ (hOpen ▸ List.mem_cons_of_mem _ hOuter)

theorem held_reload {c d : Catalogue} (h : c.reload = .ok d) :
    d.held = c.held ∧ d.identity = c.identity := by
  obtain ⟨_, _, rfl⟩ := exists_of_map_ok h
  exact ⟨rfl, rfl⟩

theorem held_rollback {c : Catalogue} : ∀ t ∈ c.rollback.2.held, t ∈ c.held := by
  intro t ht
  unfold Catalogue.rollback at ht
  split at ht
  · exact ht
  · rename_i outer hOpen
    have hHeld : ∀ t ∈ c.savepoints, t ∈ c.held := fun t h => List.mem_cons_of_mem _ h
    dsimp only at ht
    split at ht
    · exact hHeld t (hOpen ▸ ht)
    · rename_i hReload
      rw [(held_reload hReload).1] at ht
      exact hHeld t (hOpen ▸ ht)

/-- What is left when a catalogue is closed are tables that it held. -/
theorem closed_mem_held (c : Catalogue) : c.closed ∈ c.held := by
  unfold closed
  rw [List.getLastD_eq_getLast?]
  cases hLast : c.savepoints.getLast? with
  | none => exact List.mem_cons_self
  | some t => exact List.mem_cons_of_mem _ (List.mem_of_getLast? hLast)

/-! ## Closing savepoints -/

/-- Without an open savepoint there is none to close. -/
theorem finish_of_depth_zero {c : Catalogue} (h : c.depth = 0) (failed : Bool) :
    c.finish failed = (.error (.storage .noTransaction), c) := by
  have hNone : c.savepoints = [] := List.length_eq_zero_iff.1 h
  cases failed <;> simp [finish, commit, rollback, hNone]

/-- A transaction answers like its work, unless the savepoint cannot be closed. -/
theorem transaction_eq {α : Type} (c : Catalogue) (work : Catalogue → Outcome α) :
    c.transaction work =
      (match ((work c.begin).2.finish !(work c.begin).1.isOk).1 with
        | .ok _ => (work c.begin).1
        | .error fault => .error fault,
        ((work c.begin).2.finish !(work c.begin).1.isOk).2) := by
  unfold transaction
  obtain ⟨answer, after⟩ := work c.begin
  cases answer with
  | error fault =>
      have hFailed : (!(Except.error fault : Except Fault α).isOk) = true := rfl
      rw [hFailed]
      dsimp only
      obtain ⟨closed, done⟩ := after.finish true
      cases closed <;> rfl
  | ok a =>
      have hFailed : (!(Except.ok a : Except Fault α).isOk) = false := rfl
      rw [hFailed]
      dsimp only
      obtain ⟨closed, done⟩ := after.finish false
      cases closed <;> rfl

namespace Run

/-! ## Longer runs -/

theorem trans {base : Nat} {c d e : Catalogue} (hFirst : Run base c d) (hThen : Run base d e) :
    Run base c e := by
  induction hThen with
  | refl => exact hFirst
  | step _ hPlain hSupplied ih => exact ih.step hPlain hSupplied
  | begin _ ih => exact ih.begin
  | commit _ hOpen ih => exact ih.commit hOpen
  | rollback _ hOpen ih => exact ih.rollback hOpen

/-- A savepoint may be closed where it is not one of the outer ones, and where there is
none. -/
theorem finish {base : Nat} {c d : Catalogue} (hRun : Run base c d)
    (hOpen : base < d.depth ∨ d.depth = 0) (failed : Bool) : Run base c (d.finish failed).2 := by
  rcases hOpen with hOpen | hZero
  · unfold Catalogue.finish
    split
    · exact hRun.rollback hOpen
    · exact hRun.commit hOpen
  · rw [finish_of_depth_zero hZero]
    exact hRun

/-! ## Transactions -/

/-- A transaction is a run when its work is one, whatever the work answers. -/
theorem transaction {α : Type} {base : Nat} {c d : Catalogue} {work : Catalogue → Outcome α}
    (hRun : Run base c d) (hWork : Run base d.begin (work d.begin).2)
    (hOpen : base < (work d.begin).2.depth ∨ (work d.begin).2.depth = 0) :
    Run base c (d.transaction work).2 := by
  rw [transaction_eq]
  exact (hRun.begin.trans hWork).finish hOpen _

/-! ## Steps -/

mutual

/-- A public step is a run. -/
theorem publicStep {c d : Catalogue} (hRun : Run 0 c d) {s : Step} (hPublic : s.isPublic = true)
    (hSupplied : s.isSupplied = true) : Run 0 c (s.run d).2 := by
  cases s with
  | setOption | direct => cases hPublic
  | begin =>
      rw [Step.run]
      exact hRun.begin
  | commit =>
      rw [Step.run, Step.reply_snd]
      exact hRun.finish (by omega) false
  | rollback =>
      rw [Step.run, Step.reply_snd]
      exact hRun.finish (by omega) true
  | transaction steps =>
      rw [Step.run]
      exact (publicSteps hRun.begin hPublic hSupplied).finish (by omega) _
  | _ => exact hRun.step rfl hSupplied

/-- Public steps one after the other are a run. -/
theorem publicSteps {c d : Catalogue} (hRun : Run 0 c d) {steps : List Step}
    (hPublic : Step.isPublic.allPublic steps = true)
    (hSupplied : Step.isSupplied.allSupplied steps = true) :
    Run 0 c (Step.runAll d steps).2 := by
  cases steps with
  | nil =>
      rw [Step.runAll]
      exact hRun
  | cons s steps =>
      simp only [Step.isPublic.allPublic, Bool.and_eq_true] at hPublic
      simp only [Step.isSupplied.allSupplied, Bool.and_eq_true] at hSupplied
      have hFirst := publicStep hRun hPublic.1 hSupplied.1
      rw [Step.runAll]
      split
      · rename_i hEnd
        rw [hEnd] at hFirst
        exact hFirst
      · rename_i hEnd
        rw [hEnd] at hFirst
        exact publicSteps hFirst hPublic.2 hSupplied.2

end

end Run

/-! ## A small catalogue -/

/-- An identifier as the generator gives them. -/
def sampleUuid : String := "6b1f3c52-8d0e-4c55-9a77-2f9e04d1a5c3"

/-- A catalogue as it is created. -/
def sampleNew : Catalogue where
  tables :=
    { groupTypes :=
        [⟨1, GroupType.cells ⟨tagTypeUuid, "Tag", false, false⟩⟩,
          ⟨2, GroupType.cells ⟨seriesTypeUuid, "Series", true, true⟩⟩,
          ⟨3, GroupType.cells ⟨categoryTypeUuid, "Category", false, false⟩⟩,
          ⟨4, GroupType.cells ⟨languageTypeUuid, "Language", false, false⟩⟩]
      options := [("uuid", sampleUuid), ("version", "1")] }
  types :=
    { kept := wellKnownTypes
      names :=
        [("language", languageTypeUuid), ("category", categoryTypeUuid), ("series", seriesTypeUuid),
          ("tag", tagTypeUuid)] }
  identity := sampleUuid
  created := true

theorem reachable_sampleNew : Reachable sampleNew := by
  have hCreate : create sampleUuid = .ok sampleNew := by decide +kernel
  exact .created hCreate

/-- A resource without a rating. -/
def sampleResource : Resource :=
  ⟨"f", "Firestarter", "Firestarter", none, ⟨0⟩, ⟨0⟩, none, "", ""⟩

/-- A group of the exclusive and ordered type of series. -/
def sampleSeries : Group := ⟨"s", "Novels", "Novels", ⟨seriesTypeUuid, "", false, false⟩⟩

/-- A catalogue with a resource that is the first of a series. -/
def sample : Catalogue :=
  (Step.runAll sampleNew
    [.addResource sampleUuid sampleResource, .addGroup sampleUuid sampleSeries,
      .addGroupRelation "f" "s" (some 1) none]).2

theorem reachable_sample : Reachable sample :=
  reachable_sampleNew.run (Run.publicSteps .refl (by decide) (by decide +kernel))

/-- What the sample holds beside the well-known types. -/
theorem sample_tables :
    sample.tables =
      { sampleNew.tables with
        resources :=
          [⟨1, [.text "f", .text "Firestarter", .text "Firestarter", .null, .integer 0,
            .integer 0, .null, .text "", .text ""]⟩]
        groups := [⟨1, [.text "s", .text "Novels", .text "Novels", .text seriesTypeUuid]⟩]
        groupLinks := [⟨1, [.text "f", .text "s", .integer 1, .text ""]⟩] } := by
  decide +kernel

end Catalogue

end Shelfmark
