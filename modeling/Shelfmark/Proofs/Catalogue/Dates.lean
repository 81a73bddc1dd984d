import Shelfmark.Proofs.Catalogue.Updates
import Shelfmark.Proofs.Catalogue.Writing

/-!
# The dates of a resource

A resource has the date at which it was added and the date of its last change. The first stays
for good. The second moves on with each change, though the clock is not to be trusted: it may
stand still or go back, and a resource may be added with any dates, up to the last second that
there is. So the date of a change is not the time of the clock but `Timestamp.after` of it and
of the date before, which is later than the date before wherever anything is later.

This is about what happens between changes as much as about the changes. `Onward` are the runs
that neither roll anything back nor remove the resource, with the times of the clock at the
changes of the resource that succeed. The dates at the end of such a run are a function of those
times alone, whatever else was done.

## Main results

* `Timestamp.toInt_after` — the date of a change as a number.
* `Reachable.dates_move_on` — the dates of a resource from its addition to its removal.
-/

namespace Shelfmark

open Shelfmark.Text

/-! ## Moving on -/

namespace Timestamp

theorem toInt_next (t : Timestamp) :
    t.next.seconds.toInt = min (t.seconds.toInt + 1) Int64.maxValue.toInt := by
  have hLower := t.seconds.le_toInt
  have hUpper := t.seconds.toInt_le
  unfold next
  split
  · rename_i hLast
    rw [hLast]
    decide
  · rename_i hOther
    have hNot : t.seconds.toInt ≠ Int64.maxValue.toInt :=
      fun hSame => hOther (Int64.toInt_inj.1 hSame)
    have hMax : Int64.maxValue.toInt = 2 ^ 63 - 1 := by decide
    dsimp only
    rw [Int64.toInt_add, Int64.toInt_one, Int.bmod_eq_of_le] <;> omega

/-- The date of a change is the time of the clock or one second after the date before, whichever
is later, as far as time goes. -/
theorem toInt_after (now previous : Timestamp) :
    (after now previous).seconds.toInt =
      max now.seconds.toInt (min (previous.seconds.toInt + 1) Int64.maxValue.toInt) := by
  rw [← toInt_next]
  unfold after
  split
  · rename_i hEarly
    rw [Int64.le_iff_toInt_le] at hEarly
    omega
  · rename_i hLate
    rw [Int64.le_iff_toInt_le] at hLate
    omega

theorem le_after (now previous : Timestamp) :
    previous.seconds ≤ (after now previous).seconds := by
  have hUpper := previous.seconds.toInt_le
  have hMax : Int64.maxValue.toInt = 2 ^ 63 - 1 := by decide
  rw [Int64.le_iff_toInt_le, toInt_after]
  omega

theorem lt_after (now : Timestamp) {previous : Timestamp}
    (h : previous.seconds < Int64.maxValue) : previous.seconds < (after now previous).seconds := by
  rw [Int64.lt_iff_toInt_lt] at h ⊢
  rw [toInt_after]
  omega

end Timestamp

/-- The date of the last change after changes at some times of the clock. -/
def Timestamp.afterAll (stamps : List Timestamp) (previous : Timestamp) : Timestamp :=
  stamps.foldl (fun previous now => .after now previous) previous

/-- Whether a change at some time of the clock did to the dates of a resource what it should. -/
structure Resource.Stamped (clock : Timestamp) (before after : Resource) : Prop where
  added : after.addDate = before.addDate
  modified : after.lastModifyDate.seconds.toInt =
    max clock.seconds.toInt (min (before.lastModifyDate.seconds.toInt + 1) Int64.maxValue.toInt)
  never_back : before.lastModifyDate.seconds ≤ after.lastModifyDate.seconds
  forward : before.lastModifyDate.seconds < Int64.maxValue →
    before.lastModifyDate.seconds < after.lastModifyDate.seconds

/-- Whether the dates of a resource moved on with changes at some times of the clock. -/
structure Resource.MovedOn (old : Resource) (stamps : List Timestamp) (new : Resource) : Prop where
  added : new.addDate = old.addDate
  modified : new.lastModifyDate = .afterAll stamps old.lastModifyDate

namespace Resource

theorem MovedOn.refl (r : Resource) : r.MovedOn [] r := ⟨rfl, rfl⟩

theorem MovedOn.trans {a b c : Resource} {first more : List Timestamp} (h : a.MovedOn first b)
    (hThen : b.MovedOn more c) : a.MovedOn (first ++ more) c := by
  refine ⟨hThen.added.trans h.added, ?_⟩
  rw [hThen.modified, h.modified, Timestamp.afterAll, Timestamp.afterAll, Timestamp.afterAll,
    List.foldl_append]

theorem MovedOn.stamped {before after : Resource} {clock : Timestamp}
    (h : before.MovedOn [clock] after) : Stamped clock before after := by
  have hModified : after.lastModifyDate = .after clock before.lastModifyDate := h.modified
  refine ⟨h.added, ?_, ?_, ?_⟩
  · rw [hModified, Timestamp.toInt_after]
  · rw [hModified]
    exact Timestamp.le_after clock _
  · rw [hModified]
    exact Timestamp.lt_after clock

end Resource

/-! ## Steps -/

/-- The times of the clock at which a step changes a resource: one if the change succeeds. -/
def Step.stamps (uuid : String) (c : Catalogue) : Step → List Timestamp
  | updateResource now given patch =>
      if normalize given = uuid ∧ (c.updateResource now given patch).1.isOk = true then [now]
      else []
  | _ => []

/-- Whether a step is the removal of a resource. -/
def Step.takesOut (uuid : String) : Step → Bool
  | removeResource given => decide (normalize given = uuid)
  | _ => false

namespace Catalogue

/-- The key of a row is the identifier of the resource that it holds. -/
theorem key_of_holds {row : Row} {r : Resource} (h : @Row.Holds .resource row r) :
    row.key .resource = .text r.uuid :=
  Field.eq_text_of_ofCell (h (ResourceField.uuid, .text r.uuid) List.mem_cons_self)

/-- A resource is read when there is a row with its key that holds it. -/
theorem Synced.getResource_eq_ok_iff {c : Catalogue} (h : c.Synced) {uuid : String}
    {r : Resource} :
    c.getResource uuid = .ok r ↔
      ∃ row ∈ c.tables.resources, row.key .resource = .text (normalize uuid) ∧
        @Row.Holds .resource row r := by
  have hFetch : c.getResource uuid = .ok r ↔ _ := h.fetch_eq_ok_iff .resource
  rw [hFetch]
  constructor
  · rintro ⟨row, hFind, hHolds, -⟩
    obtain ⟨hRow, hKey⟩ := (h.sound.find?_eq_some_iff .resource rfl).1 hFind
    exact ⟨row, hRow, hKey, hHolds⟩
  · rintro ⟨row, hRow, hKey, hHolds⟩
    exact ⟨row, (h.sound.find?_eq_some_iff .resource rfl).2 ⟨hRow, hKey⟩, hHolds, trivial⟩

/-- A resource whose row is still there is read as before. -/
theorem Synced.getResource_of_kept {c d : Catalogue} (hc : c.Synced) (hd : d.Synced)
    {uuid : String} {r : Resource} (hGet : c.getResource uuid = .ok r)
    (hKept : ∀ row ∈ c.tables.resources, row.key .resource = .text (normalize uuid) →
      row ∈ d.tables.resources) : d.getResource uuid = .ok r := by
  obtain ⟨row, hRow, hKey, hHolds⟩ := hc.getResource_eq_ok_iff.1 hGet
  exact hd.getResource_eq_ok_iff.2 ⟨row, hKept row hRow hKey, hKey, hHolds⟩

/-- A resource that is added is there under its identifier, with the dates that it was given. -/
theorem Synced.getResource_added {c d : Catalogue} (hSynced : c.Synced) {fresh : String}
    (hFresh : isGenerated fresh = true) {given r : Resource}
    (hAdd : c.addResource fresh given = (.ok r, d)) :
    d.getResource r.uuid = .ok r ∧ normalize r.uuid = r.uuid ∧ r.addDate = given.addDate ∧
      r.lastModifyDate = given.lastModifyDate := by
  have hSynced' : d.Synced := by
    have hKept := (effect_addResource c fresh given).synced hSynced
    rw [hAdd] at hKept
    exact hKept
  have hNormal : normalize (chooseUuid given.uuid fresh) = chooseUuid given.uuid fresh :=
    normalize_chooseUuid hFresh
  unfold addResource at hAdd
  dsimp only at hAdd
  generalize chooseUuid given.uuid fresh = uuid at hAdd hNormal
  obtain ⟨⟨id, e⟩, hInsert, hMade⟩ := exists_of_map_ok (outcome_eq_ok hAdd)
  obtain ⟨rfl, rfl⟩ := Prod.mk.inj hMade
  obtain ⟨row, -, -, hHolds, hInserted, -⟩ := insertRecord_exact .resource hInsert
  dsimp only [Kind.restored] at hHolds
  rw [hNormal] at hHolds
  refine ⟨hSynced'.getResource_eq_ok_iff.2 ⟨row, ?_, ?_, hHolds⟩, hNormal, rfl, rfl⟩
  · have hRows := Tables.rows_append c.tables .resource row .resource
    rw [if_pos rfl, ← hInserted.result] at hRows
    exact (congrArg (row ∈ ·) hRows).mpr (List.mem_append_right _ (List.mem_singleton_self row))
  · rw [key_of_holds hHolds, hNormal]

/-! ## Steps of other kinds -/

/-- A row of a resource that is there stays, if the step neither changes nor removes resources. -/
theorem resource_kept {c : Catalogue} {s : Step} (hPlain : s.isPlain = true)
    (hWrites : s.writes .resource = none ∨ s.writes .resource = some .add) {row : Row}
    (hRow : row ∈ c.tables.resources) : row ∈ (s.run c).2.tables.resources := by
  have hWritten := s.rows_written c hPlain .resource
  rcases hWrites with hNone | hAdd
  · rw [hNone] at hWritten
    exact (congrArg (row ∈ ·) hWritten).mpr hRow
  · rw [hAdd] at hWritten
    rcases hWritten with hSame | ⟨added, hMore⟩
    · exact (congrArg (row ∈ ·) hSame).mpr hRow
    · exact (congrArg (row ∈ ·) hMore).mpr (List.mem_append_left _ hRow)

/-- A resource stays when another one is removed. -/
theorem resource_kept_removeResource {c : Catalogue} (hSound : c.tables.Sound) {given : String}
    {row : Row} (hRow : row ∈ c.tables.resources)
    (hOther : (c.removeResource given).1.isOk = true →
      row.key .resource ≠ .text (normalize given)) :
    row ∈ (c.removeResource given).2.tables.resources := by
  unfold removeResource at hOther ⊢
  cases hResult : c.removeRecord .resource (uuidCell given) (normalize given) with
  | error fault => exact hRow
  | ok d =>
      rw [hResult] at hOther
      obtain ⟨gone, t, hFind, hRemoved, rfl⟩ := removeRecord_eq_ok hResult
      obtain ⟨hGone, hKey⟩ := (hSound.find?_eq_some_iff .resource rfl).1 hFind
      have hRows := hRemoved.rows_eq .resource rfl
      rw [if_pos rfl] at hRows
      refine (congrArg (row ∈ ·) hRows).mpr (List.mem_filter.2 ⟨hRow, ?_⟩)
      have hNe : row.id ≠ gone.id := by
        intro hSame
        obtain rfl := hSound.id_injective .resource hRow hGone hSame
        exact hOther rfl hKey
      simpa using hNe

/-! ## The change of a resource -/

/-- The changed resource is what is read afterwards, with the dates moved on. -/
theorem Synced.updateResource_eq_ok {c d : Catalogue} (hSynced : c.Synced) {now : Timestamp}
    {given : String} {patch : ResourcePatch} {changed : Resource}
    (hRun : c.updateResource now given patch = (.ok changed, d)) {r : Resource}
    (hGet : c.getResource given = .ok r) :
    d.getResource given = .ok changed ∧ r.MovedOn [now] changed := by
  have hRevised := hSynced.revised (.resource now given patch) hRun
  obtain ⟨old, hOld, hNew⟩ := hRevised.changed
  obtain rfl : r = old := Except.ok.inj (hGet.symm.trans hOld)
  cases hNew
  exact ⟨hRevised.read, rfl, rfl⟩

/-- The change of a resource moves the date of its last change on, and that of no other. -/
theorem Synced.movedOn_updateResource {c : Catalogue} (hSynced : c.Synced) {uuid : String}
    (hNormal : normalize uuid = uuid) {r : Resource} (hGet : c.getResource uuid = .ok r)
    (now : Timestamp) (given : String) (patch : ResourcePatch) :
    ∃ r', (c.updateResource now given patch).2.getResource uuid = .ok r' ∧
      r.MovedOn ((Step.updateResource now given patch).stamps uuid c) r' := by
  unfold Step.stamps
  dsimp only
  generalize hRun : c.updateResource now given patch = outcome
  obtain ⟨answer, d⟩ := outcome
  cases answer with
  | error fault =>
      have hSame : d = c := by
        have hUnharmed := unharmed_updateResource hSynced now given patch fault
        rw [hRun] at hUnharmed
        exact hUnharmed rfl
      subst hSame
      rw [if_neg (by rintro ⟨-, ⟨⟩⟩)]
      exact ⟨r, hGet, .refl r⟩
  | ok changed =>
      have hSynced' : d.Synced := by
        have hKept := (effect_updateResource hSynced.sound now given patch).synced hSynced
        rw [hRun] at hKept
        exact hKept
      by_cases hKey : normalize given = uuid
      · rw [if_pos ⟨hKey, rfl⟩]
        rw [← hKey, getResource_normalize] at hGet ⊢
        exact ⟨changed, hSynced.updateResource_eq_ok hRun hGet⟩
      · rw [if_neg fun h => hKey h.1]
        have hRevised := hSynced.revised (.resource now given patch) hRun
        refine ⟨r, hSynced.getResource_of_kept hSynced' hGet fun row hRow hHere => ?_, .refl r⟩
        refine hRevised.frame.mem hRow fun hSame => hKey ?_
        rw [← hNormal]
        exact Cell.text.inj (hSame.symm.trans hHere)

theorem isOk_reply {α : Type} (o : Outcome α) (f : α → Reply) :
    (reply o f).1.isOk = o.1.isOk := by
  obtain ⟨answer, d⟩ := o
  cases answer <;> rfl

/-- A step moves the date of the last change of a resource on where it stamps it, and leaves the
dates alone otherwise. -/
theorem Synced.movedOn_step {c : Catalogue} (hSynced : c.Synced) {uuid : String}
    (hNormal : normalize uuid = uuid) {r : Resource} (hGet : c.getResource uuid = .ok r)
    {s : Step} (hPlain : s.isPlain = true) (hSupplied : s.isSupplied = true)
    (hStays : (s.run c).1.isOk = true → s.takesOut uuid = false) :
    ∃ r', (s.run c).2.getResource uuid = .ok r' ∧ r.MovedOn (s.stamps uuid c) r' := by
  have hSynced' := (Step.effect hSynced hPlain hSupplied).synced hSynced
  cases s with
  | updateResource now given patch =>
      exact hSynced.movedOn_updateResource hNormal hGet now given patch
  | removeResource given =>
      refine ⟨r, hSynced.getResource_of_kept hSynced' hGet fun row hRow hKey => ?_, .refl r⟩
      refine resource_kept_removeResource hSynced.sound hRow fun hOk hGone => ?_
      have hSame : normalize given = uuid := (Cell.text.inj (hGone.symm.trans hKey)).trans hNormal
      have hOther := hStays (by rw [Step.run, isOk_reply, hOk])
      rw [Step.takesOut, hSame] at hOther
      simp at hOther
  | _ =>
      refine ⟨r, hSynced.getResource_of_kept hSynced' hGet fun row hRow _ => ?_, .refl r⟩
      refine resource_kept hPlain ?_ hRow
      first | exact .inl rfl | exact .inr rfl

/-! ## Runs -/

/-- The runs that neither roll back nor remove a resource, with the times of the clock at the
changes of the resource. -/
inductive Onward (uuid : String) (c : Catalogue) : List Timestamp → Catalogue → Prop
  | refl : Onward uuid c [] c
  | step {stamps : List Timestamp} {d : Catalogue} {s : Step} (hRun : Onward uuid c stamps d)
      (hPlain : s.isPlain = true) (hSupplied : s.isSupplied = true)
      (hStays : (s.run d).1.isOk = true → s.takesOut uuid = false) :
      Onward uuid c (stamps ++ s.stamps uuid d) (s.run d).2
  | begin {stamps : List Timestamp} {d : Catalogue} (hRun : Onward uuid c stamps d) :
      Onward uuid c stamps d.begin
  | commit {stamps : List Timestamp} {d : Catalogue} (hRun : Onward uuid c stamps d) :
      Onward uuid c stamps d.commit.2

namespace Onward

variable {uuid : String} {c d e : Catalogue} {stamps more : List Timestamp}

theorem trans (hFirst : Onward uuid c stamps d) (hThen : Onward uuid d more e) :
    Onward uuid c (stamps ++ more) e := by
  induction hThen with
  | refl =>
      rw [List.append_nil]
      exact hFirst
  | step _ hPlain hSupplied hStays ih =>
      rw [← List.append_assoc]
      exact ih.step hPlain hSupplied hStays
  | begin _ ih => exact ih.begin
  | commit _ ih => exact ih.commit

/-- A transaction that succeeds goes on when its work does. -/
theorem transaction {α : Type} {work : Catalogue → Outcome α} (hRun : Onward uuid c stamps d)
    (hWork : Onward uuid d.begin more (work d.begin).2) (hOk : (work d.begin).1.isOk = true) :
    Onward uuid c (stamps ++ more) (d.transaction work).2 := by
  rw [transaction_eq, hOk]
  exact (hRun.begin.trans hWork).commit

/-- Such a run is a run. -/
theorem run (h : Onward uuid c stamps d) : Run 0 c d := by
  induction h with
  | refl => exact .refl
  | step _ hPlain hSupplied _ ih => exact ih.step hPlain hSupplied
  | begin _ ih => exact ih.begin
  | commit _ ih => exact ih.finish (by omega) false

end Onward

theorem getResource_commit (c : Catalogue) (uuid : String) :
    c.commit.2.getResource uuid = c.getResource uuid := by
  unfold commit
  split <;> rfl

/-- What the steps of a run do to the dates of a resource, the run does. -/
theorem Onward.movedOn {uuid : String} {c d : Catalogue} {stamps : List Timestamp} (hInv : c.Inv)
    (hNormal : normalize uuid = uuid) {r : Resource} (hGet : c.getResource uuid = .ok r)
    (h : Onward uuid c stamps d) : ∃ r', d.getResource uuid = .ok r' ∧ r.MovedOn stamps r' := by
  induction h with
  | refl => exact ⟨r, hGet, .refl r⟩
  | step hRun hPlain hSupplied hStays ih =>
      obtain ⟨before, hBefore, hMoved⟩ := ih
      obtain ⟨after, hAfter, hMore⟩ :=
        (hRun.run.inv hInv).synced.movedOn_step hNormal hBefore hPlain hSupplied hStays
      exact ⟨after, hAfter, hMoved.trans hMore⟩
  | begin _ ih => exact ih
  | @commit _ d _ ih =>
      rw [getResource_commit]
      exact ih

/-- **The dates of a resource from its addition to its removal.** Whatever public operations are
run that roll nothing back, the resource stays under its identifier and keeps the date at which it
was added. The date of its last change is the one that it was added with, moved on by each of its
successful changes in turn, and by nothing else. A further change, with whatever patch, moves the
date to the time of the clock or one second on, whichever is later, as far as time goes. So it
never goes back, and it goes forward unless it is the last second. -/
theorem Reachable.dates_move_on {c c' d : Catalogue} (h : Reachable c) {fresh : String}
    (hFresh : isGenerated fresh = true) {given r : Resource}
    (hAdd : c.addResource fresh given = (.ok r, c')) {stamps : List Timestamp}
    (hRun : Onward r.uuid c' stamps d) :
    ∃ r', d.getResource r.uuid = .ok r' ∧ r'.addDate = given.addDate ∧
      r'.lastModifyDate = .afterAll stamps given.lastModifyDate ∧
      ∀ clock uuid patch changed e, normalize uuid = r.uuid →
        d.updateResource clock uuid patch = (.ok changed, e) →
          Onward r.uuid c' (stamps ++ [clock]) e ∧ e.getResource r.uuid = .ok changed ∧
            Resource.Stamped clock r' changed := by
  obtain ⟨hAdded, hNormal, hAddDate, hModifyDate⟩ := h.inv.synced.getResource_added hFresh hAdd
  have hInv : c'.Inv := by
    have hKept := h.inv.effect (effect_addResource c fresh given)
    rw [hAdd] at hKept
    exact hKept
  obtain ⟨r', hGet, hMoved⟩ := hRun.movedOn hInv hNormal hAdded
  refine ⟨r', hGet, hMoved.added.trans hAddDate, ?_, ?_⟩
  · rw [hMoved.modified, hModifyDate]
  · intro clock uuid patch changed e hKey hUpdate
    have hOnward := hRun.step (s := .updateResource clock uuid patch) rfl rfl fun _ => rfl
    rw [Step.stamps, hUpdate, if_pos ⟨hKey, rfl⟩, Step.run, Step.reply_snd, hUpdate] at hOnward
    rw [← hKey, getResource_normalize] at hGet ⊢
    obtain ⟨hRead, hOnce⟩ := (hRun.run.inv hInv).synced.updateResource_eq_ok hUpdate hGet
    rw [← hKey] at hOnward
    exact ⟨hOnward, hRead, hOnce.stamped⟩

/-- A catalogue with one resource. -/
def sampleAdded : Catalogue := (sampleNew.addResource sampleUuid sampleResource).2

/-- A change without a new value. -/
def sampleTouch (c : Catalogue) : Outcome Reply := (Step.updateResource ⟨5⟩ " F" {}).run c

/-- The resource is changed twice, first in a transaction, and the clock goes back in between. -/
def sampleDated : Catalogue :=
  ((Step.updateResource ⟨-3⟩ "f" { title := some "Carrie" }).run
    (sampleAdded.transaction sampleTouch).2).2

theorem onward_sampleDated : Onward "f" sampleAdded [⟨5⟩, ⟨-3⟩] sampleDated := by
  have hTouched : (Step.updateResource ⟨5⟩ " F" {}).stamps "f" sampleAdded.begin = [⟨5⟩] := by
    decide +kernel
  have hTitled : (Step.updateResource ⟨-3⟩ "f" { title := some "Carrie" }).stamps "f"
      (sampleAdded.transaction sampleTouch).2 = [⟨-3⟩] := by
    decide +kernel
  have hStart : Onward "f" sampleAdded.begin [] sampleAdded.begin := .refl
  have hWork : Onward "f" sampleAdded.begin _ (sampleTouch sampleAdded.begin).2 :=
    hStart.step (s := .updateResource ⟨5⟩ " F" {}) rfl rfl fun _ => rfl
  have hOnce := Onward.refl.transaction hWork (by decide +kernel)
  have hTwice := hOnce.step (s := .updateResource ⟨-3⟩ "f" { title := some "Carrie" }) rfl rfl
    fun _ => rfl
  rw [hTouched, hTitled] at hTwice
  exact hTwice

/-- A third change follows while the clock is further back. -/
theorem dates_move_on_sample :
    ∃ r' changed, sampleDated.getResource "f" = .ok r' ∧ r'.addDate = ⟨0⟩ ∧
      r'.lastModifyDate = ⟨6⟩ ∧ (sampleDated.updateResource ⟨-9⟩ "F" {}).1 = .ok changed ∧
      changed.lastModifyDate = ⟨7⟩ ∧ Resource.Stamped ⟨-9⟩ r' changed := by
  have hAnswer : (sampleNew.addResource sampleUuid sampleResource).1 = .ok sampleResource := by
    decide +kernel
  have hAdd : sampleNew.addResource sampleUuid sampleResource =
      (.ok sampleResource, sampleAdded) := by
    rw [← hAnswer]
    rfl
  obtain ⟨r', hGet, hAdded, hModified, hFurther⟩ :=
    Reachable.dates_move_on reachable_sampleNew (by decide +kernel) hAdd onward_sampleDated
  have hThird : (sampleDated.updateResource ⟨-9⟩ "F" {}).1 =
      .ok { sampleResource with title := "Carrie", lastModifyDate := ⟨7⟩ } := by
    decide +kernel
  obtain ⟨-, -, hStamped⟩ := hFurther ⟨-9⟩ "F" {} _ (sampleDated.updateResource ⟨-9⟩ "F" {}).2
    (by decide +kernel) (by rw [← hThird])
  exact ⟨r', _, hGet, hAdded, hModified, hThird, rfl, hStamped⟩

end Catalogue

end Shelfmark
