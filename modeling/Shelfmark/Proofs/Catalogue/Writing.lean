import Shelfmark.Proofs.Catalogue.Operation

/-!
# Which rows a step writes

A step writes the rows of few kinds, and to each kind it does one thing: it adds a row, changes
one, or removes some. `Step.writes` says which, by the name of the step alone, and
`Step.rows_written` that no step does anything else, whether it succeeds or fails. Dependent rows
are removed with what they refer to; that is the only way in which a step that is about one kind
reaches the rows of another.

Each operation has a lemma of its own, from `wrote_addResource` to `wrote_removeGroupType`. It
opens that operation alone, down to the one record that is inserted, changed or removed.
-/

namespace Shelfmark

/-- What is done to the rows of a kind. -/
inductive Write where
  | add
  | change
  | remove
  deriving DecidableEq, Repr

namespace Write

/-- Whether rows can come from others by a write. A row that is added comes last, and one that
is changed stays in its place under its number. -/
def Allows : Option Write → List Row → List Row → Prop
  | none, rows, rows' => rows' = rows
  | some add, rows, rows' => rows' = rows ∨ ∃ row, rows' = rows ++ [row]
  | some change, rows, rows' => rows'.map Row.id = rows.map Row.id
  | some remove, rows, rows' => rows'.Sublist rows

theorem Allows.refl (write : Option Write) (rows : List Row) : Allows write rows rows := by
  cases write with
  | none => rfl
  | some write =>
      cases write with
      | add => exact .inl rfl
      | change => rfl
      | remove => exact List.Sublist.refl rows

/-- A write to the rows of one kind. -/
def only (write : Write) (target kind : Kind) : Option Write :=
  if kind = target then some write else none

/-- The removal of a row with the rows that depend on it. -/
def withDependents (target kind : Kind) : Option Write :=
  if kind = target ∨ kind.isDependent = true then some remove else none

end Write

open Write

/-- What a step may do to the rows of a kind. -/
def Step.writes : Step → Kind → Option Write
  | addResource _ _ => only .add .resource
  | updateResource _ _ _ => only .change .resource
  | removeResource _ => withDependents .resource
  | addPerson _ _ => only .add .person
  | updatePerson _ _ => only .change .person
  | removePerson _ => withDependents .person
  | addGroupType _ _ => only .add .groupType
  | updateGroupType _ _ => only .change .groupType
  | removeGroupType _ => withDependents .groupType
  | addGroup _ _ => only .add .group
  | updateGroup _ _ => only .change .group
  | removeGroup _ => withDependents .group
  | addObject _ _ _ => only .add .objectRelation
  | updateObject _ _ => only .change .objectRelation
  | removeObject _ => withDependents .objectRelation
  | removeObjects _ _ _ _ => only .remove .objectRelation
  | addPersonRelation _ _ _ => only .add .personRelation
  | removePersonRelations _ _ _ => only .remove .personRelation
  | addGroupRelation _ _ _ _ => only .add .groupRelation
  | removeGroupRelations _ _ _ _ => only .remove .groupRelation
  | _ => fun _ => none

namespace Catalogue

/-- Whether a catalogue comes from another by what is written to each kind. -/
def Wrote (write : Kind → Option Write) (c d : Catalogue) : Prop :=
  ∀ kind, Allows (write kind) (c.tables.rows kind) (d.tables.rows kind)

theorem Wrote.refl (write : Kind → Option Write) (c : Catalogue) : Wrote write c c :=
  fun _ => .refl _ _

/-- What is written shows in the tables alone. -/
theorem Wrote.of_tables {write : Kind → Option Write} {c d e : Catalogue} (h : Wrote write c d)
    (hTables : e.tables = d.tables) : Wrote write c e := by
  unfold Wrote
  rw [hTables]
  exact h

/-! ## Changes of records -/

theorem wrote_insertRecord {α : Type} [Storable α] [Listed α] {c : Catalogue} {record : α}
    {p : Int64 × Catalogue} (h : c.insertRecord record = .ok p) :
    Wrote (only .add (Storable.kind α)) c p.2 := by
  obtain ⟨id, d⟩ := p
  obtain ⟨stored, t, -, -, hInserted, rfl⟩ := insertRecord_eq_ok h
  intro kind
  dsimp only
  rw [hInserted.result, Tables.rows_append, only]
  split
  · rename_i hKind
    rw [hKind]
    exact .inr ⟨_, rfl⟩
  · rfl

theorem wrote_updateRecord {c d : Catalogue} {target : Kind} {key : FieldValue} {shown : String}
    {assignments : Assignments} (hKeeps : KeepsKey target assignments)
    (h : c.updateRecord target key shown assignments = .ok d) :
    Wrote (only .change target) c d := by
  rcases updateRecord_eq_ok hKeeps h with ⟨-, rfl⟩ | ⟨stored, old, t, -, -, -, hReplaced, rfl⟩
  · exact .refl _ _
  · intro kind
    dsimp only
    rw [hReplaced.rows_eq, only]
    split
    · rename_i hKind
      subst hKind
      rw [Allows, List.map_map]
      refine List.map_congr_left fun row _ => ?_
      dsimp only [Function.comp]
      split
      · rename_i hSame
        rw [Row.assign_id, hSame]
      · rfl
    · rfl

theorem wrote_removeRecord {c d : Catalogue} {target : Kind} {key : Cell} {shown : String}
    (h : c.removeRecord target key shown = .ok d) : Wrote (withDependents target) c d := by
  obtain ⟨row, t, -, hRemoved, rfl⟩ := removeRecord_eq_ok h
  intro kind
  unfold withDependents
  split
  · exact hRemoved.sublist kind
  · rename_i hNeither
    obtain ⟨hKind, hIndependent⟩ := not_or.1 hNeither
    dsimp only
    rw [hRemoved.rows_eq kind (Bool.eq_false_iff.2 hIndependent), if_neg hKind]
    rfl

theorem wrote_removeLinks (c : Catalogue) (target : Kind) (resource : String)
    (pattern : Row → Bool) :
    Wrote (only .remove target) c (c.removeLinks target resource pattern).2 := by
  intro kind
  unfold only
  split
  · exact c.tables.without_sublist target _ kind
  · rename_i hKind
    exact (c.tables.rows_without target kind _).trans (if_neg hKind)

/-! ## Outcomes -/

theorem wrote_outcome_map {α β : Type} {write : Kind → Option Write} {c : Catalogue}
    {result : Except Fault α} {f : α → β × Catalogue}
    (h : ∀ a, result = .ok a → Wrote write c (f a).2) :
    Wrote write c (c.outcome (result.map f)).2 := by
  cases hResult : result with
  | error fault => exact .refl _ _
  | ok a => exact h a hResult

theorem wrote_outcomeThen {α : Type} {write : Kind → Option Write} {c : Catalogue}
    {read : Catalogue → Except Fault α} {result : Except Fault Catalogue}
    (h : ∀ d, result = .ok d → Wrote write c d) :
    Wrote write c (c.outcomeThen read result).2 := by
  cases hResult : result with
  | error fault => exact .refl _ _
  | ok d => exact h d hResult

/-! ## Additions -/

theorem wrote_addResource (c : Catalogue) (fresh : String) (given : Resource) :
    Wrote (only .add .resource) c (c.addResource fresh given).2 := by
  unfold addResource
  exact wrote_outcome_map fun p hInsert => wrote_insertRecord hInsert

theorem wrote_addPerson (c : Catalogue) (fresh : String) (given : Person) :
    Wrote (only .add .person) c (c.addPerson fresh given).2 := by
  unfold addPerson
  exact wrote_outcome_map fun p hInsert => wrote_insertRecord hInsert

/-- That memory is told of the type is no write. -/
theorem wrote_addGroupType (c : Catalogue) (fresh : String) (given : GroupType) :
    Wrote (only .add .groupType) c (c.addGroupType fresh given).2 := by
  unfold addGroupType
  dsimp only
  split
  · exact .refl _ _
  · exact wrote_outcome_map fun p hInsert => (wrote_insertRecord hInsert).of_tables rfl

theorem wrote_addGroup (c : Catalogue) (fresh : String) (given : Group) :
    Wrote (only .add .group) c (c.addGroup fresh given).2 := by
  unfold addGroup
  dsimp only
  split
  · exact .refl _ _
  · exact wrote_outcome_map fun p hInsert => wrote_insertRecord hInsert

theorem wrote_addObject (c : Catalogue) (fresh resource : String) (given : ObjectRelation) :
    Wrote (only .add .objectRelation) c (c.addObject fresh resource given).2 := by
  unfold addObject
  split
  · exact .refl _ _
  · exact wrote_outcome_map fun p hInsert => wrote_insertRecord hInsert

/-- A relation is added to the links alone, whatever was looked up at both of its ends. -/
theorem wrote_addPersonRelation (c : Catalogue) (resource person : String)
    (relation : PersonRole) :
    Wrote (only .add .personRelation) c (c.addPersonRelation resource person relation).2 := by
  unfold addPersonRelation
  split
  · exact .refl _ _
  · split
    · exact .refl _ _
    · split
      · exact .refl _ _
      · exact wrote_outcome_map fun p hInsert => wrote_insertRecord hInsert

theorem wrote_addGroupRelation (c : Catalogue) (resource group : String) (index : Option Int64)
    (tag : Option String) :
    Wrote (only .add .groupRelation) c (c.addGroupRelation resource group index tag).2 := by
  unfold addGroupRelation
  split
  · exact .refl _ _
  · split
    · exact .refl _ _
    · dsimp only
      split
      · exact .refl _ _
      · exact wrote_outcome_map fun p hInsert => wrote_insertRecord hInsert

/-! ## Updates -/

theorem wrote_updateResource (c : Catalogue) (now : Timestamp) (uuid : String)
    (patch : ResourcePatch) :
    Wrote (only .change .resource) c (c.updateResource now uuid patch).2 := by
  unfold updateResource
  dsimp only
  refine wrote_outcomeThen fun d hUpdate => ?_
  split at hUpdate
  · cases hUpdate
  · exact wrote_updateRecord (patch.keepsKey _) hUpdate

theorem wrote_updatePerson (c : Catalogue) (uuid : String) (patch : PersonPatch) :
    Wrote (only .change .person) c (c.updatePerson uuid patch).2 := by
  unfold updatePerson
  exact wrote_outcomeThen fun d hUpdate => wrote_updateRecord patch.keepsKey hUpdate

theorem wrote_updateObject (c : Catalogue) (id : Int64) (patch : ObjectPatch) :
    Wrote (only .change .objectRelation) c (c.updateObject id patch).2 := by
  unfold updateObject
  exact wrote_outcomeThen fun d hUpdate => wrote_updateRecord patch.keepsKey hUpdate

/-- A group that moves to another type is changed alone, not its relations. -/
theorem wrote_updateGroup (c : Catalogue) (uuid : String) (patch : GroupPatch) :
    Wrote (only .change .group) c (c.updateGroup uuid patch).2 := by
  unfold updateGroup
  dsimp only
  refine wrote_outcomeThen fun d hUpdate => ?_
  split at hUpdate
  · cases hUpdate
  · exact wrote_updateRecord patch.keepsKey hUpdate

/-- A flag that is set against the relations is refused, so they need no change. -/
theorem wrote_updateGroupType (c : Catalogue) (uuid : String) (patch : GroupTypePatch) :
    Wrote (only .change .groupType) c (c.updateGroupType uuid patch).2 := by
  unfold updateGroupType
  dsimp only
  split
  · exact .refl _ _
  · split
    · exact .refl _ _
    · exact wrote_outcome_map fun d hUpdate =>
        (wrote_updateRecord patch.keepsKey hUpdate).of_tables rfl

/-! ## Removals -/

/-- The removals of single records differ in the kind alone. -/
theorem wrote_remove (c : Catalogue) (target : Kind) (key : Cell) (shown : String) :
    Wrote (withDependents target) c
      (c.outcome ((c.removeRecord target key shown).map fun r => ((), r))).2 :=
  wrote_outcome_map fun _ hRemove => wrote_removeRecord hRemove

/-- A type that groups have is not removed, so no group is removed with it. -/
theorem wrote_removeGroupType (c : Catalogue) (uuid : String) :
    Wrote (withDependents .groupType) c (c.removeGroupType uuid).2 := by
  unfold removeGroupType
  dsimp only
  split
  · exact .refl _ _
  · split
    · exact .refl _ _
    · split
      · exact .refl _ _
      · exact wrote_outcome_map fun d hRemove => (wrote_removeRecord hRemove).of_tables rfl
      · exact .refl _ _

end Catalogue

/-! ## Steps -/

open Catalogue

/-- **A step writes what its name says and nothing else**, whether it succeeds or fails. -/
theorem Step.rows_written (c : Catalogue) {s : Step} (hPlain : s.isPlain = true) :
    Wrote s.writes c (s.run c).2 := by
  cases s with
  | begin | commit | rollback | transaction | setOption | direct => cases hPlain
  | addResource fresh record =>
      rw [run, reply_snd]
      exact wrote_addResource c fresh record
  | addPerson fresh record =>
      rw [run, reply_snd]
      exact wrote_addPerson c fresh record
  | addGroupType fresh record =>
      rw [run, reply_snd]
      exact wrote_addGroupType c fresh record
  | addGroup fresh record =>
      rw [run, reply_snd]
      exact wrote_addGroup c fresh record
  | addObject fresh resource record =>
      rw [run, reply_snd]
      exact wrote_addObject c fresh resource record
  | addPersonRelation resource person relation =>
      rw [run, reply_snd]
      exact wrote_addPersonRelation c resource person relation
  | addGroupRelation resource group index tag =>
      rw [run, reply_snd]
      exact wrote_addGroupRelation c resource group index tag
  | updateResource now uuid patch =>
      rw [run, reply_snd]
      exact wrote_updateResource c now uuid patch
  | updatePerson uuid patch =>
      rw [run, reply_snd]
      exact wrote_updatePerson c uuid patch
  | updateObject id patch =>
      rw [run, reply_snd]
      exact wrote_updateObject c id patch
  | updateGroup uuid patch =>
      rw [run, reply_snd]
      exact wrote_updateGroup c uuid patch
  | updateGroupType uuid patch =>
      rw [run, reply_snd]
      exact wrote_updateGroupType c uuid patch
  | removeResource | removePerson | removeGroup | removeObject =>
      exact wrote_remove c _ _ _
  | removeGroupType uuid =>
      rw [run, reply_snd]
      exact wrote_removeGroupType c uuid
  | removeObjects | removePersonRelations | removeGroupRelations =>
      exact wrote_removeLinks c _ _ _
  | _ =>
      rw [run]
      exact .refl _ _

end Shelfmark
