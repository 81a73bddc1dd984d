import Mathlib.Data.List.Pairwise
import Shelfmark.Proofs.Store.Change

/-!
# Sound tables

Tables are sound when every row fits its kind, row identifiers and unique columns are
unique, and every reference leads to a row. Each kind of change keeps them so:
`Sound.inserted`, `Sound.replaced`, `Sound.removed` and `Sound.without`.

In sound tables an identifier names at most one row, `Sound.uuid_injective`, and
looking a row up by its identifier is a matter of membership, `Sound.find?_eq_some_iff`.
-/

namespace Shelfmark

namespace Tables

/-- Every row fits, what is unique is unique, and every reference leads to a row. -/
structure Sound (t : Tables) : Prop where
  fits : ∀ kind, ∀ row ∈ t.rows kind, row.Fits kind
  ids : ∀ kind, ((t.rows kind).map Row.id).Nodup
  unique : ∀ kind, ∀ columns ∈ kind.uniqueColumns,
    (t.rows kind).Pairwise fun a b => kind.agree columns a b = false
  refs : ∀ kind, ∀ row ∈ t.rows kind, ∀ r ∈ kind.references,
    ∃ target ∈ t.rows r.target, target.cell r.target "uuid" = row.cell kind r.column

/-! ## Rows and look-ups -/

theorem rows_append (t : Tables) (kind : Kind) (row : Row) (other : Kind) :
    (t.append kind row).rows other =
      if other = kind then t.rows kind ++ [row] else t.rows other := by
  unfold append
  cases kind <;> cases other <;> simp [withRows, rows]

theorem rows_withRows (t : Tables) (kind other : Kind) (rows : List Row) :
    (t.withRows kind rows).rows other = if other = kind then rows else t.rows other := by
  split
  · rename_i hEq
    rw [hEq, rows_withRows_self]
  · rename_i hNe
    exact rows_withRows_of_ne t rows hNe

theorem hasRow_text_iff {t : Tables} {kind : Kind} {column s : String} :
    t.hasRow kind column (.text s) = true ↔
      ∃ row ∈ t.rows kind, row.cell kind column = .text s := by
  simp [hasRow, Cell.same_text_iff]

/-- Whether a kind is referred to shows in one of its children. -/
theorem isReferenced_iff {t : Tables} {kind : Kind} {uuid : Cell} :
    t.isReferenced kind uuid = true ↔
      ∃ child, ∃ r ∈ child.references, r.target = kind ∧ t.hasRow child r.column uuid = true := by
  unfold isReferenced
  simp only [List.any_eq_true, Bool.and_eq_true, decide_eq_true_eq]
  constructor
  · rintro ⟨child, _, r, hr, hTarget, hRow⟩
    exact ⟨child, r, hr, hTarget, hRow⟩
  · rintro ⟨child, r, hr, hTarget, hRow⟩
    exact ⟨child, by cases child <;> decide, r, hr, hTarget, hRow⟩

/-- The rows that a link table joins are rows of the link and of its target. -/
theorem mem_of_mem_linked {t : Tables} {link target : Kind} {reference : String}
    {resource : Cell} {pair : Row × Row}
    (h : pair ∈ Summary.linked t link target reference resource) :
    pair.1 ∈ t.rows link ∧ pair.2 ∈ t.rows target := by
  unfold Summary.linked at h
  obtain ⟨x, hx, hPair⟩ := List.mem_flatMap.1 h
  obtain ⟨row, hRow, rfl⟩ := List.mem_map.1 hPair
  exact ⟨(List.mem_filter.1 hx).1, (List.mem_filter.1 hRow).1⟩

private theorem lookup_of_forall {P : Cell → Prop} (hNull : P .null) {columns : List String}
    {cells : List Cell} (h : ∀ cell ∈ cells, P cell) (column : String) :
    P (((columns.zip cells).lookup column).getD .null) := by
  induction columns generalizing cells with
  | nil => exact hNull
  | cons c columns ih =>
      cases cells with
      | nil => exact hNull
      | cons cell cells =>
          rw [List.zip_cons_cons, List.lookup_cons]
          split
          · exact h cell (by simp)
          · exact ih fun other hOther => h other (by simp [hOther])

/-- What holds of the cells of a row and of those that the store assigns holds of every
column. -/
theorem cell_of_forall {P : Cell → Prop} (hNull : P .null) (hId : ∀ i, P (.integer i)) {row : Row}
    (h : ∀ cell ∈ row.cells, P cell) (kind : Kind) (column : String) : P (row.cell kind column) := by
  unfold Row.cell
  split
  · exact hId _
  · exact lookup_of_forall hNull h column

/-- Every column of a fitting row is plain, also those that the store assigns. -/
theorem plain_cell {kind : Kind} {row : Row} (h : row.Fits kind) (column : String) :
    (row.cell kind column).isPlain = true := by
  refine cell_of_forall (P := fun cell => cell.isPlain = true) rfl (fun _ => rfl) ?_ kind column
  intro cell hCell
  obtain ⟨i, hi, rfl⟩ := List.mem_iff_getElem.1 hCell
  have hLength : i < kind.givenFields.length := by
    rw [h.length_eq]
    exact hi
  exact (List.forall₂_iff_get.1 h).2 i hLength hi |>.plain

/-- What holds of the cells of all rows and of the joined names holds of every column of a
summary. -/
theorem summary_cell_of_forall {P : Cell → Prop} (hNull : P .null) {t : Tables}
    (h : ∀ kind, ∀ row ∈ t.rows kind, ∀ column, P (row.cell kind column)) {row : Row}
    (hRow : row ∈ t.resources) (hAuthors : P (Summary.ofResource t row).authors)
    (hTags : P (Summary.ofResource t row).tags) (column : String) :
    P ((Summary.ofResource t row).cell column) := by
  unfold Summary.cell
  split
  · exact h .resource row hRow "uuid"
  · exact hAuthors
  · exact hTags
  · unfold Summary.ofResource
    dsimp only
    generalize hFirst : List.head? _ = first
    cases first with
    | none => exact hNull
    | some p =>
        have hPair := mem_of_mem_linked (List.mem_filter.1 (List.mem_of_head? hFirst)).1
        exact h .group p.2 hPair.2 "title"
  · unfold Summary.ofResource
    dsimp only
    generalize hFirst : List.head? _ = first
    cases first with
    | none => exact hNull
    | some p =>
        have hPair := mem_of_mem_linked (List.mem_filter.1 (List.mem_of_head? hFirst)).1
        dsimp only
        split
        · exact hNull
        · exact h .groupRelation p.1 hPair.1 "group_index"
  · exact hNull

theorem agree_comm {kind : Kind} {columns : List String} {a b : Row} (ha : a.Fits kind)
    (hb : b.Fits kind) : kind.agree columns a b = kind.agree columns b a := by
  unfold Kind.agree
  refine List.all_congr rfl fun column => ?_
  exact Cell.equals_comm (plain_cell ha column) (plain_cell hb column)

theorem uuid_unique {kind : Kind} (h : kind.keyColumn = "uuid") :
    ["uuid"] ∈ kind.uniqueColumns := by
  revert h
  cases kind <;> decide

theorem uuid_collation (kind : Kind) : kind.collation "uuid" = .binary := by
  cases kind <;> rfl

/-- Rows that agree in their identifier have the same one. -/
theorem agree_uuid_iff {kind : Kind} (hKey : kind.keyColumn = "uuid") {a b : Row}
    (hb : b.Fits kind) :
    kind.agree ["uuid"] a b = true ↔ a.cell kind "uuid" = b.cell kind "uuid" := by
  obtain ⟨s, hs, _⟩ := hb.key_text hKey
  simp only [Kind.agree, List.all_cons, List.all_nil, Bool.and_true, uuid_collation, hs]
  exact Cell.same_text_iff

theorem Sound.uuids {t : Tables} (h : t.Sound) (kind : Kind) (hKey : kind.keyColumn = "uuid") :
    ((t.rows kind).map fun row => row.cell kind "uuid").Nodup := by
  refine List.pairwise_map.2 ((h.unique kind ["uuid"] (uuid_unique hKey)).imp_of_mem ?_)
  intro a b _ hb hAgree hSame
  rw [(agree_uuid_iff hKey (h.fits kind b hb)).2 hSame] at hAgree
  cases hAgree

/-- An identifier names at most one row. -/
theorem Sound.uuid_injective {t : Tables} (h : t.Sound) (kind : Kind)
    (hKey : kind.keyColumn = "uuid") {a b : Row} (ha : a ∈ t.rows kind) (hb : b ∈ t.rows kind)
    (hEq : a.cell kind "uuid" = b.cell kind "uuid") : a = b :=
  List.inj_on_of_nodup_map (h.uuids kind hKey) ha hb hEq

theorem Sound.id_injective {t : Tables} (h : t.Sound) (kind : Kind) {a b : Row}
    (ha : a ∈ t.rows kind) (hb : b ∈ t.rows kind) (hEq : a.id = b.id) : a = b :=
  List.inj_on_of_nodup_map (h.ids kind) ha hb hEq

/-- No two rows of a kind have the same key. -/
theorem Sound.keys_nodup {t : Tables} (h : t.Sound) (kind : Kind) :
    ((t.rows kind).map (Row.key kind)).Nodup := by
  have hNumbered : (∀ row : Row, row.key kind = .integer row.id) →
      ((t.rows kind).map (Row.key kind)).Nodup := fun hKey => by
    rw [funext hKey]
    exact List.pairwise_map.2 ((List.pairwise_map.1 (h.ids kind)).imp fun hNe hEq =>
      hNe (Cell.integer.inj hEq))
  cases kind with
  | resource => exact h.uuids .resource rfl
  | person => exact h.uuids .person rfl
  | group => exact h.uuids .group rfl
  | groupType => exact h.uuids .groupType rfl
  | objectRelation => exact hNumbered fun _ => rfl
  | personRelation => exact hNumbered fun _ => rfl
  | groupRelation => exact hNumbered fun _ => rfl

theorem convertKey_text {kind : Kind} (hKey : kind.keyColumn = "uuid") (s : String) :
    convertKey kind (.text s) = .text s := by
  simp [convertKey, hKey, Cell.storable, Affinity.apply]

/-- The row found under an identifier is the row that has it. -/
theorem Sound.find?_eq_some_iff {t : Tables} (h : t.Sound) (kind : Kind)
    (hKey : kind.keyColumn = "uuid") {s : String} {row : Row} :
    t.find? kind (.text s) = some row ↔
      row ∈ t.rows kind ∧ row.cell kind "uuid" = .text s := by
  unfold find?
  rw [convertKey_text hKey]
  constructor
  · intro hFind
    have hSame := List.find?_some hFind
    rw [Cell.same_text_iff, Row.key, hKey] at hSame
    exact ⟨List.mem_of_find?_eq_some hFind, hSame⟩
  · rintro ⟨hMem, hCell⟩
    cases hFind : (t.rows kind).find? fun row => (row.key kind).same (.text s) with
    | none =>
        have hNone := List.find?_eq_none.1 hFind row hMem
        rw [Cell.same_text_iff, Row.key, hKey] at hNone
        exact absurd hCell hNone
    | some found =>
        have hSame := List.find?_some hFind
        rw [Cell.same_text_iff, Row.key, hKey] at hSame
        exact congrArg some (h.uuid_injective kind hKey (List.mem_of_find?_eq_some hFind) hMem
          (hSame.trans hCell.symm))

theorem Admits.target {t : Tables} {kind : Kind} {others : List Row} {row : Row}
    (h : t.Admits kind others row) (hFits : row.Fits kind) {r : Reference}
    (hr : r ∈ kind.references) :
    ∃ target ∈ t.rows r.target, target.cell r.target "uuid" = row.cell kind r.column := by
  obtain ⟨s, hs, _⟩ := hFits.reference_text hr
  have hLeads := h.leads r hr
  rw [hs] at hLeads
  rw [hs]
  exact hasRow_text_iff.1 hLeads

/-! ## What changes keep -/

theorem Sound.inserted {t t' : Tables} {kind : Kind} {row : Row} (h : t.Sound)
    (hFits : row.Fits kind) (hInserted : t.Inserted kind row t') : t'.Sound := by
  have hRows : ∀ other, t'.rows other =
      if other = kind then t.rows kind ++ [row] else t.rows other := by
    intro other
    rw [hInserted.result, rows_append]
  have hSub : ∀ other, ∀ r ∈ t.rows other, r ∈ t'.rows other := by
    intro other r hr
    rw [hRows]
    split
    · rename_i hEq
      exact List.mem_append_left _ (hEq ▸ hr)
    · exact hr
  have hCases : ∀ other, ∀ r ∈ t'.rows other, r ∈ t.rows other ∨ (other = kind ∧ r = row) := by
    intro other r hr
    rw [hRows] at hr
    split at hr
    · rename_i hEq
      rcases List.mem_append.1 hr with hOld | hNew
      · exact Or.inl (hEq ▸ hOld)
      · exact Or.inr ⟨hEq, List.mem_singleton.1 hNew⟩
    · exact Or.inl hr
  refine
    { fits := ?_
      ids := ?_
      unique := ?_
      refs := ?_ }
  · intro other r hr
    rcases hCases other r hr with hOld | ⟨rfl, rfl⟩
    · exact h.fits other r hOld
    · exact hFits
  · intro other
    rw [hRows]
    split
    · rw [List.map_append, List.nodup_append]
      refine ⟨h.ids kind, by simp, ?_⟩
      intro a ha b hb
      obtain ⟨r, hr, rfl⟩ := List.mem_map.1 ha
      have hb' : b = row.id := by simpa using hb
      rw [hb']
      exact hInserted.admits.fresh r hr
    · exact h.ids other
  · intro other columns hColumns
    rw [hRows]
    split
    · rename_i hEq
      subst hEq
      rw [List.pairwise_append]
      refine ⟨h.unique other columns hColumns, by simp, ?_⟩
      intro a ha b hb
      rw [List.mem_singleton.1 hb]
      exact hInserted.admits.unique columns hColumns a ha
    · exact h.unique other columns hColumns
  · intro other r hr reference hReference
    have hTarget : ∃ target ∈ t.rows reference.target,
        target.cell reference.target "uuid" = r.cell other reference.column := by
      rcases hCases other r hr with hOld | ⟨rfl, rfl⟩
      · exact h.refs other r hOld reference hReference
      · exact hInserted.admits.target hFits hReference
    obtain ⟨target, hMem, hEq⟩ := hTarget
    exact ⟨target, hSub _ target hMem, hEq⟩

/-- The rows of a kind in which one is replaced. -/
theorem Replaced.rows_eq {t t' : Tables} {kind : Kind} {old new : Row}
    (h : t.Replaced kind old new t') (other : Kind) :
    t'.rows other =
      if other = kind then (t.rows kind).map fun r => if r.id = old.id then new else r
      else t.rows other := by
  rw [h.result, rows_withRows]

private theorem mem_others {t : Tables} {kind : Kind} {old r : Row} :
    r ∈ (t.rows kind).filter (fun r => r.id != old.id) ↔ r ∈ t.rows kind ∧ r.id ≠ old.id := by
  simp

private theorem Sound.replaced_unique {t t' : Tables} {kind : Kind} {old new : Row} (h : t.Sound)
    (hFits : new.Fits kind) (hReplaced : t.Replaced kind old new t') {columns : List String}
    (hColumns : columns ∈ kind.uniqueColumns) :
    ((t.rows kind).map fun r => if r.id = old.id then new else r).Pairwise
      fun a b => kind.agree columns a b = false := by
  rw [List.pairwise_map]
  have hIds : (t.rows kind).Pairwise fun a b => a.id ≠ b.id := List.pairwise_map.1 (h.ids kind)
  refine ((h.unique kind columns hColumns).and hIds).imp_of_mem ?_
  intro a b ha hb hBoth
  obtain ⟨hAgree, hNe⟩ := hBoth
  by_cases haOld : a.id = old.id
  · have hbOld : b.id ≠ old.id := fun hEq => hNe (haOld.trans hEq.symm)
    rw [if_pos haOld, if_neg hbOld, agree_comm hFits (h.fits kind b hb)]
    exact hReplaced.admits.unique columns hColumns b (mem_others.2 ⟨hb, hbOld⟩)
  · rw [if_neg haOld]
    by_cases hbOld : b.id = old.id
    · rw [if_pos hbOld]
      exact hReplaced.admits.unique columns hColumns a (mem_others.2 ⟨ha, haOld⟩)
    · rw [if_neg hbOld]
      exact hAgree

private theorem orphans?_eq_none {t : Tables} {kind : Kind} {old new : Row}
    (h : t.orphans? kind old new = none)
    (hReferenced : t.isReferenced kind (old.cell kind "uuid") = true) :
    (old.cell kind "uuid").same (new.cell kind "uuid") = true := by
  unfold orphans? at h
  simpa [hReferenced] using h

theorem Sound.replaced {t t' : Tables} {kind : Kind} {old new : Row} (h : t.Sound)
    (hOld : old ∈ t.rows kind) (hFits : new.Fits kind) (hId : new.id = old.id)
    (hReplaced : t.Replaced kind old new t') : t'.Sound := by
  have hRows := hReplaced.rows_eq
  have hCases : ∀ other, ∀ r ∈ t'.rows other, r ∈ t.rows other ∨ (other = kind ∧ r = new) := by
    intro other r hr
    rw [hRows] at hr
    split at hr
    · rename_i hEq
      obtain ⟨x, hx, rfl⟩ := List.mem_map.1 hr
      split
      · exact Or.inr ⟨hEq, rfl⟩
      · exact Or.inl (hEq ▸ hx)
    · exact Or.inl hr
  -- A row that something refers to keeps its identifier, so every target stays a target.
  have hTargets : ∀ other, ∀ r ∈ t.rows other, ∀ reference ∈ other.references,
      ∀ target ∈ t.rows reference.target,
        target.cell reference.target "uuid" = r.cell other reference.column →
        ∃ target' ∈ t'.rows reference.target,
          target'.cell reference.target "uuid" = r.cell other reference.column := by
    intro other r hr reference hReference target hTarget hEq
    rw [hRows]
    split
    · rename_i hKind
      by_cases hIsOld : target.id = old.id
      · refine ⟨new, List.mem_map.2 ⟨old, hOld, by simp⟩, ?_⟩
        have hSame : target = old := h.id_injective _ hTarget (hKind ▸ hOld) hIsOld
        obtain ⟨s, hs, _⟩ := (h.fits other r hr).reference_text hReference
        rw [hSame, hKind, hs] at hEq
        have hReferenced : t.isReferenced kind (old.cell kind "uuid") = true := by
          rw [hEq]
          exact isReferenced_iff.2 ⟨other, reference, hReference, hKind,
            hasRow_text_iff.2 ⟨r, hr, hs⟩⟩
        have hKept := orphans?_eq_none hReplaced.referred hReferenced
        rw [hEq, Cell.text_same_iff] at hKept
        rw [hKind, hs]
        exact hKept
      · refine ⟨target, List.mem_map.2 ⟨target, hKind ▸ hTarget, by simp [hIsOld]⟩, hEq⟩
    · exact ⟨target, hTarget, hEq⟩
  refine
    { fits := ?_
      ids := ?_
      unique := ?_
      refs := ?_ }
  · intro other r hr
    rcases hCases other r hr with hKept | ⟨rfl, rfl⟩
    · exact h.fits other r hKept
    · exact hFits
  · intro other
    rw [hRows]
    split
    · have hSame : ((t.rows kind).map fun r => if r.id = old.id then new else r).map Row.id =
          (t.rows kind).map Row.id := by
        rw [List.map_map]
        refine List.map_congr_left fun r _ => ?_
        by_cases hEq : r.id = old.id
        · simp [hEq, hId]
        · simp [hEq]
      rw [hSame]
      exact h.ids kind
    · exact h.ids other
  · intro other columns hColumns
    rw [hRows]
    split
    · rename_i hEq
      subst hEq
      exact h.replaced_unique hFits hReplaced hColumns
    · exact h.unique other columns hColumns
  · intro other r hr reference hReference
    rcases hCases other r hr with hKept | ⟨rfl, rfl⟩
    · obtain ⟨target, hTarget, hEq⟩ := h.refs other r hKept reference hReference
      exact hTargets other r hKept reference hReference target hTarget hEq
    · obtain ⟨target, hTarget, hEq⟩ := hReplaced.admits.target hFits hReference
      refine ⟨target, ?_, hEq⟩
      rw [hRows, if_neg (target_of_reference hReference).2.1]
      exact hTarget

/-- Tables from which rows went stay sound when every reference still leads to a row. -/
theorem Sound.sublist {t t' : Tables} (h : t.Sound)
    (hSub : ∀ kind, (t'.rows kind).Sublist (t.rows kind))
    (hRefs : ∀ kind, ∀ row ∈ t'.rows kind, ∀ r ∈ kind.references,
      ∀ target ∈ t.rows r.target, target.cell r.target "uuid" = row.cell kind r.column →
        target ∈ t'.rows r.target) : t'.Sound := by
  refine
    { fits := fun kind row hRow => h.fits kind row ((hSub kind).subset hRow)
      ids := fun kind => (h.ids kind).sublist ((hSub kind).map Row.id)
      unique := fun kind columns hColumns => (h.unique kind columns hColumns).sublist (hSub kind)
      refs := ?_ }
  intro kind row hRow r hr
  obtain ⟨target, hTarget, hEq⟩ := h.refs kind row ((hSub kind).subset hRow) r hr
  exact ⟨target, hRefs kind row hRow r hr target hTarget hEq, hEq⟩

theorem Sound.removed {t t' : Tables} {kind : Kind} {row : Row} (h : t.Sound)
    (hRow : row ∈ t.rows kind) (hRemoved : t.Removed kind row t') : t'.Sound := by
  refine h.sublist hRemoved.sublist ?_
  intro child r hr reference hReference target hTarget hEq
  obtain ⟨hIndependent, _, _⟩ := target_of_reference hReference
  rw [hRemoved.rows_eq _ hIndependent]
  split
  · rename_i hKind
    refine List.mem_filter.2 ⟨hKind ▸ hTarget, ?_⟩
    -- Were the target the removed row, the kind would still be referred to.
    have hOther : target.id ≠ row.id := by
      intro hId
      have hSame : target = row := h.id_injective _ hTarget (hKind ▸ hRow) hId
      have hOldRow := (hRemoved.sublist child).subset hr
      obtain ⟨s, hs, _⟩ := (h.fits child r hOldRow).reference_text hReference
      rw [hSame, hKind, hs] at hEq
      have hReferenced : t'.isReferenced kind (row.cell kind "uuid") = true := by
        rw [hEq]
        exact isReferenced_iff.2 ⟨child, reference, hReference, hKind,
          hasRow_text_iff.2 ⟨r, hr, hs⟩⟩
      rw [hRemoved.unreferred] at hReferenced
      cases hReferenced
    simpa using hOther
  · exact hTarget

/-- Rows of a dependent kind go without leaving a reference behind. -/
theorem Sound.without {t : Tables} {kind : Kind} (h : t.Sound)
    (hDependent : kind.isDependent = true) (doomed : Row → Bool) :
    (t.without kind doomed).Sound := by
  refine h.sublist (without_sublist t kind doomed) ?_
  intro child r _ reference hReference target hTarget _
  have hNe : reference.target ≠ kind := by
    intro hEq
    have hIndependent := (target_of_reference hReference).1
    rw [hEq, hDependent] at hIndependent
    cases hIndependent
  rw [rows_without, if_neg hNe]
  exact hTarget

end Tables

end Shelfmark
