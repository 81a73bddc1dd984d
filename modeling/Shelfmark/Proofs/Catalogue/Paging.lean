import Shelfmark.Proofs.Catalogue.Finder

/-!
# Pages

A page asks for a part of a list: so many records are left out, and so many are kept at
most. Both are counted in 64 bits without a sign, and both are handed on as numbers with a
sign. A maximum from `2 ^ 63` on turns negative, which stands for no maximum; that shows
nowhere, because no list is that long. An offset from `2 ^ 63` on turns negative as well and
then leaves nothing out, where it should leave everything out.

So a page is the part of the full answer that it asks for just when its offset is below
`2 ^ 63`, or when there is nothing to show in either way: `Reachable.answers_page_iff`.
-/

namespace Shelfmark

namespace Page

/-- The part of a list that a page asks for. -/
def cut {α : Type} (page : Page) (xs : List α) : List α :=
  match page.maxCount with
  | none => xs.drop page.offset.toNat
  | some n => (xs.drop page.offset.toNat).take n.toNat

/-! ## Numbers with a sign -/

private theorem toInt_toInt64 (n : UInt64) :
    n.toInt64.toInt = if n.toNat < 2 ^ 63 then (n.toNat : Int) else n.toNat - 2 ^ 64 := by
  show n.toBitVec.toInt = _
  rw [BitVec.toInt_eq_toNat_cond]
  show (if 2 * n.toNat < 2 ^ 64 then (n.toNat : Int) else (n.toNat : Int) - ((2 ^ 64 : Nat) : Int)) =
    _
  split <;> split <;> omega

/-- An offset that does not fit with a sign leaves nothing out. -/
theorem skipped_eq (page : Page) :
    page.skipped = if page.offset.toNat < 2 ^ 63 then page.offset.toNat else 0 := by
  have hLess := page.offset.toNat_lt
  unfold skipped
  rw [toInt_toInt64]
  split <;> omega

/-- A maximum that does not fit with a sign is none. -/
theorem limit?_eq (page : Page) :
    page.limit? = page.maxCount.bind fun n => if n.toNat < 2 ^ 63 then some n.toNat else none := by
  unfold limit?
  cases page.maxCount with
  | none => rfl
  | some n =>
      have hLess := n.toNat_lt
      have hSign : n.toInt64 < 0 ↔ ¬ n.toNat < 2 ^ 63 := by
        rw [Int64.lt_iff_toInt_lt, toInt_toInt64]
        show (if n.toNat < 2 ^ 63 then (n.toNat : Int) else n.toNat - 2 ^ 64) < 0 ↔ _
        split <;> omega
      simp only [Option.bind_some, hSign, ite_not]

/-! ## Slices and cuts -/

variable {α : Type}

/-- Of a list that is not too long, a page shows what it asks for, but with an offset that
does not fit with a sign it shows what it would without one. -/
theorem slice_eq_cut (page : Page) {xs : List α} (hLength : xs.length < 2 ^ 63) :
    page.slice xs =
      (if page.offset.toNat < 2 ^ 63 then page else { page with offset := 0 }).cut xs := by
  have hSkipped : page.skipped =
      (if page.offset.toNat < 2 ^ 63 then page else { page with offset := 0 }).offset.toNat := by
    rw [skipped_eq]
    split <;> rfl
  have hMax : (if page.offset.toNat < 2 ^ 63 then page else { page with offset := 0 }).maxCount =
      page.maxCount := by
    split <;> rfl
  unfold slice cut
  rw [limit?_eq, hSkipped, hMax]
  cases page.maxCount with
  | none => rfl
  | some n =>
      simp only [Option.bind_some]
      by_cases hFits : n.toNat < 2 ^ 63
      · rw [if_pos hFits]
      · rw [if_neg hFits, List.take_of_length_le]
        rw [List.length_drop]
        omega

/-- A page with an offset that does not fit with a sign shows what it asks for only where
there is nothing to show. -/
theorem slice_eq_cut_iff (page : Page) {xs : List α} (hLength : xs.length < 2 ^ 63) :
    page.slice xs = page.cut xs ↔
      page.offset.toNat < 2 ^ 63 ∨ xs = [] ∨ page.maxCount = some 0 := by
  rw [slice_eq_cut page hLength]
  by_cases hFits : page.offset.toNat < 2 ^ 63
  · rw [if_pos hFits]
    exact iff_of_true rfl (Or.inl hFits)
  · have hNothing : page.cut xs = [] := by
      have hDrop : xs.drop page.offset.toNat = [] := List.drop_eq_nil_of_le (by omega)
      unfold cut
      rw [hDrop]
      split <;> simp
    have hZero : ∀ n : UInt64, n.toNat = 0 ↔ n = 0 := fun n => UInt64.toNat_inj (b := 0)
    rw [if_neg hFits, hNothing, or_iff_right hFits]
    unfold cut
    cases page.maxCount with
    | none => simp
    | some n => simp [hZero, or_comm]

theorem slice_forall₂ {β : Type} {r : α → β → Prop} (page : Page) {xs : List α} {ys : List β}
    (h : List.Forall₂ r xs ys) : List.Forall₂ r (page.slice xs) (page.slice ys) := by
  unfold slice
  split
  · exact List.forall₂_drop _ h
  · exact List.forall₂_take _ (List.forall₂_drop _ h)

end Page

/-! ## Finders -/

namespace Finder

/-- What a finder shows on a page is a slice of what it answers without one. -/
theorem Presents.answer_page {α : Type} {c : Catalogue} {f : Finder} {items : List α}
    {view : α → Hit} {read : α → Except Fault f.Record} (h : f.Presents c items view read)
    {criterion : Option Criterion} {order : SortOrder} {full : List f.Record}
    (hFull : f.answer c criterion ⟨{}, order⟩ = .ok full) (page : Page) :
    f.answer c criterion ⟨page, order⟩ = .ok (page.slice full) := by
  rw [h.answer] at hFull ⊢
  rw [Tables.select_page]
  cases hSelect : c.tables.select f.scope f.declared criterion ⟨{}, order⟩ view items with
  | error fault =>
      rw [hSelect] at hFull
      cases hFull
  | ok found =>
      rw [hSelect] at hFull
      exact mapM_of_forall₂ (page.slice_forall₂ (forall₂_of_mapM hFull))

/-- A finder answers with no more than it looks at. -/
theorem Presents.length_answer_le {α : Type} {c : Catalogue} {f : Finder} {items : List α}
    {view : α → Hit} {read : α → Except Fault f.Record} (h : f.Presents c items view read)
    {criterion : Option Criterion} {options : Options} {records : List f.Record}
    (hAnswer : f.answer c criterion options = .ok records) :
    records.length ≤ (f.hits c).length := by
  rw [h.answer] at hAnswer
  cases hSelect : c.tables.select f.scope f.declared criterion options view items with
  | error fault =>
      rw [hSelect] at hAnswer
      cases hAnswer
  | ok found =>
      rw [hSelect] at hAnswer
      rw [← (forall₂_of_mapM hAnswer).length_eq, ← h.hits, List.length_map]
      exact Tables.length_le_of_select hSelect

end Finder

namespace Catalogue

/-- **A page is the part of the answer that it asks for, unless its offset is too great.**
In every reachable catalogue every finder answers, whatever it is asked that makes sense.
What it shows on a page is the part of that answer that the page asks for just when the
offset is below `2 ^ 63`, or when the answer is empty or nothing is asked for. From
`2 ^ 63` on the offset counts as none. -/
theorem Reachable.answers_page_iff {c : Catalogue} (h : Reachable c) {f : Finder}
    (hAsked : f.Asked c) {criterion : Option Criterion} {order : SortOrder}
    (hCompiles : f.Compiles criterion order) :
    ∃ full, f.answer c criterion ⟨{}, order⟩ = .ok full ∧ ∀ page : Page,
      (f.answer c criterion ⟨page, order⟩ = .ok (page.cut full) ↔
        page.offset.toNat < 2 ^ 63 ∨ full = [] ∨ page.maxCount = some 0) ∧
      (2 ^ 63 ≤ page.offset.toNat →
        f.answer c criterion ⟨page, order⟩ = .ok (({ page with offset := 0 } : Page).cut full)) := by
  have hSynced := h.inv.synced
  obtain ⟨_, items, view, read, hPresents⟩ := Finder.exists_presents hSynced hAsked
  obtain ⟨full, hFull⟩ := hPresents.exists_answer ⟨{}, order⟩ hCompiles
  obtain ⟨kind, hRows⟩ := f.exists_hits_length_le hSynced.sound
  have hLength : full.length < 2 ^ 63 :=
    (hPresents.length_answer_le hFull).trans_lt (hRows.trans_lt (h.numbered.length_lt kind))
  refine ⟨full, hFull, fun page => ?_⟩
  rw [hPresents.answer_page hFull page]
  refine ⟨?_, fun hGreat => ?_⟩
  · rw [Except.ok.injEq]
    exact page.slice_eq_cut_iff hLength
  · rw [page.slice_eq_cut hLength, if_neg (Nat.not_lt.2 hGreat)]

private theorem find_sample : sample.find Resource none {} = .ok [sampleResource] := by
  decide +kernel

/-- The only resource of the sample is left out by an offset of 1, but not by one of
`2 ^ 63`. -/
theorem answers_page_sample :
    Reachable sample ∧ sample.find Resource none ⟨{ offset := 1 }, .preferred .ascending⟩ = .ok [] ∧
      sample.find Resource none ⟨{ offset := 9223372036854775808 }, .preferred .ascending⟩ =
        .ok [sampleResource] := by
  obtain ⟨full, hFull, hPages⟩ :=
    Reachable.answers_page_iff reachable_sample (f := .resources) trivial
      (Finder.compiles_natural .resources .ascending)
  obtain rfl : full = [sampleResource] := Except.ok.inj (hFull.symm.trans find_sample)
  exact ⟨reachable_sample, (hPages { offset := 1 }).1.2 (Or.inl (by decide)),
    (hPages { offset := 9223372036854775808 }).2 (by decide)⟩

/-- So a page is not always the part of the answer that it asks for. -/
theorem answers_page_not_always :
    ¬ ∀ c, Reachable c → ∀ f : Finder, f.Asked c → ∀ criterion order, f.Compiles criterion order →
      ∀ page : Page, f.answer c criterion ⟨page, order⟩ =
        (f.answer c criterion ⟨{}, order⟩).map page.cut := by
  intro hAlways
  have hPage : sample.find Resource none
      ⟨{ offset := 9223372036854775808 }, .preferred .ascending⟩ = .ok [sampleResource] := by
    decide +kernel
  have hCut := hAlways sample reachable_sample .resources trivial none (.preferred .ascending)
    (Finder.compiles_natural .resources .ascending) { offset := 9223372036854775808 }
  have hNone : (Except.ok [sampleResource] : Except Fault (List Resource)) = .ok [] := by
    rw [← hPage]
    refine hCut.trans ?_
    show (sample.find Resource none {}).map _ = _
    rw [find_sample]
    rfl
  cases hNone

end Catalogue

end Shelfmark
