import Mathlib.Data.List.TakeWhile
import Shelfmark.Store.CellOrder

/-!
# Texts that differ in case only

The collation of names folds ASCII letters. It reads characters up to the first NUL
character, and for what stands behind it looks at the length alone: `EqualFolded` says
so, and `compareFolded_eq_iff` that texts compare equal just then. For texts without NUL
characters this is equality up to the case of ASCII letters: `equalFolded_iff`.
-/

namespace Shelfmark

open Shelfmark.Text

/-- The characters before the first NUL character, ASCII letters in lower case. -/
def foldedStart (cs : List Char) : List Char :=
  (cs.takeWhile fun c => c != '\x00').map Char.toLower

/-- Equality without regard to the case of ASCII letters, as the collation of names has
it. -/
def EqualFolded (s t : String) : Prop :=
  foldedStart s.toList = foldedStart t.toList ∧ byteLength s.toList = byteLength t.toList

theorem EqualFolded.refl (s : String) : EqualFolded s s := ⟨rfl, rfl⟩

/-! ## Lower case of one character -/

private theorem toNat_toLower (c : Char) :
    c.toLower.toNat = if 65 ≤ c.toNat ∧ c.toNat ≤ 90 then c.toNat + 32 else c.toNat := by
  have hRange : (c.val ≥ 'A'.val ∧ c.val ≤ 'Z'.val) ↔ 65 ≤ c.toNat ∧ c.toNat ≤ 90 := by
    rw [ge_iff_le, UInt32.le_iff_toNat_le, UInt32.le_iff_toNat_le]
    exact Iff.rfl
  unfold Char.toLower
  split
  · rename_i h
    rw [if_pos (hRange.1 h)]
    have hHigh : c.val.toNat ≤ 90 := (hRange.1 h).2
    show (c.val + 32).toNat = c.val.toNat + 32
    rw [UInt32.toNat_add, show (32 : UInt32).toNat = 32 from rfl]
    omega
  · rename_i h
    rw [if_neg fun hIn => h (hRange.2 hIn)]

/-- Folding keeps the size of a character. -/
theorem utf8Size_toLower (c : Char) : c.toLower.utf8Size = c.utf8Size := by
  by_cases h : 65 ≤ c.toNat ∧ c.toNat ≤ 90
  · have hLower := toNat_toLower c
    rw [if_pos h] at hLower
    have hSmall : ∀ d : Char, d.toNat ≤ 127 → d.utf8Size = 1 := fun d hd =>
      Char.utf8Size_eq_one_iff.2 (UInt32.le_iff_toNat_le.2 hd)
    rw [hSmall _ (by omega), hSmall _ (by omega)]
  · have hSame : c.toLower = c := Char.toNat_inj.1 (by rw [toNat_toLower, if_neg h])
    rw [hSame]

/-- Only a NUL character folds to one. -/
theorem toNat_toLower_eq_zero {c : Char} : c.toLower.toNat = 0 ↔ c = '\x00' := by
  rw [toNat_toLower, ← Char.toNat_inj]
  have : '\x00'.toNat = 0 := rfl
  split <;> omega

/-! ## Folded texts -/

private theorem foldedStart_cons (c : Char) (cs : List Char) :
    foldedStart (c :: cs) = if c = '\x00' then [] else c.toLower :: foldedStart cs := by
  unfold foldedStart
  by_cases h : c = '\x00' <;> simp [h]

private theorem foldedStart_ne {a b : Char} (h : a.toLower ≠ b.toLower) (as bs : List Char) :
    foldedStart (a :: as) ≠ foldedStart (b :: bs) := by
  rw [foldedStart_cons, foldedStart_cons]
  by_cases ha : a = '\x00'
  · have hb : b ≠ '\x00' := fun hb => h (ha.trans hb.symm ▸ rfl)
    simp [ha, hb]
  · by_cases hb : b = '\x00' <;> simp [ha, hb, h]

theorem compareFolded_eq_iff (as bs : List Char) :
    compareFolded as bs = .eq ↔
      foldedStart as = foldedStart bs ∧ byteLength as = byteLength bs := by
  induction as generalizing bs with
  | nil =>
      cases bs with
      | nil => simp [compareFolded]
      | cons b bs =>
          have := b.utf8Size_pos
          simp [compareFolded]
          omega
  | cons a as ih =>
      cases bs with
      | nil =>
          have := a.utf8Size_pos
          simp [compareFolded]
          omega
      | cons b bs =>
          by_cases hSame : a.toLower = b.toLower
          · have hSize : a.utf8Size = b.utf8Size := by
              rw [← utf8Size_toLower a, hSame, utf8Size_toLower]
            have hNul : a = '\x00' ↔ b = '\x00' := by
              rw [← toNat_toLower_eq_zero, hSame, toNat_toLower_eq_zero]
            simp only [compareFolded, foldedStart_cons, hSame, Nat.lt_irrefl, if_false,
              toNat_toLower_eq_zero]
            by_cases hb : b = '\x00'
            · simp [hb, hNul.2 hb]
            · simp [hb, mt hNul.1 hb, ih, hSize]
          · have hOrder : compareFolded (a :: as) (b :: bs) ≠ .eq := by
              rw [compareFolded]
              rcases Nat.lt_or_gt_of_ne fun h => hSame (Char.toNat_inj.1 h) with hLt | hGt
              · simp [hLt]
              · simp [hGt, Nat.lt_asymm hGt]
            exact iff_of_false hOrder fun h => foldedStart_ne hSame as bs h.1

private theorem byteLength_map_toLower (cs : List Char) :
    byteLength (cs.map Char.toLower) = byteLength cs := by
  induction cs with
  | nil => rfl
  | cons c cs ih => simp [utf8Size_toLower, ih]

private theorem foldedStart_of_notMem {cs : List Char} (h : '\x00' ∉ cs) :
    foldedStart cs = cs.map Char.toLower := by
  unfold foldedStart
  rw [List.takeWhile_eq_self_iff.2]
  intro c hc
  simpa using fun hNul : c = '\x00' => h (hNul ▸ hc)

/-- Texts without NUL characters are equal up to the case of ASCII letters. -/
theorem equalFolded_iff {s t : String} (hs : '\x00' ∉ s.toList) (ht : '\x00' ∉ t.toList) :
    EqualFolded s t ↔ s.toList.map Char.toLower = t.toList.map Char.toLower := by
  rw [EqualFolded, foldedStart_of_notMem hs, foldedStart_of_notMem ht]
  refine and_iff_left_of_imp fun h => ?_
  rw [← byteLength_map_toLower s.toList, h, byteLength_map_toLower]

end Shelfmark
