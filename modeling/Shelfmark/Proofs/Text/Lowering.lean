import Shelfmark.Proofs.Text.Normal
import Shelfmark.Text.Alphabetic

/-!
# Lowering and what stands around

A capital sigma is lowered to its final form at the end of a word, so what a text is lowered to
depends on what stands in front of it and behind it. A character that neither has a case nor
ignores it ends a word: nothing on the one side of it can be seen from the other. Names with a
specifier rely on this, as they are lowered in front of the mark only or as a whole.

## Main results

* `lowerFrom_append_cons` — the two sides of such a character are lowered on their own.
* `lowerFrom_mark` — the mark in front of a specifier is one.
* `isAlphabetic_of_lowercase` — what is lowered to small letters consists of letters.
* `toList_lowercase_of_ascii` — ASCII texts are lowered letter by letter.
-/

namespace Shelfmark.Text

/-! ## Ends of words -/

/-- Whether a character ends a word: it has no case, and it is not passed over. -/
def EndsWord (c : Char) : Prop := isCaseIgnorable c = false ∧ isCased c = false

instance (c : Char) : Decidable (EndsWord c) := inferInstanceAs (Decidable (_ ∧ _))

/-- What lies behind the end of a word does not count. -/
theorem startsCased_append_cons {mark : Char} (h : EndsWord mark) (cs ds : List Char) :
    startsCased (cs ++ mark :: ds) = startsCased cs := by
  unfold startsCased
  induction cs with
  | nil => simp [h.1, h.2]
  | cons c cs ih =>
    rw [List.cons_append, List.dropWhile_cons, List.dropWhile_cons]
    cases isCaseIgnorable c with
    | true => exact ih
    | false => rfl

/-- Nor does what lies in front of it count behind it. -/
theorem lowerFrom_before {mark : Char} (h : EndsWord mark) (near far cs : List Char) :
    lowerFrom (near ++ mark :: far) cs = lowerFrom near cs := by
  induction cs generalizing near with
  | nil => rfl
  | cons c cs ih =>
    have hRest : lowerFrom (c :: (near ++ mark :: far)) cs = lowerFrom (c :: near) cs :=
      ih (c :: near)
    simp only [lowerFrom, startsCased_append_cons h, hRest]

/-- The end of a word is between two texts that are lowered each on its own. -/
theorem lowerFrom_append_cons {mark : Char} (h : EndsWord mark) (hSigma : mark ≠ 'Σ')
    (before cs ds : List Char) :
    lowerFrom before (cs ++ mark :: ds) =
      lowerFrom before cs ++ (lowerChar mark ++ lowerFrom [] ds) := by
  induction cs generalizing before with
  | nil =>
    have hRest : lowerFrom (mark :: before) ds = lowerFrom [] ds := lowerFrom_before h [] before ds
    simp only [List.nil_append, lowerFrom, if_neg hSigma, hRest]
  | cons c cs ih =>
    simp only [List.cons_append, lowerFrom, startsCased_append_cons h, ih]
    split
    · rfl
    · exact (List.append_assoc ..).symm

/-- A name and its specifier are lowered each on its own. -/
theorem lowerFrom_mark (before cs ds : List Char) :
    lowerFrom before (cs ++ '#' :: ds) = lowerFrom before cs ++ '#' :: lowerFrom [] ds := by
  have hMark : EndsWord '#' := by decide +kernel
  have hLower : lowerChar '#' = ['#'] := by decide +kernel
  rw [lowerFrom_append_cons hMark (by decide), hLower]
  rfl

/-! ## Letters -/

/-- What is lowered comes from the characters of the text, one by one. -/
theorem lowerChar_subset_lowerFrom {before cs : List Char} {c : Char} (hc : c ∈ cs)
    (hSigma : c ≠ 'Σ') : lowerChar c ⊆ lowerFrom before cs := by
  induction cs generalizing before with
  | nil => cases hc
  | cons d cs ih =>
    rcases List.mem_cons.1 hc with rfl | hc
    · rw [lowerFrom, if_neg hSigma]
      exact List.subset_append_left _ _
    · rw [lowerFrom]
      split
      · exact List.subset_cons_of_subset _ (ih hc)
      · exact List.subset_append_of_subset_right _ (ih hc)

theorem sigma_of_mem_lowerFrom {before cs : List Char} (hc : 'Σ' ∈ cs) :
    'ς' ∈ lowerFrom before cs ∨ 'σ' ∈ lowerFrom before cs := by
  induction cs generalizing before with
  | nil => cases hc
  | cons d cs ih =>
    rw [lowerFrom]
    rcases List.mem_cons.1 hc with rfl | hc
    · rw [if_pos rfl]
      split <;> simp
    · split
      · exact (ih hc).imp (List.mem_cons_of_mem _) (List.mem_cons_of_mem _)
      · exact (ih hc).imp (List.mem_append_right _) (List.mem_append_right _)

/-- The runs of code points that are mapped to small letters hold letters only. -/
private theorem alphabetic_of_lowered_run :
    (lowerRuns.all fun r => Nat.blt 0x7A r.target ||
      (List.range (r.last + 1 - r.first)).all fun k => inRanges alphabeticRanges (r.first + k)) =
      true := by
  decide +kernel

/-- A character is a letter if it is one in lower case; besides the capitals there is the sign
for Kelvin. -/
theorem isAlphabetic_of_lowerChar {c : Char}
    (h : ∀ d ∈ lowerChar c, 0x61 ≤ d.toNat ∧ d.toNat ≤ 0x7A) : isAlphabetic c = true := by
  have hDot : c ≠ 'İ' := by
    rintro rfl
    exact absurd (h '\u0307' (by decide +kernel)).2 (by decide)
  obtain ⟨hLow, hHigh⟩ := h (Char.ofNat (mapRuns lowerRuns c.toNat)) (by simp [lowerChar, hDot])
  have hLowered : 0x61 ≤ mapRuns lowerRuns c.toNat ∧ mapRuns lowerRuns c.toNat ≤ 0x7A := by
    by_cases hValid : (mapRuns lowerRuns c.toNat).isValidChar
    · rw [Char.ofNat, dif_pos hValid] at hLow hHigh
      exact ⟨hLow, hHigh⟩
    · rw [Char.ofNat, dif_neg hValid] at hLow
      exact absurd hLow (by decide)
  unfold isAlphabetic
  rcases mapRuns_cases lowerRuns c.toNat with hSelf | ⟨r, hr, ⟨hFirst, hLast, -⟩, hEq⟩
  · have hSmall : ∀ n < 0x7B, 0x61 ≤ n → inRanges alphabeticRanges n = true := by decide +kernel
    rw [hSelf] at hLowered
    exact hSmall _ (Nat.lt_succ_of_le hLowered.2) hLowered.1
  · have hRun := List.all_eq_true.1 alphabetic_of_lowered_run r hr
    rw [Bool.or_eq_true, Nat.blt_eq] at hRun
    have hLetters := List.all_eq_true.1 (hRun.resolve_left (by omega)) (c.toNat - r.first)
      (List.mem_range.2 (by omega))
    rwa [Nat.add_sub_cancel' hFirst] at hLetters

/-- What is lowered to small letters consists of letters, capital or small. -/
theorem isAlphabetic_of_lowercase {s : String}
    (h : ∀ d ∈ (lowercase s).toList, 0x61 ≤ d.toNat ∧ d.toNat ≤ 0x7A) :
    ∀ c ∈ s.toList, isAlphabetic c = true := by
  intro c hc
  rw [toList_lowercase] at h
  have hSigma : c ≠ 'Σ' := by
    rintro rfl
    have hSigma : 'ς' ∈ lowerFrom [] s.toList ∨ 'σ' ∈ lowerFrom [] s.toList :=
      sigma_of_mem_lowerFrom hc
    rcases hSigma with hFinal | hInner
    · exact absurd (h _ hFinal).2 (by decide)
    · exact absurd (h _ hInner).2 (by decide)
  exact isAlphabetic_of_lowerChar fun d hd => h d (lowerChar_subset_lowerFrom hc hSigma hd)

/-! ## ASCII texts -/

theorem lowerChar_of_ascii {c : Char} (h : c.toNat < 128) : lowerChar c = [c.toLower] := by
  have hAll : ∀ n < 128, lowerChar (Char.ofNat n) = [(Char.ofNat n).toLower] := by decide +kernel
  have hLowered := hAll c.toNat h
  rwa [Char.ofNat_toNat] at hLowered

theorem lowerFrom_of_ascii {before cs : List Char} (h : ∀ c ∈ cs, c.toNat < 128) :
    lowerFrom before cs = cs.map Char.toLower := by
  induction cs generalizing before with
  | nil => rfl
  | cons c cs ih =>
    have hHead : c.toNat < 128 := h c List.mem_cons_self
    have hSigma : c ≠ 'Σ' := by
      rintro rfl
      exact absurd hHead (by decide)
    rw [lowerFrom, if_neg hSigma, lowerChar_of_ascii hHead,
      ih fun d hd => h d (List.mem_cons_of_mem _ hd)]
    rfl

/-- ASCII texts are lowered letter by letter. -/
theorem toList_lowercase_of_ascii {s : String} (h : ∀ c ∈ s.toList, c.toNat < 128) :
    (lowercase s).toList = s.toList.map Char.toLower := by
  rw [toList_lowercase, lowerFrom_of_ascii h]

end Shelfmark.Text
