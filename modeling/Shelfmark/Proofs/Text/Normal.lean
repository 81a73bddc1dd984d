import Mathlib.Data.List.DropRight
import Shelfmark.Record.Role

/-!
# The normal form of identifiers and words

Identifiers are compared in lower case and without the blanks around them, and what
is stored is brought into that form more than once: by the operation that takes the
identifier and by the field that stores it. This module shows that the second time
changes nothing.

Everything about letters comes from one property of the table of lower-case forms,
`CaseRun.isSettled`: what a run maps to is mapped to itself, and blanks neither
change nor arise. It is evaluated once, in `lowerRuns_settled`.

## Main results

* `normalize_normalize` — a normal form is its own normal form.
* `normalize_of_lowercase_eq` — a text whose lower-case form is a normal form has no
  blanks around it.
* `lowercase_eq_normalize_iff` — lowering a text gives its normal form just when the text
  has no blanks around it.
-/

namespace Shelfmark.Text

/-! ## The table of lower-case forms -/

/-- Closed ranges that hold every blank. -/
def blankRanges : List (Nat × Nat) :=
  [(0x9, 0xD), (0x20, 0x20), (0x85, 0x85), (0xA0, 0xA0), (0x1680, 0x1680), (0x2000, 0x200A),
    (0x2028, 0x2029), (0x202F, 0x202F), (0x205F, 0x205F), (0x3000, 0x3000)]

/-- Whether a code point is one that the run maps. -/
def CaseRun.Holds (r : CaseRun) (n : Nat) : Prop :=
  r.first ≤ n ∧ n ≤ r.last ∧ (n - r.first) % r.step = 0

/-- The greatest code point that the run maps to. -/
def CaseRun.top (r : CaseRun) : Nat := r.target + (r.last - r.first)

/-- Whether nothing that `r` maps to is mapped by `s`: the two lie apart, or `s` maps
every second code point and `r` maps to those between them. -/
def CaseRun.misses (r s : CaseRun) : Bool :=
  s.last.blt r.target || r.top.blt s.first ||
    (s.step == 2 && (r.target + s.first) % 2 == 1 && (r.step == 2 || r.first == r.last))

/-- Whether the run neither maps nor yields a code point of a range. -/
def CaseRun.avoids (r : CaseRun) (range : Nat × Nat) : Bool :=
  (r.last.blt range.1 || range.2.blt r.first) && (r.top.blt range.1 || range.2.blt r.target)

/-- Whether lowering is finished after the run: it yields characters that are no
blanks and are mapped to themselves. -/
def CaseRun.isSettled (r : CaseRun) : Bool :=
  lowerRuns.all r.misses && blankRanges.all r.avoids && r.avoids (0x130, 0x130) &&
    (r.top.blt 0xD800 || (Nat.blt 0xDFFF r.target && r.top.blt 0x110000))

theorem lowerRuns_settled : lowerRuns.all CaseRun.isSettled = true := by decide +kernel

/-- A code point that is not mapped to itself lies in a run. -/
theorem mapRuns_cases (runs : List CaseRun) (n : Nat) :
    mapRuns runs n = n ∨
      ∃ r ∈ runs, r.Holds n ∧ mapRuns runs n = r.target + (n - r.first) := by
  induction runs with
  | nil => exact Or.inl rfl
  | cons r rest ih =>
      unfold mapRuns
      split
      · exact Or.inl rfl
      · split
        · rename_i hBelow hIn
          simp only [Bool.and_eq_true, decide_eq_true_eq, beq_iff_eq] at hIn
          refine Or.inr ⟨r, by simp, ⟨by omega, hIn.1, hIn.2⟩, rfl⟩
        · rcases ih with hSelf | ⟨s, hMem, hHolds, hEq⟩
          · exact Or.inl hSelf
          · exact Or.inr ⟨s, by simp [hMem], hHolds, hEq⟩

private theorem settled_of_mem {r : CaseRun} (h : r ∈ lowerRuns) :
    (∀ s ∈ lowerRuns, r.misses s = true) ∧ (∀ b ∈ blankRanges, r.avoids b = true) ∧
      r.avoids (0x130, 0x130) = true ∧
      (r.top < 0xD800 ∨ (0xDFFF < r.target ∧ r.top < 0x110000)) := by
  have hAll := List.all_eq_true.1 lowerRuns_settled r h
  simp only [CaseRun.isSettled, Bool.and_eq_true, Bool.or_eq_true, Nat.blt_eq,
    List.all_eq_true] at hAll
  exact ⟨hAll.1.1.1, hAll.1.1.2, hAll.1.2, hAll.2⟩

private theorem le_top {r : CaseRun} {n : Nat} (h : r.Holds n) :
    r.target + (n - r.first) ≤ r.top := by
  obtain ⟨hFirst, hLast, _⟩ := h
  unfold CaseRun.top
  omega

private theorem not_holds_of_misses {r s : CaseRun} {n : Nat} (hMiss : r.misses s = true)
    (hr : r.Holds n) : ¬ s.Holds (r.target + (n - r.first)) := by
  rintro ⟨hFirst, hLast, hStep⟩
  have hTop := le_top hr
  obtain ⟨hrFirst, hrLast, hrStep⟩ := hr
  simp only [CaseRun.misses, Bool.or_eq_true, Bool.and_eq_true, Nat.blt_eq, beq_iff_eq] at hMiss
  rcases hMiss with (hBelow | hAbove) | ⟨⟨hTwo, hOdd⟩, hEven⟩
  · omega
  · omega
  · rw [hTwo] at hStep
    rcases hEven with hEven | hOne
    · rw [hEven] at hrStep
      omega
    · omega

/-- Lowering a code point twice is lowering it once. -/
theorem mapRuns_lowered (n : Nat) :
    mapRuns lowerRuns (mapRuns lowerRuns n) = mapRuns lowerRuns n := by
  rcases mapRuns_cases lowerRuns n with hSelf | ⟨r, hr, hHolds, hEq⟩
  · rw [hSelf, hSelf]
  · rw [hEq]
    rcases mapRuns_cases lowerRuns (r.target + (n - r.first)) with hSelf | ⟨s, hs, hHolds', _⟩
    · exact hSelf
    · exact absurd hHolds' (not_holds_of_misses ((settled_of_mem hr).1 s hs) hHolds)

/-! ## Characters that lowering leaves alone -/

/-- A character that stays as it is when a text is lowered. -/
def IsLowered (c : Char) : Prop := c ≠ 'Σ' ∧ lowerChar c = [c]

instance (c : Char) : Decidable (IsLowered c) := by
  unfold IsLowered
  infer_instance

/-- A blank lies in one of the ranges that hold every blank. -/
theorem exists_blankRange {c : Char} (h : isBlank c = true) :
    ∃ b ∈ blankRanges, b.1 ≤ c.toNat ∧ c.toNat ≤ b.2 := by
  simp only [isBlank, Bool.or_eq_true, Bool.and_eq_true, decide_eq_true_eq, beq_iff_eq] at h
  simp only [blankRanges, List.mem_cons, List.not_mem_nil, or_false, exists_eq_or_imp,
    exists_eq_left]
  omega

private theorem toNat_ofNat {n : Nat} (h : n < 0xD800 ∨ (0xDFFF < n ∧ n < 0x110000)) :
    (Char.ofNat n).toNat = n := by
  have hValid : n.isValidChar := by
    rcases h with h | h
    · exact Or.inl h
    · exact Or.inr h
  rw [Char.ofNat, dif_pos hValid]
  rfl

/-- A code point that the table maps is no blank and is mapped to a lowered character
that is no blank either. -/
private theorem lowered_of_holds {c : Char} (hDot : c ≠ 'İ') {r : CaseRun} (hr : r ∈ lowerRuns)
    (hHolds : r.Holds c.toNat)
    (hEq : mapRuns lowerRuns c.toNat = r.target + (c.toNat - r.first)) :
    isBlank c = false ∧
      ∃ d, lowerChar c = [d] ∧ IsLowered d ∧ isBlank d = false := by
  obtain ⟨_, hBlanks, hDotted, hValid⟩ := settled_of_mem hr
  have hTop := le_top hHolds
  have hAvoids : ∀ b ∈ blankRanges,
      (r.last < b.1 ∨ b.2 < r.first) ∧ (r.top < b.1 ∨ b.2 < r.target) := by
    intro b hb
    simpa [CaseRun.avoids] using hBlanks b hb
  obtain ⟨d, hd⟩ : ∃ d, d = Char.ofNat (mapRuns lowerRuns c.toNat) := ⟨_, rfl⟩
  have hNat : d.toNat = mapRuns lowerRuns c.toNat := by
    rw [hd, hEq]
    exact toNat_ofNat (by omega)
  have hFixed : mapRuns lowerRuns d.toNat = d.toNat := by
    rw [hNat]
    exact mapRuns_lowered c.toNat
  refine ⟨?_, d, by simp [lowerChar, hDot, hd], ⟨?_, ?_⟩, ?_⟩
  · refine Bool.eq_false_iff.2 fun hBlank => ?_
    obtain ⟨b, hb, hLow, hHigh⟩ := exists_blankRange hBlank
    have hApart := (hAvoids b hb).1
    obtain ⟨hFirst, hLast, _⟩ := hHolds
    omega
  · intro hSigma
    rw [hSigma] at hFixed
    exact absurd hFixed (by decide +kernel)
  · have hNotDot : d ≠ 'İ' := by
      intro h
      have hDotNat : d.toNat = 0x130 := by rw [h]; rfl
      simp only [CaseRun.avoids, Bool.and_eq_true, Bool.or_eq_true, Nat.blt_eq] at hDotted
      omega
    simp [lowerChar, hNotDot, hFixed]
  · refine Bool.eq_false_iff.2 fun hBlank => ?_
    obtain ⟨b, hb, hLow, hHigh⟩ := exists_blankRange hBlank
    have hApart := (hAvoids b hb).2
    omega

/-- Lowering a character other than a capital sigma yields lowered characters, and
blanks only from a blank. -/
theorem lowerChar_lowered {c : Char} (h : c ≠ 'Σ') :
    lowerChar c ≠ [] ∧ ∀ d ∈ lowerChar c, IsLowered d ∧ isBlank d = isBlank c := by
  by_cases hDot : c = 'İ'
  · subst hDot
    refine ⟨by decide, ?_⟩
    intro d hd
    have hCases : d = 'i' ∨ d = '\u0307' := by simpa [lowerChar] using hd
    rcases hCases with rfl | rfl
    · decide +kernel
    · decide +kernel
  · rcases mapRuns_cases lowerRuns c.toNat with hSelf | ⟨r, hr, hHolds, hEq⟩
    · have hLower : lowerChar c = [c] := by simp [lowerChar, hDot, hSelf]
      refine ⟨by simp [hLower], ?_⟩
      intro d hd
      have hd' : d = c := by simpa [hLower] using hd
      rw [hd']
      exact ⟨⟨h, hLower⟩, rfl⟩
    · obtain ⟨hBlank, e, hLower, hLowered, hNotBlank⟩ := lowered_of_holds hDot hr hHolds hEq
      refine ⟨by simp [hLower], ?_⟩
      intro d hd
      have hd' : d = e := by simpa [hLower] using hd
      rw [hd']
      exact ⟨hLowered, hNotBlank.trans hBlank.symm⟩

/-! ## Lowering a text -/

/-- The part of the lowered text that comes from its first character. -/
theorem lowerFrom_cons (before : List Char) (c : Char) (cs : List Char) :
    ∃ head, lowerFrom before (c :: cs) = head ++ lowerFrom (c :: before) cs ∧ head ≠ [] ∧
      ∀ d ∈ head, IsLowered d ∧ isBlank d = isBlank c := by
  by_cases h : c = 'Σ'
  · subst h
    refine ⟨[if startsCased before && !startsCased cs then 'ς' else 'σ'],
      by simp [lowerFrom], by simp, ?_⟩
    intro d hd
    have hd' := List.mem_singleton.1 hd
    split at hd'
    · subst hd'
      decide +kernel
    · subst hd'
      decide +kernel
  · obtain ⟨hNe, hLowered⟩ := lowerChar_lowered h
    exact ⟨lowerChar c, by simp [lowerFrom, h], hNe, hLowered⟩

theorem lowered_of_mem_lowerFrom {before cs : List Char} {d : Char}
    (h : d ∈ lowerFrom before cs) : IsLowered d := by
  induction cs generalizing before with
  | nil => simp [lowerFrom] at h
  | cons c cs ih =>
      obtain ⟨head, hEq, _, hLowered⟩ := lowerFrom_cons before c cs
      rw [hEq] at h
      rcases List.mem_append.1 h with hHead | hTail
      · exact (hLowered d hHead).1
      · exact ih hTail

/-- Lowered characters stay as they are. -/
theorem lowerFrom_of_lowered {before cs : List Char} (h : ∀ c ∈ cs, IsLowered c) :
    lowerFrom before cs = cs := by
  induction cs generalizing before with
  | nil => rfl
  | cons c cs ih =>
      obtain ⟨hSigma, hLower⟩ := h c (by simp)
      have hTail : lowerFrom (c :: before) cs = cs := ih fun d hd => h d (by simp [hd])
      simp [lowerFrom, hSigma, hLower, hTail]

/-! ## Blanks at the ends -/

/-- Characters without a blank at either end. -/
def Trimmed (cs : List Char) : Prop :=
  (∀ c, cs.head? = some c → isBlank c = false) ∧
    ∀ c, cs.getLast? = some c → isBlank c = false

private theorem isBlank_of_head?_dropWhile {cs : List Char} {c : Char}
    (h : (cs.dropWhile isBlank).head? = some c) : isBlank c = false := by
  have hHead := List.head?_dropWhile_not isBlank cs
  rw [h] at hHead
  exact hHead

theorem trimmed_trimChars (cs : List Char) : Trimmed (trimChars cs) := by
  constructor
  · intro c hc
    have hPrefix : trimChars cs <+: cs.dropWhile isBlank := List.rdropWhile_prefix _ _
    obtain ⟨rest, hRest⟩ := hPrefix
    have hHead : (cs.dropWhile isBlank).head? = some c := by
      rw [← hRest, List.head?_append, hc]
      rfl
    exact isBlank_of_head?_dropWhile hHead
  · intro c hc
    have hHead : ((cs.dropWhile isBlank).reverse.dropWhile isBlank).head? = some c := by
      rw [← List.getLast?_reverse]
      exact hc
    exact isBlank_of_head?_dropWhile hHead

private theorem dropWhile_of_head? {cs : List Char}
    (h : ∀ c, cs.head? = some c → isBlank c = false) : cs.dropWhile isBlank = cs := by
  cases cs with
  | nil => rfl
  | cons c cs => simp [h c rfl]

theorem trimChars_of_trimmed {cs : List Char} (h : Trimmed cs) : trimChars cs = cs := by
  have hLast : cs.reverse.dropWhile isBlank = cs.reverse := by
    apply dropWhile_of_head?
    intro c hc
    exact h.2 c (by rw [List.getLast?_eq_head?_reverse, hc])
  rw [trimChars, dropWhile_of_head? h.1, hLast, List.reverse_reverse]

private theorem lowerFrom_eq_nil {before cs : List Char} (h : lowerFrom before cs = []) :
    cs = [] := by
  cases cs with
  | nil => rfl
  | cons c cs =>
      obtain ⟨head, hEq, hNe, _⟩ := lowerFrom_cons before c cs
      rw [hEq] at h
      exact absurd (List.append_eq_nil_iff.1 h).1 hNe

/-- Lowering keeps whether the first character is a blank. -/
theorem isBlank_head?_lowerFrom (before cs : List Char) :
    (lowerFrom before cs).head?.map isBlank = cs.head?.map isBlank := by
  cases cs with
  | nil => rfl
  | cons c cs =>
      obtain ⟨head, hEq, hNe, hLowered⟩ := lowerFrom_cons before c cs
      cases head with
      | nil => exact absurd rfl hNe
      | cons d rest => simp [hEq, (hLowered d (by simp)).2]

/-- Lowering keeps whether the last character is a blank. -/
theorem isBlank_getLast?_lowerFrom (before cs : List Char) :
    (lowerFrom before cs).getLast?.map isBlank = cs.getLast?.map isBlank := by
  induction cs generalizing before with
  | nil => rfl
  | cons c cs ih =>
      obtain ⟨head, hEq, hNe, hLowered⟩ := lowerFrom_cons before c cs
      rw [hEq, List.getLast?_append]
      cases hTail : (lowerFrom (c :: before) cs).getLast? with
      | some d =>
          have hCons : cs ≠ [] := by
            rintro rfl
            simp [lowerFrom] at hTail
          obtain ⟨x, xs, rfl⟩ := List.exists_cons_of_ne_nil hCons
          rw [List.getLast?_cons_cons, ← ih (c :: before), hTail]
          rfl
      | none =>
          have hNil := lowerFrom_eq_nil (List.getLast?_eq_none_iff.1 hTail)
          subst hNil
          have hLast := (hLowered _ (List.getLast_mem hNe)).2
          simp [List.getLast?_eq_some_getLast hNe, hLast]

theorem trimmed_lowerFrom_iff (before cs : List Char) :
    Trimmed (lowerFrom before cs) ↔ Trimmed cs := by
  have hIff : ∀ o : Option Char,
      (∀ c, o = some c → isBlank c = false) ↔ o.map isBlank ≠ some true := by
    intro o
    cases o <;> simp
  unfold Trimmed
  rw [hIff, hIff, hIff, hIff, isBlank_head?_lowerFrom, isBlank_getLast?_lowerFrom]

end Shelfmark.Text

namespace Shelfmark

open Shelfmark.Text

/-! ## Normal forms -/

theorem toList_normalize (s : String) :
    (normalize s).toList = lowerFrom [] (trimChars s.toList) := by
  simp [normalize, lowercase, trim]

theorem toList_lowercase (s : String) : (lowercase s).toList = lowerFrom [] s.toList := by
  simp [lowercase]

/-- A text of lowered characters without blanks at its ends is in normal form. -/
theorem normalize_eq_self {s : String} (hTrimmed : Trimmed s.toList)
    (hLowered : ∀ c ∈ s.toList, IsLowered c) : normalize s = s := by
  rw [← String.toList_inj, toList_normalize, trimChars_of_trimmed hTrimmed,
    lowerFrom_of_lowered hLowered]

/-- **A normal form is its own normal form.** -/
@[simp] theorem normalize_normalize (s : String) : normalize (normalize s) = normalize s := by
  apply normalize_eq_self
  · rw [toList_normalize, trimmed_lowerFrom_iff]
    exact trimmed_trimChars s.toList
  · intro c hc
    rw [toList_normalize] at hc
    exact lowered_of_mem_lowerFrom hc

/-- A text whose lower-case form is a normal form has no blanks at its ends. -/
theorem normalize_of_lowercase_eq {s name : String} (h : lowercase s = normalize name) :
    normalize s = lowercase s := by
  have hTrimmed : Trimmed (lowercase s).toList := by
    rw [h, toList_normalize, trimmed_lowerFrom_iff]
    exact trimmed_trimChars name.toList
  rw [toList_lowercase, trimmed_lowerFrom_iff] at hTrimmed
  rw [← String.toList_inj, toList_normalize, toList_lowercase, trimChars_of_trimmed hTrimmed]

/-- Lowering is all there is to the normal form of a text without blanks at its ends. -/
theorem lowercase_eq_normalize_iff {s : String} : lowercase s = normalize s ↔ trim s = s := by
  constructor
  · intro h
    have hTrimmed : Trimmed (lowercase s).toList := by
      rw [h, toList_normalize, trimmed_lowerFrom_iff]
      exact trimmed_trimChars s.toList
    rw [toList_lowercase, trimmed_lowerFrom_iff] at hTrimmed
    rw [trim, trimChars_of_trimmed hTrimmed, String.ofList_toList]
  · intro h
    rw [normalize, h]

end Shelfmark
