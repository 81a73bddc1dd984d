import Mathlib.Data.List.Forall2
import Mathlib.Data.List.Nodup

/-!
# Answers and faults

An operation gives an answer or a fault. Converting an answer keeps faults as they are,
and asking for the answers of many items gives a fault just when one of them has one.

A look-up by key answers with the item that has the key, where no two items have one.
-/

namespace Shelfmark

variable {α β ε : Type}

/-! ## A converted answer -/

/-- A converted answer comes from an answer. -/
theorem exists_of_map_ok {answer : Except ε α} {f : α → β} {b : β}
    (h : answer.map f = .ok b) : ∃ a, answer = .ok a ∧ f a = b := by
  cases answer with
  | error _ => cases h
  | ok a =>
      cases h
      exact ⟨a, rfl, rfl⟩

/-- A converted answer fails as the answer does. -/
theorem error_of_map_error {answer : Except ε α} {f : α → β} {e : ε}
    (h : answer.map f = .error e) : answer = .error e := by
  cases answer with
  | error _ =>
      cases h
      rfl
  | ok _ => cases h

/-! ## An answer for each item -/

/-- Where every item has an answer, the answers stand in the order of the items. -/
theorem forall₂_of_mapM {f : α → Except ε β} {xs : List α} {ys : List β}
    (h : xs.mapM f = .ok ys) : List.Forall₂ (fun x y => f x = .ok y) xs ys := by
  induction xs generalizing ys with
  | nil =>
      cases h
      exact .nil
  | cons x xs ih =>
      rw [List.mapM_cons] at h
      cases hHead : f x with
      | error e =>
          rw [hHead] at h
          cases h
      | ok y =>
          cases hRest : xs.mapM f with
          | error e =>
              rw [hHead, hRest] at h
              cases h
          | ok rest =>
              rw [hHead, hRest] at h
              cases h
              exact .cons hHead (ih hRest)

/-- Items that all have an answer have answers together. -/
theorem exists_mapM_eq_ok {f : α → Except ε β} {xs : List α} (h : ∀ x ∈ xs, ∃ y, f x = .ok y) :
    ∃ ys, xs.mapM f = .ok ys := by
  induction xs with
  | nil => exact ⟨[], rfl⟩
  | cons x xs ih =>
      obtain ⟨y, hHead⟩ := h x (by simp)
      obtain ⟨ys, hRest⟩ := ih fun z hz => h z (by simp [hz])
      exact ⟨y :: ys, by rw [List.mapM_cons, hHead, hRest]; rfl⟩

/-- Every answer is that of an item. -/
theorem exists_of_mem_mapM {f : α → Except ε β} {xs : List α} {ys : List β}
    (h : xs.mapM f = .ok ys) {y : β} (hy : y ∈ ys) : ∃ x ∈ xs, f x = .ok y := by
  have hAll := forall₂_of_mapM h
  clear h
  induction hAll with
  | nil => cases hy
  | cons hHead _ ih =>
      rcases List.mem_cons.1 hy with rfl | hRest
      · exact ⟨_, by simp, hHead⟩
      · obtain ⟨x, hx, hOk⟩ := ih hRest
        exact ⟨x, by simp [hx], hOk⟩

/-- Every item has its answer. -/
theorem exists_answer_of_mem {f : α → Except ε β} {xs : List α} {ys : List β}
    (h : xs.mapM f = .ok ys) {x : α} (hx : x ∈ xs) : ∃ y ∈ ys, f x = .ok y := by
  have hAll := forall₂_of_mapM h
  clear h
  induction hAll with
  | nil => cases hx
  | cons hHead _ ih =>
      rcases List.mem_cons.1 hx with rfl | hRest
      · exact ⟨_, by simp, hHead⟩
      · obtain ⟨y, hy, hOk⟩ := ih hRest
        exact ⟨y, by simp [hy], hOk⟩

/-- If some item has no answer, the fault is that of an item. -/
theorem exists_of_mapM_error {f : α → Except ε β} {xs : List α} {e : ε}
    (h : xs.mapM f = .error e) : ∃ x ∈ xs, f x = .error e := by
  induction xs with
  | nil => cases h
  | cons x xs ih =>
      rw [List.mapM_cons] at h
      cases hHead : f x with
      | error e' =>
          rw [hHead] at h
          cases h
          exact ⟨x, by simp, hHead⟩
      | ok y =>
          cases hRest : xs.mapM f with
          | error e' =>
              rw [hHead, hRest] at h
              cases h
              obtain ⟨z, hz, hFault⟩ := ih hRest
              exact ⟨z, by simp [hz], hFault⟩
          | ok rest =>
              rw [hHead, hRest] at h
              cases h

/-- Items and answers that match one by one are asked and answered together. -/
theorem mapM_of_forall₂ {f : α → Except ε β} {xs : List α} {ys : List β}
    (h : List.Forall₂ (fun x y => f x = .ok y) xs ys) : xs.mapM f = .ok ys := by
  induction h with
  | nil => rfl
  | cons hHead _ ih =>
      rw [List.mapM_cons, hHead, ih]
      rfl

/-- Converting all answers is asking for the converted ones. -/
theorem map_mapM {γ : Type} {f : α → Except ε β} {g : β → γ} (xs : List α) :
    (xs.mapM f).map (List.map g) = xs.mapM fun x => (f x).map g := by
  induction xs with
  | nil => rfl
  | cons x xs ih =>
      rw [List.mapM_cons, List.mapM_cons, ← ih]
      cases f x with
      | error _ => rfl
      | ok y => cases xs.mapM f <;> rfl

/-- Where every item has an answer, asking on can be done item by item. -/
theorem bind_mapM {γ : Type} {f : α → Except ε β} {g : β → Except ε γ} {xs : List α}
    (h : ∀ x ∈ xs, ∃ y, f x = .ok y) :
    (xs.mapM f).bind (List.mapM g) = xs.mapM fun x => (f x).bind g := by
  induction xs with
  | nil => rfl
  | cons x xs ih =>
      obtain ⟨y, hHead⟩ := h x (by simp)
      obtain ⟨ys, hRest⟩ : ∃ ys, xs.mapM f = .ok ys :=
        exists_mapM_eq_ok fun z hz => h z (by simp [hz])
      have hTail := ih fun z hz => h z (by simp [hz])
      rw [hRest] at hTail
      rw [List.mapM_cons, List.mapM_cons, hHead, hRest, ← hTail]
      exact List.mapM_cons

/-! ## Look-ups by key -/

/-- Where keys are not repeated, an item is found under its key and under no other. -/
theorem find?_key_iff {xs : List α} {key : α → String} (hNodup : (xs.map key).Nodup)
    {k : String} {x : α} : xs.find? (fun y => key y = k) = some x ↔ x ∈ xs ∧ key x = k := by
  constructor
  · intro h
    exact ⟨List.mem_of_find?_eq_some h, by simpa using List.find?_some h⟩
  · rintro ⟨hx, rfl⟩
    cases hFind : xs.find? fun y => key y = key x with
    | none => simpa using List.find?_eq_none.1 hFind x hx
    | some y =>
        have hKey : key y = key x := by simpa using List.find?_some hFind
        rw [List.inj_on_of_nodup_map hNodup (List.mem_of_find?_eq_some hFind) hx hKey]

private theorem lookup_mem [BEq α] [LawfulBEq α] {l : List (α × β)} {a : α} {b : β}
    (h : l.lookup a = some b) : (a, b) ∈ l := by
  induction l with
  | nil => cases h
  | cons p l ih =>
      rw [List.lookup_cons] at h
      split at h
      · rename_i hEq
        cases h
        rw [eq_of_beq hEq]
        exact List.mem_cons_self
      · exact List.mem_cons_of_mem p (ih h)

/-- Where keys are not repeated, a key leads to what is paired with it. -/
theorem lookup_eq_some_iff_mem [BEq α] [LawfulBEq α] {l : List (α × β)}
    (hKeys : (l.map Prod.fst).Nodup) {a : α} {b : β} : l.lookup a = some b ↔ (a, b) ∈ l := by
  refine ⟨lookup_mem, ?_⟩
  intro h
  induction l with
  | nil => cases h
  | cons p l ih =>
      rw [List.map_cons, List.nodup_cons] at hKeys
      rcases List.mem_cons.1 h with rfl | hRest
      · exact List.lookup_cons_self
      · have hNe : (a == p.1) = false := by
          refine beq_false_of_ne ?_
          rintro rfl
          exact hKeys.1 (List.mem_map.2 ⟨_, hRest, rfl⟩)
        rw [List.lookup_cons, hNe]
        exact ih hKeys.2 hRest

end Shelfmark
