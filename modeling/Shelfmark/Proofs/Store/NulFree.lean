import Shelfmark.Proofs.Store.SortValue
import Shelfmark.Proofs.Store.Sound

/-!
# Tables without NUL characters

Where case is ignored, text is compared up to its first NUL character. Tables are free of
them when no text of any row has one. Then no column has one, and neither have the texts of
a summary, which are texts of rows joined by separators.
-/

namespace Shelfmark

/-- Whether no text of any row has a NUL character. -/
def Tables.NulFree (t : Tables) : Prop :=
  ∀ kind, ∀ row ∈ t.rows kind, ∀ cell ∈ row.cells, cell.isNulFree = true

variable {t : Tables}

theorem Tables.NulFree.cell (h : t.NulFree) (kind : Kind) {row : Row} (hRow : row ∈ t.rows kind)
    (column : String) : (row.cell kind column).isNulFree = true :=
  cell_of_forall (P := fun cell => cell.isNulFree = true) rfl (fun _ => rfl) (h kind row hRow)
    kind column

/-- A field of text that is required has a text without NUL characters. -/
theorem Tables.NulFree.text (h : t.NulFree) (hSound : t.Sound) {kind : Kind} {row : Row}
    (hRow : row ∈ t.rows kind) {f : Field} (hField : f ∈ kind.givenFields) (hType : f.type = .text)
    (hNull : f.nullable = false) :
    ∃ s, row.cell kind f.column = .text s ∧ '\x00' ∉ s.toList := by
  have hHolds := ((hSound.fits kind row hRow).stores hField).holds hNull
  have hFree := h.cell kind hRow f.column
  rw [hType] at hHolds
  cases hCell : row.cell kind f.column <;> rw [hCell] at hHolds hFree <;>
    first | exact ⟨_, rfl, Cell.isNulFree_text.1 hFree⟩ | cases hHolds

namespace Summary

private theorem mem_intercalate {α : Type} {x : α} {separator : List α} {xss : List (List α)}
    (h : x ∈ separator.intercalate xss) : x ∈ separator ∨ ∃ xs ∈ xss, x ∈ xs := by
  induction xss with
  | nil => simp [List.intercalate] at h
  | cons xs rest ih =>
      cases rest with
      | nil => exact Or.inr ⟨xs, by simp, by simpa [List.intercalate] using h⟩
      | cons ys rest =>
          simp only [List.intercalate, List.intersperse_cons_cons, List.flatten_cons,
            List.mem_append] at h
          rcases h with hFirst | hSeparator | hRest
          · exact Or.inr ⟨xs, by simp, hFirst⟩
          · exact Or.inl hSeparator
          · rcases ih hRest with hSeparator | ⟨zs, hIn, hx⟩
            · exact Or.inl hSeparator
            · exact Or.inr ⟨zs, List.mem_cons_of_mem _ hIn, hx⟩

/-- Joining texts adds the separator and nothing else. -/
theorem nulFree_joinCells {separator : String} {cells : List Cell}
    (hSeparator : '\x00' ∉ separator.toList)
    (h : ∀ cell ∈ cells, ∃ s, cell = .text s ∧ '\x00' ∉ s.toList) :
    (joinCells separator cells).isNulFree = true := by
  unfold joinCells
  split
  · rfl
  · rw [Cell.isNulFree_text, String.toList_intercalate]
    intro hNul
    rcases mem_intercalate hNul with hIn | ⟨cs, hTexts, hIn⟩
    · exact hSeparator hIn
    · obtain ⟨s, hText, rfl⟩ := List.mem_map.1 hTexts
      obtain ⟨cell, hCell, hJoined⟩ := List.mem_filterMap.1 hText
      obtain ⟨u, rfl, hFree⟩ := h cell hCell
      cases hJoined
      exact hFree hIn

theorem nulFree_cell (hSound : t.Sound) (hNul : t.NulFree) {row : Row} (hRow : row ∈ t.resources)
    (column : String) : ((ofResource t row).cell column).isNulFree = true := by
  refine Tables.summary_cell_of_forall (P := fun cell => cell.isNulFree = true) rfl
    (fun kind row hRow => hNul.cell kind hRow) hRow ?_ ?_ column
  · refine nulFree_joinCells (by decide) fun cell hCell => ?_
    obtain ⟨p, hp, rfl⟩ := List.mem_map.1 hCell
    have hPerson := (Tables.mem_of_mem_linked (List.mem_filter.1 hp).1).2
    exact hNul.text hSound hPerson (f := PersonField.name) (by decide) rfl rfl
  · refine nulFree_joinCells (by decide) fun cell hCell => ?_
    obtain ⟨p, hp, rfl⟩ := List.mem_map.1 hCell
    have hGroup := (Tables.mem_of_mem_linked (List.mem_filter.1 hp).1).2
    exact hNul.text hSound hGroup (f := GroupField.title) (by decide) rfl rfl

end Summary

end Shelfmark
