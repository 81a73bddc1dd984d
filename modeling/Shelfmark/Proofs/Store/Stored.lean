import Shelfmark.Proofs.Text.Normal
import Shelfmark.Store.Change

/-!
# What fields store

The cells of a table are written through fields, so they are more regular than cells
in general: each is the stored form of some value. `Field.Stores` says so, and
`FieldType.Holds` spells out what it means for each type of field.

Three things follow for such cells. A column keeps them as they are, so the
conversion of the column never shows. They can be read back. And between texts the
comparison of columns is equality.
-/

namespace Shelfmark

/-! ## Comparing cells -/

theorem compareChars_eq_iff (as bs : List Char) : compareChars as bs = .eq ↔ as = bs := by
  induction as generalizing bs with
  | nil => cases bs <;> simp [compareChars]
  | cons a as ih =>
      cases bs with
      | nil => simp [compareChars]
      | cons b bs =>
          unfold compareChars
          split
          · rename_i hLt
            have hNe : a ≠ b := by
              rintro rfl
              omega
            simp [hNe]
          · split
            · rename_i hGt
              have hNe : a ≠ b := by
                rintro rfl
                omega
              simp [hNe]
            · have hEq : a = b := by
                rw [← Char.toNat_inj]
                omega
              simp [ih, hEq]

/-- Folded texts that compare equal do so in either order. -/
theorem compareFolded_eq_comm (as bs : List Char) :
    compareFolded as bs = .eq ↔ compareFolded bs as = .eq := by
  induction as generalizing bs with
  | nil => cases bs <;> simp [compareFolded]
  | cons a as ih =>
      cases bs with
      | nil => simp [compareFolded]
      | cons b bs =>
          simp only [compareFolded]
          rcases Nat.lt_trichotomy a.toLower.toNat b.toLower.toNat with hLt | hEq | hGt
          · simp [hLt, Nat.lt_asymm hLt]
          · simp only [hEq, Nat.lt_irrefl, if_false]
            by_cases hNul : b.toLower.toNat = 0
            · simp only [hNul, if_true, Nat.compare_eq_eq]
              exact eq_comm
            · simp [hNul, ih]
          · simp [hGt, Nat.lt_asymm hGt]

namespace Cell

/-- Cells that fields store: nothing, integers and texts. -/
def isPlain : Cell → Bool
  | null => true
  | integer _ => true
  | text _ => true
  | _ => false

/-- The cell of a truth value. -/
def ofBool (b : Bool) : Cell := .integer (if b then 1 else 0)

theorem equals_iff {collation : Collation} {a b : Cell} :
    a.equals collation b = true ↔
      a.isNull = false ∧ b.isNull = false ∧ a.order collation b = .eq := by
  simp [equals, and_assoc]

/-- Only a text is the same as a text. -/
theorem same_text_iff {cell : Cell} {s : String} : cell.same (.text s) = true ↔ cell = .text s := by
  rw [same, equals_iff]
  cases cell <;>
    simp [isNull, order, rank, Collation.compareText, compareChars_eq_iff, String.toList_inj,
      compare, compareOfLessAndEq]

theorem integer_same_iff {i j : Int64} : (integer i).same (.integer j) = true ↔ i = j := by
  rw [same, equals_iff]
  simp [isNull, order, Int64.toInt_inj]

theorem equals_comm {collation : Collation} {a b : Cell} (ha : a.isPlain = true)
    (hb : b.isPlain = true) : a.equals collation b = b.equals collation a := by
  rw [Bool.eq_iff_iff, equals_iff, equals_iff]
  have hOrder : a.order collation b = .eq ↔ b.order collation a = .eq := by
    cases a with
    | real | blob => cases ha
    | null =>
        cases b with
        | real | blob => cases hb
        | null => exact Iff.rfl
        | integer | text => simp [order, rank, compare, compareOfLessAndEq]
    | integer i =>
        cases b with
        | real | blob => cases hb
        | null | text => simp [order, rank, compare, compareOfLessAndEq]
        | integer j =>
            simp only [order, Int.compare_eq_eq]
            exact eq_comm
    | text s =>
        cases b with
        | real | blob => cases hb
        | null | integer => simp [order, rank, compare, compareOfLessAndEq]
        | text t =>
            cases collation with
            | binary =>
                simp only [order, Collation.compareText, compareChars_eq_iff]
                exact eq_comm
            | nocase => exact compareFolded_eq_comm _ _
  rw [hOrder]
  exact and_left_comm

theorem text_same_iff {cell : Cell} {s : String} : (text s).same cell = true ↔ cell = .text s := by
  rw [same, equals_iff]
  cases cell <;>
    simp [isNull, order, rank, Collation.compareText, compareChars_eq_iff, String.toList_inj,
      compare, compareOfLessAndEq]
  exact eq_comm

end Cell

/-! ## What a field stores -/

/-- What a type of field stores for a value other than null. -/
def FieldType.Holds : FieldType → Cell → Prop
  | .text, .text _ => True
  | .publishDate, .text _ => True
  | .identifier, .text s => normalize s = s ∧ s ≠ ""
  | .foreign _, .text s => normalize s = s ∧ s ≠ ""
  | .enumeration words, .text s => words.contains s = true ∧ normalize s = s
  | .rowId, .integer _ => True
  | .timestamp, .integer _ => True
  | .integer least greatest, .integer i => least ≤ i ∧ i ≤ greatest
  | .index, .integer i => 0 ≤ i ∨ i = -1
  | .boolean, cell => ∃ b, cell = .ofBool b
  | _, _ => False

/-- Whether a field stores a cell for some value. -/
def Field.Stores (f : Field) (cell : Cell) : Prop := ∃ value, f.toCell value = .ok cell

namespace Field

theorem storeIdentifier_eq_ok {s : String} {cell : Cell} (h : storeIdentifier s = .ok cell) :
    cell = .text (normalize s) ∧ normalize s ≠ "" := by
  unfold storeIdentifier at h
  dsimp only at h
  split at h
  · cases h
  · rename_i hNe
    cases h
    refine ⟨rfl, ?_⟩
    intro hEmpty
    exact hNe (by rw [hEmpty]; rfl)

/-- A reference is stored in its normal form. -/
theorem toCell_foreign_eq_ok_iff {f : Field} {target : Kind} (hType : f.type = .foreign target)
    {s : String} {cell : Cell} :
    f.toCell (.text s) = .ok cell ↔ normalize s ≠ "" ∧ cell = .text (normalize s) := by
  by_cases hEmpty : normalize s = ""
  · simp [toCell, hType, storeValue, storeIdentifier, hEmpty]
  · simp only [toCell, hType, storeValue, storeIdentifier, String.isEmpty_iff, hEmpty, if_false,
      ne_eq, not_false_eq_true, true_and, Except.ok.injEq]
    exact eq_comm

private theorem holds_of_storeValue {type : FieldType} {value : FieldValue} {cell : Cell}
    (h : storeValue type value = .ok cell) : type.Holds cell := by
  unfold storeValue at h
  split at h
  · cases h; trivial
  · obtain ⟨rfl, hNe⟩ := storeIdentifier_eq_ok h
    exact ⟨normalize_normalize _, hNe⟩
  · obtain ⟨rfl, hNe⟩ := storeIdentifier_eq_ok h
    exact ⟨normalize_normalize _, hNe⟩
  · cases h; trivial
  · cases h; trivial
  · split at h
    · split at h
      · cases h
      · cases h; trivial
    · cases h; trivial
  · split at h
    · rename_i hIn
      cases h
      simpa [FieldType.Holds] using hIn
    · cases h
  · split at h
    · rename_i hIn
      cases h
      exact Or.inl hIn
    · cases h
  · rename_i b
    cases h
    exact ⟨b, rfl⟩
  · dsimp only at h
    split at h
    · rename_i hIn
      cases h
      exact ⟨hIn, normalize_normalize _⟩
    · cases h
  · cases h

/-- What a field stores is nothing, where that is allowed, or what its type holds. -/
theorem Stores.cases {f : Field} {cell : Cell} (h : f.Stores cell) :
    (cell = .null ∧ f.nullable = true) ∨ f.type.Holds cell := by
  obtain ⟨value, hValue⟩ := h
  unfold toCell at hValue
  split at hValue
  · split at hValue
    · rename_i hIndex
      cases hValue
      right
      rw [hIndex]
      exact Or.inr rfl
    · split at hValue
      · rename_i hNull
        cases hValue
        exact Or.inl ⟨rfl, hNull⟩
      · cases hValue
  · exact Or.inr (holds_of_storeValue hValue)

theorem Stores.holds {f : Field} {cell : Cell} (h : f.Stores cell) (hNull : f.nullable = false) :
    f.type.Holds cell := by
  rcases h.cases with ⟨_, hNullable⟩ | hHolds
  · rw [hNull] at hNullable
    cases hNullable
  · exact hHolds

/-- A field that may not be empty stores a value. -/
theorem Stores.isNull {f : Field} {cell : Cell} (h : f.Stores cell) (hNull : f.nullable = false) :
    cell.isNull = false := by
  have hHolds := h.holds hNull
  cases cell with
  | integer | real | text | blob => rfl
  | null => cases hType : f.type <;> simp_all [FieldType.Holds, Cell.ofBool]

private theorem plain_of_holds {type : FieldType} {cell : Cell} (h : type.Holds cell) :
    cell.isPlain = true := by
  cases type <;> cases cell <;> simp_all [FieldType.Holds, Cell.isPlain, Cell.ofBool]

theorem Stores.plain {f : Field} {cell : Cell} (h : f.Stores cell) : cell.isPlain = true := by
  rcases h.cases with ⟨rfl, _⟩ | hHolds
  · rfl
  · exact plain_of_holds hHolds

/-- What a type with text affinity holds is text. -/
theorem exists_text_of_holds {type : FieldType} {cell : Cell} (h : type.Holds cell)
    (hText : type.affinity = .text) : ∃ s, cell = .text s := by
  cases type with
  | rowId | timestamp | integer | index | boolean => cases hText
  | text | identifier | publishDate | enumeration | foreign =>
      cases cell with
      | text s => exact ⟨s, rfl⟩
      | null | integer | real | blob => cases h

/-- A column keeps what its field stores. -/
theorem Stores.convert {f : Field} {cell : Cell} (h : f.Stores cell) : f.convert cell = cell := by
  unfold Field.convert
  rcases h.cases with ⟨rfl, _⟩ | hHolds
  · cases f.type <;> rfl
  · generalize f.type = type at hHolds
    cases cell with
    | null | real | blob => cases type <;> simp [FieldType.Holds, Cell.ofBool] at hHolds
    | text s =>
        cases type <;> simp [FieldType.Holds, Cell.ofBool] at hHolds <;> rfl
    | integer i =>
        cases type <;> simp [FieldType.Holds] at hHolds <;> rfl

/-- What a field stores can be read back. -/
theorem Stores.readable {f : Field} {cell : Cell} (h : f.Stores cell) :
    ∃ value, f.ofCell cell = .ok value := by
  unfold ofCell
  rcases h.cases with ⟨rfl, hNull⟩ | hHolds
  · exact ⟨.null, by simp [Cell.isNull, hNull]⟩
  · generalize f.type = type at hHolds
    cases type <;> cases cell <;>
      simp_all [FieldType.Holds, readCell, Cell.isNull, Cell.ofBool]

end Field

end Shelfmark
