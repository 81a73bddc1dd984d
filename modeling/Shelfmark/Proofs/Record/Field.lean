import Shelfmark.Proofs.Store.Stored
import Shelfmark.Proofs.Text.Digits

/-!
# What fields hand back

A field stores a value as a cell and reads the cell back. Two kinds of value do not stand
for themselves in storage: an absent index is a number, and a publication date that is a
point in time is text with a mark in front. The field refuses what would be taken for one
of them, so nothing is confused. Identifiers, references and words come back in their
normal form, and everything else as it was.

What comes back is stored as the same cell again, which for identifiers is that the normal
form is its own normal form.

## Main results

* `PublishDate.decode_encode` — publication dates survive storage.
* `Field.ofCell_of_toCell`, `Field.toCell_normalForm` — the two halves for one field.
* `Field.stored_form_reads_back` — both together.
-/

namespace Shelfmark

open Shelfmark.Text

/-! ## Publication dates -/

namespace PublishDate

theorem afterPrefix?_append (s : String) :
    afterPrefix? (timestampPrefix ++ s) = some s.toList := by
  have hPrefix : timestampPrefix.toList.isPrefixOf (timestampPrefix.toList ++ s.toList) = true :=
    List.isPrefixOf_iff_prefix.2 (List.prefix_append _ _)
  rw [afterPrefix?, String.toList_append, if_pos hPrefix, List.drop_left]

/-- A date is read as it was written unless it is text that looks like a point in time. -/
theorem decode_encode {date : PublishDate}
    (h : ∀ s, date = .text s → afterPrefix? s = none) : decode date.encode = date := by
  cases date with
  | text s => simp [encode, decode, h s rfl]
  | timestamp t =>
      have hDigits : readInt64? (writeInt64 t.seconds).toList = some t.seconds := by
        rw [writeInt64, writeInt, String.toList_ofList]
        exact readInt64?_intDigits t.seconds
      simp [encode, decode, afterPrefix?_append, hDigits]

end PublishDate

/-! ## Values as fields hand them back -/

/-- The form in which a type of field hands a value back: identifiers, references and words
without the blanks around them and in lower case, any other value as it is. -/
def FieldType.normalForm (type : FieldType) (value : FieldValue) : FieldValue :=
  match type, value with
  | .identifier, .text s => .text (normalize s)
  | .foreign _, .text s => .text (normalize s)
  | .enumeration _, .text s => .text (normalize s)
  | _, value => value

@[simp] theorem FieldType.normalForm_null (type : FieldType) : type.normalForm .null = .null := by
  cases type <;> rfl

theorem FieldType.normalForm_ne_null {type : FieldType} {value : FieldValue} (h : value ≠ .null) :
    type.normalForm value ≠ .null := by
  cases value with
  | null => exact absurd rfl h
  | text s => cases type <;> exact FieldValue.noConfusion
  | integer | boolean | timestamp | publishDate => cases type <;> exact FieldValue.noConfusion

namespace Field

/-- Values other than null are stored as the type of the field says. -/
theorem toCell_of_ne_null (f : Field) {value : FieldValue} (h : value ≠ .null) :
    f.toCell value = storeValue f.type value := by
  cases value with
  | null => exact absurd rfl h
  | text | integer | boolean | timestamp | publishDate => rfl

/-- What a type stores for a value is no null, and is read as the value in its form. -/
theorem readCell_of_storeValue {type : FieldType} {value : FieldValue} {cell : Cell}
    (h : storeValue type value = .ok cell) :
    cell.isNull = false ∧ readCell type cell = .ok (type.normalForm value) := by
  unfold storeValue at h
  split at h
  case h_1 => cases h; exact ⟨rfl, rfl⟩
  case h_2 =>
    obtain ⟨rfl, -⟩ := storeIdentifier_eq_ok h
    exact ⟨rfl, rfl⟩
  case h_3 =>
    obtain ⟨rfl, -⟩ := storeIdentifier_eq_ok h
    exact ⟨rfl, rfl⟩
  case h_4 => cases h; exact ⟨rfl, rfl⟩
  case h_5 => cases h; exact ⟨rfl, rfl⟩
  case h_6 date =>
    have hStored : (∀ s, date = .text s → PublishDate.afterPrefix? s = none) ∧
        cell = .text date.encode := by
      cases date with
      | timestamp t => cases h; exact ⟨nofun, rfl⟩
      | text s =>
          dsimp only at h
          split at h
          · cases h
          · rename_i hPlain
            cases h
            refine ⟨?_, rfl⟩
            rintro _ ⟨⟩
            simpa using hPlain
    obtain ⟨hPlain, rfl⟩ := hStored
    refine ⟨rfl, ?_⟩
    rw [readCell, PublishDate.decode_encode hPlain]
    rfl
  case h_7 =>
    split at h
    · cases h; exact ⟨rfl, rfl⟩
    · cases h
  case h_8 i =>
    split at h
    · rename_i hLeast
      cases h
      -- an index that is stored is none of the numbers that stand for an absent one
      refine ⟨rfl, ?_⟩
      rw [readCell, if_neg (Int64.not_lt.2 hLeast)]
      rfl
    · cases h
  case h_9 b =>
    cases h
    cases b <;> exact ⟨rfl, rfl⟩
  case h_10 =>
    dsimp only at h
    split at h
    · cases h; exact ⟨rfl, rfl⟩
    · cases h
  case h_11 => cases h

/-- The form of a value that is stored is stored as the same cell. -/
theorem storeValue_normalForm {type : FieldType} {value : FieldValue} {cell : Cell}
    (h : storeValue type value = .ok cell) :
    storeValue type (type.normalForm value) = .ok cell := by
  unfold FieldType.normalForm
  split
  · simpa only [storeValue, storeIdentifier, normalize_normalize] using h
  · simpa only [storeValue, storeIdentifier, normalize_normalize] using h
  · rename_i words s
    dsimp only [storeValue] at h ⊢
    rw [normalize_normalize]
    split at h
    · rename_i hWord
      rw [if_pos hWord, h]
    · cases h
  · exact h

/-! ## Storing and reading back -/

/-- What a field stores for a value it reads as that value, in the form the field gives it. -/
theorem ofCell_of_toCell {f : Field} {value : FieldValue} {cell : Cell}
    (h : f.toCell value = .ok cell) : f.ofCell cell = .ok (f.type.normalForm value) := by
  by_cases hNull : value = .null
  · subst hNull
    rw [FieldType.normalForm_null]
    dsimp only [toCell] at h
    split at h
    · rename_i hIndex
      cases h
      rw [ofCell, hIndex]
      rfl
    · split at h
      · rename_i hNullable
        cases h
        rw [ofCell, hNullable]
        rfl
      · cases h
  · rw [toCell_of_ne_null f hNull] at h
    obtain ⟨hCell, hRead⟩ := readCell_of_storeValue h
    rw [ofCell, hCell, if_neg Bool.false_ne_true, hRead]

/-- The form that a field gives a value is stored as the value is. -/
theorem toCell_normalForm {f : Field} {value : FieldValue} {cell : Cell}
    (h : f.toCell value = .ok cell) : f.toCell (f.type.normalForm value) = .ok cell := by
  by_cases hNull : value = .null
  · rw [hNull, FieldType.normalForm_null, ← hNull]
    exact h
  · rw [toCell_of_ne_null f hNull] at h
    rw [toCell_of_ne_null f (FieldType.normalForm_ne_null hNull)]
    exact storeValue_normalForm h

/-- What a field stores for a value it reads back without fault as that value, identifiers,
references and words in their normal form, and storing what was read leaves the same cell. -/
theorem stored_form_reads_back (f : Field) (value : FieldValue) (cell : Cell)
    (h : f.toCell value = .ok cell) :
    f.ofCell cell = .ok (f.type.normalForm value) ∧
      ∀ back, f.ofCell cell = .ok back → f.toCell back = .ok cell := by
  refine ⟨ofCell_of_toCell h, fun back hBack => ?_⟩
  rw [ofCell_of_toCell h, Except.ok.injEq] at hBack
  rw [← hBack]
  exact toCell_normalForm h

/-- A word with blanks and capitals, and the index of a relation without one. -/
theorem stored_form_reads_back_sample :
    (ObjectField.role.toCell (.text " COVER\n") = .ok (.text "cover") ∧
      ObjectField.role.ofCell (.text "cover") =
        .ok (ObjectField.role.type.normalForm (.text " COVER\n")) ∧
      ∀ back, ObjectField.role.ofCell (.text "cover") = .ok back →
        ObjectField.role.toCell back = .ok (.text "cover")) ∧
    (GroupLinkField.groupIndex.ofCell (.integer (-1)) = .ok .null ∧
      ∀ back, GroupLinkField.groupIndex.ofCell (.integer (-1)) = .ok back →
        GroupLinkField.groupIndex.toCell back = .ok (.integer (-1))) := by
  have hRole : ObjectField.role.toCell (.text " COVER\n") = .ok (.text "cover") := by
    decide +kernel
  exact ⟨⟨hRole, stored_form_reads_back ObjectField.role _ _ hRole⟩,
    stored_form_reads_back GroupLinkField.groupIndex .null (.integer (-1)) rfl⟩

/-- Text that looks like a point in time is refused as a publication date. -/
example : ResourceField.publishDate.toCell (.publishDate (.text "ts:5")) =
    .error .prefixedText := by decide +kernel

end Field

end Shelfmark
