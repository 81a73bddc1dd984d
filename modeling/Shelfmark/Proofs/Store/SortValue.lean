import Mathlib
import Shelfmark.Proofs.Store.Folded
import Shelfmark.Proofs.Store.Stored

/-!
# What cells count for in an order

The order of cells is given by cases and by recursion on texts. Here it is given by values
of a linear order: what is absent is lowest, then come numbers, then texts by the bytes of
their encoding, with ASCII letters in lower case where case is ignored. `Cell.order_compares`
says that both agree on the cells that fields store.

Two facts carry this. The encoding of characters keeps their order, so that texts may be
compared by code points. And texts without NUL characters are folded to their end.
-/

namespace Shelfmark

/-! ## Bytes -/

/-- The bytes of a character. -/
def Text.charBytes (c : Char) : List Nat := (String.utf8EncodeChar c).map UInt8.toNat

/-- The bytes of a text. -/
def Text.bytes (cs : List Char) : List Nat := cs.flatMap Text.charBytes

namespace Text

/-- One to four bytes encode a character. -/
private theorem charBytes_cases (c : Char) :
    (c.toNat < 128 ∧ charBytes c = [c.toNat]) ∨
    (128 ≤ c.toNat ∧ c.toNat < 2048 ∧
      charBytes c = [c.toNat / 64 + 192, c.toNat % 64 + 128]) ∨
    (2048 ≤ c.toNat ∧ c.toNat < 65536 ∧
      charBytes c = [c.toNat / 4096 + 224, c.toNat / 64 % 64 + 128, c.toNat % 64 + 128]) ∨
    (65536 ≤ c.toNat ∧
      charBytes c = [c.toNat / 262144 + 240, c.toNat / 4096 % 64 + 128,
        c.toNat / 64 % 64 + 128, c.toNat % 64 + 128]) := by
  have hLess : c.val.toNat < 1114112 := by
    have hValid := c.valid
    unfold UInt32.isValidChar Nat.isValidChar at hValid
    omega
  unfold charBytes String.utf8EncodeChar
  simp only [Char.toNat]
  generalize c.val.toNat = v at *
  split
  · left
    simp
    omega
  · right
    split
    · left
      simp
      omega
    · right
      split
      · left
        simp
        omega
      · right
        simp
        omega

/-- The bytes of a greater character are greater, whatever follows. -/
private theorem charBytes_append_lt {a b : Char} (h : a.toNat < b.toNat) (xs ys : List Nat) :
    charBytes a ++ xs < charBytes b ++ ys := by
  rcases charBytes_cases a with ⟨ha, hA⟩ | ⟨ha, ha', hA⟩ | ⟨ha, ha', hA⟩ | ⟨ha, hA⟩ <;>
    rcases charBytes_cases b with ⟨hb, hB⟩ | ⟨hb, hb', hB⟩ | ⟨hb, hb', hB⟩ | ⟨hb, hB⟩ <;>
    rw [hA, hB] <;>
    simp only [List.cons_append, List.nil_append, List.cons_lt_cons_iff] <;> omega

private theorem append_lt_append_left (xs : List Nat) {ys zs : List Nat} (h : ys < zs) :
    xs ++ ys < xs ++ zs := by
  induction xs with
  | nil => exact h
  | cons x xs ih => exact List.cons_lt_cons_iff.2 (Or.inr ⟨rfl, ih⟩)

private theorem compares_append_left (xs : List Nat) {ys zs : List Nat} {o : Ordering}
    (h : o.Compares ys zs) : o.Compares (xs ++ ys) (xs ++ zs) := by
  cases o with
  | lt => exact append_lt_append_left xs h
  | eq => exact congrArg (xs ++ ·) h
  | gt => exact append_lt_append_left xs h

private theorem nil_lt_charBytes_append (c : Char) (xs : List Nat) : [] < charBytes c ++ xs := by
  rcases charBytes_cases c with ⟨_, h⟩ | ⟨_, _, h⟩ | ⟨_, _, h⟩ | ⟨_, h⟩ <;>
    rw [h] <;> exact List.nil_lt_cons _ _

end Text

open Shelfmark.Text

/-- **Texts are compared by their bytes.** -/
theorem compareChars_compares (as bs : List Char) :
    (compareChars as bs).Compares (bytes as) (bytes bs) := by
  induction as generalizing bs with
  | nil =>
      cases bs with
      | nil => rfl
      | cons b bs => exact nil_lt_charBytes_append b _
  | cons a as ih =>
      cases bs with
      | nil => exact nil_lt_charBytes_append a _
      | cons b bs =>
          unfold compareChars
          split
          · rename_i hLess
            exact charBytes_append_lt hLess _ _
          · split
            · rename_i hGreater
              exact charBytes_append_lt hGreater _ _
            · have hSame : a = b := by
                rw [← Char.toNat_inj]
                omega
              rw [hSame]
              exact compares_append_left (charBytes b) (ih bs)

/-- Without NUL characters, texts are folded to their end. -/
theorem compareFolded_eq_compareChars {as bs : List Char} (h : '\x00' ∉ as) :
    compareFolded as bs = compareChars (as.map Char.toLower) (bs.map Char.toLower) := by
  induction as generalizing bs with
  | nil => cases bs <;> rfl
  | cons a as ih =>
      cases bs with
      | nil => rfl
      | cons b bs =>
          have hFirst : a.toLower.toNat ≠ 0 := fun hZero =>
            h (toNat_toLower_eq_zero.1 hZero ▸ List.mem_cons_self)
          have hRest : '\x00' ∉ as := fun hIn => h (List.mem_cons_of_mem _ hIn)
          simp only [compareFolded, List.map_cons, compareChars, hFirst, if_false, ih hRest]

/-- What a text is compared by where case is ignored: its characters in lower case up to a NUL
character, and how much is behind it. -/
def Text.foldedKey : List Char → List Nat
  | [] => []
  | c :: cs => if c.toLower.toNat = 0 then [0, byteLength cs] else c.toLower.toNat :: foldedKey cs

private theorem foldedKey_cons_lt {a b : Char} (h : a.toLower.toNat < b.toLower.toNat)
    (as bs : List Char) : foldedKey (a :: as) < foldedKey (b :: bs) := by
  have hb : b.toLower.toNat ≠ 0 := by omega
  rw [foldedKey, foldedKey, if_neg hb]
  split
  · exact List.cons_lt_cons_iff.2 (Or.inl (by omega))
  · exact List.cons_lt_cons_iff.2 (Or.inl h)

private theorem nil_lt_foldedKey (c : Char) (cs : List Char) : [] < foldedKey (c :: cs) := by
  unfold foldedKey
  split <;> exact List.nil_lt_cons _ _

private theorem compare_compares_singleton (m n : Nat) : (compare m n).Compares [m] [n] := by
  have hNumbers : (compare m n).Compares m n := (compare_iff _ _).1 rfl
  cases hOrder : compare m n with
  | lt => exact List.cons_lt_cons_iff.2 (Or.inl (hNumbers.eq_lt.1 hOrder))
  | eq => exact congrArg (fun i => [i]) (hNumbers.eq_eq.1 hOrder)
  | gt => exact List.cons_lt_cons_iff.2 (Or.inl (hNumbers.eq_gt.1 hOrder))

/-- **Where case is ignored texts are compared by their keys**, also behind a NUL character. -/
theorem compareFolded_compares (as bs : List Char) :
    (compareFolded as bs).Compares (foldedKey as) (foldedKey bs) := by
  induction as generalizing bs with
  | nil =>
      cases bs with
      | nil => rfl
      | cons b bs => exact nil_lt_foldedKey b bs
  | cons a as ih =>
      cases bs with
      | nil => exact nil_lt_foldedKey a as
      | cons b bs =>
          rw [compareFolded]
          split
          · rename_i hLess
            exact foldedKey_cons_lt hLess as bs
          · split
            · rename_i hGreater
              exact foldedKey_cons_lt hGreater bs as
            · have hSame : b.toLower.toNat = a.toLower.toNat := by omega
              rw [foldedKey, foldedKey, hSame]
              split
              · exact compares_append_left [0] (compare_compares_singleton _ _)
              · exact compares_append_left [a.toLower.toNat] (ih bs)

/-! ## Values -/

/-- The values of an order: an absent one is lowest, and numbers come before texts. -/
abbrev SortValue := WithBot (Int ⊕ₗ List Nat)

namespace SortValue

/-- The value of a number. -/
def number (i : Int) : SortValue := ((toLex (Sum.inl i) : Int ⊕ₗ List Nat) : SortValue)

/-- The value of a text by its bytes. -/
def ofBytes (bs : List Nat) : SortValue := ((toLex (Sum.inr bs) : Int ⊕ₗ List Nat) : SortValue)

theorem number_strictMono : StrictMono number :=
  WithBot.coe_strictMono.comp Sum.Lex.inl_strictMono

theorem ofBytes_strictMono : StrictMono ofBytes :=
  WithBot.coe_strictMono.comp Sum.Lex.inr_strictMono

theorem bot_lt_number (i : Int) : ⊥ < number i := WithBot.bot_lt_coe _

theorem bot_lt_ofBytes (bs : List Nat) : ⊥ < ofBytes bs := WithBot.bot_lt_coe _

theorem number_lt_ofBytes (i : Int) (bs : List Nat) : number i < ofBytes bs :=
  WithBot.coe_lt_coe.2 (Sum.Lex.inl_lt_inr _ _)

end SortValue

/-- The bytes that a text is compared by. -/
def Collation.bytes (collation : Collation) (s : String) : List Nat :=
  match collation with
  | binary => Text.bytes s.toList
  | nocase => Text.bytes (s.toList.map Char.toLower)

/-- Whether a cell is free of NUL characters. -/
def Cell.isNulFree : Cell → Bool
  | text s => !s.toList.contains '\x00'
  | _ => true

theorem Cell.isNulFree_text {s : String} : (text s).isNulFree = true ↔ '\x00' ∉ s.toList := by
  simp [isNulFree]

/-- The value of a cell in an order. Fields store no other cells. -/
def Cell.sortValue (collation : Collation) : Cell → SortValue
  | integer i => .number i.toInt
  | text s => .ofBytes (collation.bytes s)
  | _ => ⊥

/-- **Cells that fields store are ordered by their values.** -/
theorem Cell.order_compares (collation : Collation) {a b : Cell} (ha : a.isPlain = true)
    (hb : b.isPlain = true) (hNul : collation = .nocase → a.isNulFree = true) :
    (a.order collation b).Compares (a.sortValue collation) (b.sortValue collation) := by
  cases a with
  | real | blob => cases ha
  | null =>
      cases b with
      | real | blob => cases hb
      | null => rfl
      | integer j => exact SortValue.bot_lt_number _
      | text u => exact SortValue.bot_lt_ofBytes _
  | integer i =>
      cases b with
      | real | blob => cases hb
      | null => exact SortValue.bot_lt_number _
      | integer j => exact SortValue.number_strictMono.compares.2 ((compare_iff _ _).1 rfl)
      | text u => exact SortValue.number_lt_ofBytes _ _
  | text s =>
      cases b with
      | real | blob => cases hb
      | null => exact SortValue.bot_lt_ofBytes _
      | integer j => exact SortValue.number_lt_ofBytes _ _
      | text u =>
          refine SortValue.ofBytes_strictMono.compares.2 ?_
          cases collation with
          | binary => exact compareChars_compares _ _
          | nocase =>
              rw [order, Collation.compareText,
                compareFolded_eq_compareChars (isNulFree_text.1 (hNul rfl))]
              exact compareChars_compares _ _

/-- Where case is not ignored, plain cells are told apart by their values. -/
theorem Cell.sortValue_injective {a b : Cell} (ha : a.isPlain = true) (hb : b.isPlain = true)
    (h : a.sortValue .binary = b.sortValue .binary) : a = b := by
  have hEq : a.order .binary b = .eq :=
    (order_compares .binary ha hb fun hNocase => by cases hNocase).eq_eq.2 h
  cases a with
  | real | blob => cases ha
  | null =>
      cases b with
      | real | blob => cases hb
      | null => rfl
      | integer | text => cases h
  | integer i =>
      cases b with
      | real | blob => cases hb
      | null | text => cases h
      | integer j =>
          rw [order, Int.compare_eq_eq, Int64.toInt_inj] at hEq
          rw [hEq]
  | text s =>
      cases b with
      | real | blob => cases hb
      | null | integer => cases h
      | text u =>
          rw [order, Collation.compareText, compareChars_eq_iff, String.toList_inj] at hEq
          rw [hEq]

end Shelfmark
