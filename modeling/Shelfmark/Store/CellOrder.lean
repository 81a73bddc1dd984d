import Shelfmark.Record.Cell
import Shelfmark.Text.Size

/-!
# The order of stored values

Nothing stands before numbers, numbers before text, text before bytes. Integers
and doubles are compared by value. Text is compared character by character, or
without regard to the case of ASCII letters where a column or a sort key asks
for it. An equality test never holds of nothing, not even of nothing and nothing.
-/

namespace Shelfmark

/-- Whether letters that differ only in case are the same. -/
inductive Collation where
  | binary
  | nocase
  deriving DecidableEq, Repr

/-- The order of two texts by their code points. -/
def compareChars : List Char → List Char → Ordering
  | [], [] => .eq
  | [], _ :: _ => .lt
  | _ :: _, [] => .gt
  | a :: as, b :: bs =>
      if a.toNat < b.toNat then .lt
      else if b.toNat < a.toNat then .gt
      else compareChars as bs

/-- The order of two texts without regard to the case of ASCII letters. Texts that
agree up to a NUL character are compared by the length of what is left. -/
def compareFolded : List Char → List Char → Ordering
  | [], [] => .eq
  | [], _ :: _ => .lt
  | _ :: _, [] => .gt
  | a :: as, b :: bs =>
      let x := a.toLower.toNat
      let y := b.toLower.toNat
      if x < y then .lt
      else if y < x then .gt
      else if x = 0 then compare (Text.byteLength as) (Text.byteLength bs)
      else compareFolded as bs

/-- The order of two texts. -/
def Collation.compareText : Collation → String → String → Ordering
  | binary, s, t => compareChars s.toList t.toList
  | nocase, s, t => compareFolded s.toList t.toList

/-- The order of two byte sequences. -/
def compareBytes : List UInt8 → List UInt8 → Ordering
  | [], [] => .eq
  | [], _ :: _ => .lt
  | _ :: _, [] => .gt
  | a :: as, b :: bs =>
      if a < b then .lt
      else if b < a then .gt
      else compareBytes as bs

/-- The order of an integer and a double by value. -/
def compareWithReal (i : Int) : Binary64 → Ordering
  | .nan => .gt
  | .infinite negative => if negative then .gt else .lt
  | .finite s m e =>
      let low := min e 0
      compare (i * twoPow (-low).toNat) (Binary64.signed s m * twoPow (e - low).toNat)

namespace Cell

/-- The class of a value; classes are ordered before values. -/
def rank : Cell → Nat
  | null => 0
  | integer _ => 1
  | real _ => 1
  | text _ => 2
  | blob _ => 3

/-- The order of two stored values. -/
def order (collation : Collation) : Cell → Cell → Ordering
  | integer i, integer j => compare i.toInt j.toInt
  | integer i, real x => compareWithReal i.toInt x
  | real x, integer j => (compareWithReal j.toInt x).swap
  | real x, real y => (x.compare? y).getD .eq
  | text s, text t => collation.compareText s t
  | blob s, blob t => compareBytes s t
  | a, b => compare a.rank b.rank

/-- Whether two stored values are equal; nothing equals nothing. -/
def equals (collation : Collation) (a b : Cell) : Bool :=
  !a.isNull && !b.isNull && a.order collation b = .eq

/-- Whether two stored values are equal, letters by their case. -/
def same (a b : Cell) : Bool := a.equals .binary b

end Cell

end Shelfmark
