/-!
# Decimal integers as text

Integers are written with ASCII digits and an optional sign. Reading accepts a
plus sign and leading zeros; writing produces neither, so writing picks one of
the spellings that reading accepts.
-/

namespace Shelfmark.Text

/-- The value of a non-empty run of digits. -/
def readNat? (cs : List Char) : Option Nat :=
  if !cs.isEmpty && cs.all Char.isDigit then some (Nat.ofDigitChars 10 cs 0) else none

/-- The value of a run of digits after an optional plus sign. -/
def readUnsigned? : List Char → Option Nat
  | '+' :: ds => readNat? ds
  | ds => readNat? ds

/-- The value of a run of digits after an optional sign. -/
def readInt? : List Char → Option Int
  | '-' :: ds => (readNat? ds).map fun n => -(n : Int)
  | '+' :: ds => (readNat? ds).map fun n => (n : Int)
  | ds => (readNat? ds).map fun n => (n : Int)

/-- The digits of a natural number, most significant first. -/
def natDigits (n : Nat) : List Char := Nat.toDigits 10 n

/-- The digits of an integer, after a minus sign when it is negative. -/
def intDigits : Int → List Char
  | .ofNat n => natDigits n
  | .negSucc n => '-' :: natDigits (n + 1)

/-- An integer as text. -/
def writeInt (i : Int) : String := String.ofList (intDigits i)

/-- `cs` after as many copies of `fill` as it takes to reach `width` characters. -/
def padStart (fill : Char) (width : Nat) (cs : List Char) : List Char :=
  List.replicate (width - cs.length) fill ++ cs

/-- Integers that fit a signed word of 64 bits. -/
def fitsInt64 (i : Int) : Bool := Int64.minValue.toInt ≤ i && i ≤ Int64.maxValue.toInt

/-- The integer written in `cs`, when it fits a signed word of 64 bits. -/
def readInt64? (cs : List Char) : Option Int64 :=
  match readInt? cs with
  | some i => if fitsInt64 i then some (Int64.ofInt i) else none
  | none => none

/-- A signed word as text. -/
def writeInt64 (i : Int64) : String := writeInt i.toInt

theorem natDigits_ne_nil (n : Nat) : natDigits n ≠ [] := by
  intro h
  have := Nat.length_toDigits_pos (b := 10) (n := n)
  unfold natDigits at h
  simp [h] at this

theorem readNat?_natDigits (n : Nat) : readNat? (natDigits n) = some n := by
  have hAll : (natDigits n).all Char.isDigit = true :=
    List.all_eq_true.2 fun c hc => Nat.isDigit_of_mem_toDigits (by decide) (by decide) hc
  have hNe : (natDigits n).isEmpty = false := by
    simpa using natDigits_ne_nil n
  have hValue : Nat.ofDigitChars 10 (natDigits n) 0 = n := by simp [natDigits]
  simp only [readNat?, hAll, hNe, hValue]
  rfl

end Shelfmark.Text
