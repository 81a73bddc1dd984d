import Shelfmark.Text.Cased
import Shelfmark.Text.CaseTables

/-!
# Case of letters

Full case mapping: a character may map to several characters. Lowering a whole
text writes a capital sigma at the end of a word in its final form, so it looks
at the neighbours of a sigma; lowering a single character does not.

Stored collations ignore the case of ASCII letters only; that is
`Char.toLower`, and none of the tables here take part in it.
-/

namespace Shelfmark.Text

/-- The code point that `n` maps to under ascending runs; itself when none holds it. -/
def mapRuns : List CaseRun → Nat → Nat
  | [], n => n
  | r :: rest, n =>
      if n < r.first then n
      else if n ≤ r.last && (n - r.first) % r.step == 0 then r.target + (n - r.first)
      else mapRuns rest n

/-- The lower-case form of one character on its own. -/
def lowerChar (c : Char) : List Char :=
  if c = 'İ' then ['i', '\u0307'] else [Char.ofNat (mapRuns lowerRuns c.toNat)]

/-- The capital form of one character. -/
def upperChar (c : Char) : List Char :=
  match upperExpansions.lookup c.toNat with
  | some capitals => capitals.map Char.ofNat
  | none => [Char.ofNat (mapRuns upperRuns c.toNat)]

/-- Whether the first character that does not ignore case has one. -/
def startsCased (cs : List Char) : Bool :=
  match cs.dropWhile isCaseIgnorable with
  | c :: _ => isCased c
  | [] => false

/-- Lowers `cs`, where `before` are the characters in front of it, nearest first. -/
def lowerFrom (before : List Char) : List Char → List Char
  | [] => []
  | c :: cs =>
      if c = 'Σ' then
        (if startsCased before && !startsCased cs then 'ς' else 'σ') :: lowerFrom (c :: before) cs
      else lowerChar c ++ lowerFrom (c :: before) cs

/-- The text in lower case. -/
def lowercase (s : String) : String := String.ofList (lowerFrom [] s.toList)

/-- The text in capitals. -/
def uppercase (s : String) : String := String.ofList (s.toList.flatMap upperChar)

end Shelfmark.Text
