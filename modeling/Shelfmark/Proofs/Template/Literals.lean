import Shelfmark.Proofs.Number.Shortest
import Shelfmark.Proofs.Template.RoundTrip
import Shelfmark.Template.Evaluation

/-!
# Integers in labels

A label takes an integer of 64 bits as a literal, and the value it stands for is a double,
which holds only 53 of them. So what is shown is not always the literal. It is an integer all
the same, and which one it is follows from the double alone, whatever the layout: small
doubles are cast back to an integer, and for the others the shortest digits are written out,
with zeros to fill.

## Main results

* `Value.numberText_ofInt` — an integer is shown as the integer that stands for its double.
* `literal_shown` — a literal in a block is shown so, and as itself just when it stands for
  its double.
-/

namespace Shelfmark.Template

open Shelfmark.Calendar
open Shelfmark.Text

namespace Value

open Shelfmark.Binary64

/-- A double that is an integer is shown as an integer. -/
theorem numberText_finite {s : Bool} {m v : ℕ} {e : ℤ} (h : IsNormal m e)
    (hv : (v : ℚ) = m * 2 ^ e) (hBound : v ≤ 2 ^ 64) :
    ∃ w, IsShortest m e v w ∧ numberText (finite s m e) = writeInt (signed s w) := by
  unfold numberText
  split
  · rename_i hSmall
    rw [Bool.and_eq_true, absBelow_iff hv] at hSmall
    have hLess : v < 10 ^ 15 := hSmall.2
    have hExact : e ≤ 0 := by
      rcases whole_cases hv with ⟨k, rfl, rfl⟩ | ⟨k, -, rfl, -⟩
      · -- with all bits of the mantissa before the point it would be larger
        have hMany : twoPow 52 * 1 ≤ m * twoPow k := Nat.mul_le_mul h.low (twoPow_pos k)
        rw [twoPow_eq 52] at hMany
        omega
      · omega
    have hWord : (finite s m e).toInt64 = signed s v := by
      unfold toInt64
      dsimp only
      rw [whole_eq hv, Int64.toInt_minValue, Int64.toInt_maxValue]
      cases s <;> simp only [signed] <;> norm_num <;> omega
    exact ⟨v, isShortest_of_exponent_nonpos h hv hExact, by rw [hWord]⟩
  · obtain ⟨w, hText, hShortest⟩ := shortest_spec h hv (by omega)
    refine ⟨w, hShortest, ?_⟩
    have hSome : m ≠ 0 := by
      rintro rfl
      exact absurd h.low (by decide)
    change String.ofList (signChars s ++ if m = 0 then ['0'] else (shortest .upper m e).positional) = _
    rw [if_neg hSome, hText,
      signChars_append_natDigits s (pos_of_inInterval h hShortest.inInterval)]
    rfl

/-- An integer is shown as the integer that stands for its double. -/
theorem numberText_ofInt {n : ℤ} (hn : n.natAbs < 2 ^ 64) :
    ∃ w, Shows (Binary64.ofInt n) w ∧ numberText (Binary64.ofInt n) = writeInt w := by
  by_cases hZero : n = 0
  · subst hZero
    refine ⟨0, ⟨rfl, fun b hb k _ => dvd_zero _, fun b hb _ => ?_, fun b hb _ _ => ?_⟩,
      by decide +kernel⟩
    · rw [eq_zero_of_ofInt_eq hb]
    · rw [eq_zero_of_ofInt_eq hb]
  · obtain ⟨m, e, hEq, hNormal, v, hv, hBound⟩ :=
      exists_ofRatio_one (decide (n < 0)) (Int.natAbs_pos.2 hZero) hn
    obtain ⟨w, hShortest, hText⟩ := numberText_finite (s := decide (n < 0)) hNormal hv hBound
    have hDouble : Binary64.ofInt n = finite (decide (n < 0)) m e := hEq
    rw [hDouble]
    exact ⟨_, hShortest.shows hNormal hv, hText⟩

/-- What an integer is shown as tells whether it stands for its double. -/
theorem numberText_eq_iff {n : ℤ} (hn : n.natAbs < 2 ^ 64) :
    numberText (Binary64.ofInt n) = writeInt n ↔ Shows (Binary64.ofInt n) n := by
  obtain ⟨w, hShows, hText⟩ := numberText_ofInt hn
  rw [hText]
  constructor
  · intro hSame
    have hRead := congrArg (fun s : String => readInt? s.toList) hSame
    simp only [writeInt, String.toList_ofList, readInt?_intDigits, Option.some.injEq] at hRead
    rwa [hRead] at hShows
  · intro hSelf
    rw [hShows.unique hSelf]

/-- Integers of 53 bits stand for their doubles. -/
theorem shows_of_natAbs_lt {n : ℤ} (hn : n.natAbs < 2 ^ 53) : Shows (Binary64.ofInt n) n := by
  by_cases hZero : n = 0
  · rw [← numberText_eq_iff (by omega), hZero]
    decide +kernel
  · obtain ⟨m, e, hEq, hNormal, v, hv, -⟩ :=
      exists_ofRatio_one (decide (n < 0)) (Int.natAbs_pos.2 hZero) (by omega)
    have hDouble : Binary64.ofInt n = finite (decide (n < 0)) m e := hEq
    obtain ⟨w, hIn, hw⟩ := (ofInt_eq_finite_iff hNormal).1 hDouble
    have hSmall : w < 2 ^ 53 := by
      have hAbs := congrArg Int.natAbs hw
      rw [natAbs_signed] at hAbs
      omega
    have hExact := exponent_nonpos_of_lt hNormal hIn hSmall
    obtain rfl := eq_of_exponent_nonpos hNormal hv hExact hIn
    have hShows := (isShortest_of_exponent_nonpos hNormal hv hExact).shows
      (s := decide (n < 0)) hNormal hv
    rwa [← hDouble, ← hw] at hShows

theorem shows_of_natAbs_le {n : ℤ} (hn : n.natAbs ≤ 2 ^ 53) : Shows (Binary64.ofInt n) n := by
  rcases hn.lt_or_eq with hLess | hEq
  · exact shows_of_natAbs_lt hLess
  · rw [← numberText_eq_iff (by omega)]
    rcases Int.natAbs_eq_iff.1 hEq with rfl | rfl
    · decide +kernel
    · decide +kernel

end Value

/-- The template that is one block with a number. -/
def literal (n : Int64) : List Node := [.block ⟨false, [.number n]⟩]

theorem parse_literal (n : Int64) : parse (print (literal n)) = .ok (literal n) := by
  refine parse_print_of_wellFormed ⟨?_, .singleton _⟩
  intro node hNode
  obtain rfl := List.mem_singleton.1 hNode
  refine ⟨by simp, fun e he => ?_⟩
  obtain rfl := List.mem_singleton.1 he
  exact .number n

theorem process_literal (ev : Evaluator) {template : String} {optional : Bool} {n : Int64}
    (h : parse template = .ok [.block ⟨optional, [.number n]⟩]) :
    ev.process template = .ok (Value.numberText (Binary64.ofInt n.toInt)) := by
  have hText : ev.nodesText [.block ⟨optional, [.number n]⟩] =
      .ok (Value.numberText (Binary64.ofInt n.toInt) ++ "") := by
    rw [Evaluator.nodesText_cons, Evaluator.nodeText, Evaluator.blockValue_cons]
    cases optional <;> rfl
  rw [Evaluator.process, h]
  dsimp only
  rw [hText, String.append_empty]

/-- **An integer in a label is shown as the integer that stands for its double.** That is the
integer itself just when it stands for its double, and so whenever it has at most 53 bits. -/
theorem literal_shown (ev : Evaluator) (n : Int64) :
    parse (print (literal n)) = .ok (literal n) ∧
      ∀ (template : String) (optional : Bool),
        parse template = .ok [.block ⟨optional, [.number n]⟩] →
          (∃ w : ℤ, ev.process template = .ok (writeInt w) ∧
            Binary64.Shows (Binary64.ofInt n.toInt) w) ∧
          (ev.process template = .ok (writeInt64 n) ↔
            Binary64.Shows (Binary64.ofInt n.toInt) n.toInt) ∧
          (n.toInt.natAbs ≤ 2 ^ 53 → ev.process template = .ok (writeInt64 n)) := by
  have hLow := n.le_toInt
  have hHigh := n.toInt_lt
  have hWord : n.toInt.natAbs < 2 ^ 64 := by omega
  refine ⟨parse_literal n, fun template optional hParse => ?_⟩
  rw [process_literal ev hParse, Except.ok.injEq, writeInt64, Value.numberText_eq_iff hWord]
  obtain ⟨w, hShows, hText⟩ := Value.numberText_ofInt hWord
  exact ⟨⟨w, by rw [hText], hShows⟩, Iff.rfl, Value.shows_of_natAbs_le⟩

theorem literal_shown_sample :
    parse "\x7b? +0012 \x7d" = .ok [.block ⟨true, [.number 12]⟩] ∧
      (12 : Int64).toInt.natAbs ≤ 2 ^ 53 ∧
      (⟨[], [], false, ", ", "", Moment.epoch⟩ : Evaluator).process "\x7b? +0012 \x7d" =
        .ok (writeInt64 12) := by
  have hParse : parse "\x7b? +0012 \x7d" = .ok [.block ⟨true, [.number 12]⟩] := by
    decide +kernel
  have hSmall : (12 : Int64).toInt.natAbs ≤ 2 ^ 53 := by decide
  exact ⟨hParse, hSmall, ((literal_shown _ 12).2 _ _ hParse).2.2 hSmall⟩

/-- The first integer that no double holds is shown as its neighbour. -/
theorem literal_not_always_itself :
    parse "\x7b9007199254740993\x7d" = .ok (literal 9007199254740993) ∧
      ∀ ev : Evaluator,
        ev.process "\x7b9007199254740993\x7d" = .ok "9007199254740992" ∧
        ev.process "\x7b9007199254740993\x7d" ≠ .ok (writeInt64 9007199254740993) := by
  have hParse : parse "\x7b9007199254740993\x7d" = .ok (literal 9007199254740993) := by
    decide +kernel
  have hText : Value.numberText (Binary64.ofInt (9007199254740993 : Int64).toInt) =
      "9007199254740992" := by decide +kernel
  refine ⟨hParse, fun ev => ?_⟩
  have hProcess := process_literal ev hParse
  rw [hText] at hProcess
  rw [hProcess]
  exact ⟨rfl, by decide +kernel⟩

end Shelfmark.Template
