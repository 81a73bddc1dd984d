import Shelfmark.Proofs.Query.Phrases
import Shelfmark.Record.Statement
import Shelfmark.Store.Tables

/-!
# Statements that delete rows

A statement that deletes is put together from conditions, and for each of them a value is put
behind those that are there already. Text and values grow side by side, and nothing but their order
tells which value belongs to which condition. If one of them were left out or moved, a statement
would delete the wrong rows and there would be no error.

So the statement is read from its text here, without knowing how it was made: a table, and tests
that `and` ties together, each with one mark. Values are bound to the marks from left to right. A
condition that is put behind a statement becomes the last test and its value the last value,
whatever stands before it, `Statement.Says.narrowed`. So a statement says just the conditions
that were put into it one after the other, whichever of them were left out.

## Main results

* `Statement.Says.narrowed` — one more condition is one more test with its value.
* `Statement.deletes?_narrowedBy` — what a statement of many conditions deletes.
-/

namespace Shelfmark

/-! ## Reading -/

namespace Sql

/-- A test of a row with one mark in it: a column has the value, or it has what a column of some
row of another table has that passes such a test itself. -/
inductive Test where
  | equals (column : String)
  | among (column chosen table filter : String)
  deriving DecidableEq, Repr

/-- What a statement that deletes says: from which table, and which tests a row has to pass. -/
structure Deletion where
  table : String
  tests : List Test
  deriving DecidableEq, Repr

/-- The test that tokens make up. -/
def readTest? : List Token → Option Test
  | [.word column, .symbol '=', .mark] => some (.equals column)
  | [.word column, .word "in", .opening, .word "select", .word chosen, .word "from", .word table,
      .word "where", .word filter, .symbol '=', .mark, .closing] =>
      some (.among column chosen table filter)
  | _ => none

/-- The tests that tokens make up, with `and` between them. -/
def readTests? (ts : List Token) : Option (List Test) :=
  (ts.splitOn (.word "and")).mapM readTest?

/-- The deletion that a text asks for. -/
def readDeletion? (text : String) : Option Deletion :=
  match tokens text with
  | .word "delete" :: .word "from" :: .word table :: .word "where" :: condition =>
      (readTests? condition).map fun tests => ⟨table, tests⟩
  | _ => none

theorem readTests?_and {ts us : List Token} {tests tests' : List Test}
    (h : readTests? ts = some tests) (h' : readTests? us = some tests') :
    readTests? (ts ++ .word "and" :: us) = some (tests ++ tests') := by
  unfold readTests? List.splitOn at h h' ⊢
  rw [List.splitOnP_append_cons _ _ (by simp), List.mapM_append, h, h']
  rfl

/-- A condition behind the others is one more test. -/
theorem readDeletion?_and {text condition : String} {d : Deletion} {test : Test}
    (h : readDeletion? text = some d) (hTest : readTests? (tokens condition) = some [test]) :
    readDeletion? (text ++ " and " ++ condition) = some ⟨d.table, d.tests ++ [test]⟩ := by
  have hTokens : tokens (text ++ " and " ++ condition) =
      tokens text ++ .word "and" :: tokens condition := by
    rw [tokens_between text " and " rfl rfl, List.append_assoc]
    rfl
  unfold readDeletion? at h ⊢
  rw [hTokens]
  split at h
  · rename_i table before hText
    obtain ⟨tests, hTests, rfl⟩ := Option.map_eq_some_iff.1 h
    simp only [hText, List.cons_append, readTests?_and hTests hTest, Option.map_some]
  · cases h

end Sql

open Sql

/-! ## Deleting -/

/-- Whether a row passes a test with the value that is bound to its mark. -/
def Sql.Test.passes (t : Tables) (kind : Kind) (row : Row) (value : Cell) : Test → Bool
  | .equals column => (row.cell kind column).same value
  | .among column chosen table filter =>
      match Kind.all.find? fun other => other.table = table with
      | some other =>
          (t.rows other).any fun r =>
            (r.cell other filter).same value && (row.cell kind column).same (r.cell other chosen)
      | none => false

namespace Statement

/-- The kind and the rows that a statement deletes: those that pass every test, with the values
bound to the marks in their order. There has to be one value for each mark. -/
def deletes? (s : Statement) (t : Tables) : Option (Kind × (Row → Bool)) :=
  match readDeletion? s.text with
  | none => none
  | some d =>
      match Kind.all.find? fun kind => kind.table = d.table with
      | none => none
      | some kind =>
          if d.tests.length = s.params.length then
            some (kind, fun row => (d.tests.zip s.params).all fun p => p.1.passes t kind row p.2)
          else none

/-- The statement with one more condition and the value for its mark, if there is one. -/
def narrowed (s : Statement) (condition : String) : Option String → Statement
  | none => s
  | some value => ⟨s.text ++ " and " ++ condition, s.params ++ [.text value]⟩

/-- Whether a statement deletes from a table by certain tests with certain values. -/
structure Says (s : Statement) (table : String) (conditions : List (Test × Cell)) : Prop where
  text : readDeletion? s.text = some ⟨table, conditions.map Prod.fst⟩
  params : s.params = conditions.map Prod.snd

/-- **One more condition is one more test with its value**, behind those that are there. -/
theorem Says.narrowed {s : Statement} {table : String} {conditions : List (Test × Cell)}
    (h : s.Says table conditions) {condition : String} {test : Test}
    (hTest : readTests? (tokens condition) = some [test]) (value : Option String) :
    (s.narrowed condition value).Says table
      (conditions ++ value.toList.map fun v => (test, .text v)) := by
  cases value with
  | none =>
    rw [Option.toList_none, List.map_nil, List.append_nil]
    exact h
  | some v =>
    refine ⟨?_, ?_⟩
    · rw [Statement.narrowed, readDeletion?_and h.text hTest, List.map_append]
      rfl
    · rw [Statement.narrowed, h.params, List.map_append]
      rfl

/-- A row is deleted if it passes every test with its value. -/
theorem Says.deletes? {s : Statement} {table : String} {conditions : List (Test × Cell)}
    (h : s.Says table conditions) {kind : Kind}
    (hKind : (Kind.all.find? fun kind => kind.table = table) = some kind) (t : Tables) :
    s.deletes? t = some (kind, fun row => conditions.all fun p => p.1.passes t kind row p.2) := by
  have hLength : (conditions.map Prod.fst).length = (conditions.map Prod.snd).length := by
    rw [List.length_map, List.length_map]
  have hPairs : (conditions.map Prod.fst).zip (conditions.map Prod.snd) = conditions :=
    (List.zip_of_prod rfl rfl).symm
  simp only [Statement.deletes?, h.text, hKind, h.params, hLength, hPairs, if_true]

/-! ## Many conditions -/

/-- A condition that may be asked for: its text, the test that it is read as, and the value. -/
structure Clause where
  text : String
  test : Test
  value : Option String

/-- The statement with conditions put behind it one after the other, those that are asked for. -/
def narrowedBy (s : Statement) (clauses : List Clause) : Statement :=
  clauses.foldl (fun s clause => s.narrowed clause.text clause.value) s

theorem Says.narrowedBy {s : Statement} {table : String} {conditions : List (Test × Cell)}
    (h : s.Says table conditions) {clauses : List Clause}
    (hClauses : ∀ clause ∈ clauses, readTests? (tokens clause.text) = some [clause.test]) :
    (s.narrowedBy clauses).Says table
      (conditions ++ clauses.flatMap fun clause =>
        clause.value.toList.map fun v => (clause.test, .text v)) := by
  induction clauses generalizing s conditions with
  | nil =>
    rw [List.flatMap_nil, List.append_nil]
    exact h
  | cons clause clauses ih =>
    obtain ⟨hClause, hClauses⟩ := List.forall_mem_cons.1 hClauses
    rw [List.flatMap_cons, ← List.append_assoc]
    exact ih (h.narrowed hClause clause.value) hClauses

/-- **A statement of many conditions deletes the rows that pass all that are asked for.** -/
theorem deletes?_narrowedBy {s : Statement} {table : String} {first : Test} {value : Cell}
    (h : s.Says table [(first, value)]) {kind : Kind}
    (hKind : (Kind.all.find? fun kind => kind.table = table) = some kind) {clauses : List Clause}
    (hClauses : ∀ clause ∈ clauses, readTests? (tokens clause.text) = some [clause.test])
    (t : Tables) :
    (s.narrowedBy clauses).deletes? t = some (kind, fun row =>
      first.passes t kind row value && clauses.all fun clause =>
        clause.value.all fun v => clause.test.passes t kind row (.text v)) := by
  have hValues : ∀ (row : Row) (clause : Clause),
      ((clause.value.toList.map fun v => (clause.test, Cell.text v)).all fun p =>
        p.1.passes t kind row p.2) =
      clause.value.all fun v => clause.test.passes t kind row (.text v) := by
    intro row clause
    cases clause.value <;> simp
  rw [(h.narrowedBy hClauses).deletes? hKind]
  simp only [List.all_append, List.all_cons, List.all_nil, Bool.and_true, List.all_flatMap, hValues]

end Statement

end Shelfmark
