import Mathlib.Data.List.Forall2
import Shelfmark.Proofs.Query.Naming
import Shelfmark.Proofs.Query.Phrases
import Shelfmark.Proofs.Text.Digits

/-!
# How conditions and orders are worded

`Writes` says of a text which phrases it is read as and what is found in them: all columns are of
known rows, the marks belong to certain columns, and the subqueries introduce names with certain
numbers. Texts that are joined by a connective add up all of this, and brackets keep it. A
subquery knows the names that it introduces in addition to those around it.

With these few laws the texts of conditions and of sort keys are read piece by piece. The numbers
come out in the order of the text, one after the other from the first that was not in use; this is
where it shows that no two subqueries share one.

The tables and columns that go into a text are names, that is words without a point in them that
are no keywords. There are finitely many of them.
-/

namespace Shelfmark

open Sql

/-! ## Names -/

/-- Whether a text is a name: a word without a point, and none that introduces names. -/
def isName (s : String) : Bool :=
  s ≠ "" && s.toList.all (fun c => isWordChar c && c ≠ '.') && s ≠ "from" && s ≠ "join"

theorem isName_iff {s : String} :
    isName s = true ↔ s ≠ "" ∧ (∀ c ∈ s.toList, isWordChar c = true ∧ c ≠ '.') ∧
      s ≠ "from" ∧ s ≠ "join" := by
  simp [isName, and_assoc]

theorem tokens_name {s : String} (h : isName s = true) : tokens s = [.word s] := by
  obtain ⟨hThere, hChars, -⟩ := isName_iff.1 h
  exact tokens_word hThere fun c hc => (hChars c hc).1

theorem isColumn_name {s : String} (h : isName s = true) : isColumn s = false := by
  obtain ⟨-, hChars, -⟩ := isName_iff.1 h
  simpa [isColumn] using fun hPoint => (hChars '.' hPoint).2 rfl

theorem quiet_name {s : String} (h : isName s = true) :
    Phrase.word s ≠ .word "from" ∧ Phrase.word s ≠ .word "join" := by
  obtain ⟨-, -, hFrom, hJoin⟩ := isName_iff.1 h
  exact ⟨fun hSame => hFrom (Phrase.word.inj hSame), fun hSame => hJoin (Phrase.word.inj hSame)⟩

/-- The names of rows are names: a letter, with the digits of a number behind it. -/
theorem RowName.isName_text (row : RowName) : isName row.text = true := by
  have hNumber : ∀ (letter : Char) (n : Nat), letter = 't' ∨ letter = 'x' →
      isName (String.singleton letter ++ Nat.repr n) = true := by
    intro letter n hLetter
    have hDigits : ∀ c ∈ (Nat.repr n).toList, isWordChar c = true ∧ c ≠ '.' := by
      intro c hc
      have hDigit : c.isDigit = true :=
        Text.isDigit_of_mem_natDigits (n := n) (by simpa [Nat.repr, Text.natDigits] using hc)
      refine ⟨by simp [isWordChar, Char.isAlphanum, hDigit], ?_⟩
      rintro rfl
      exact absurd hDigit (by decide)
    have hList : (String.singleton letter ++ Nat.repr n).toList = letter :: (Nat.repr n).toList := by
      simp
    have hHead : ∀ s : String, (String.singleton letter ++ Nat.repr n) = s →
        s.toList.head? = some letter := by
      rintro s rfl
      rw [hList]
      rfl
    refine isName_iff.2 ⟨fun hSame => ?_, fun c hc => ?_, fun hSame => ?_, fun hSame => ?_⟩
    · exact absurd (hHead "" hSame) (by simp)
    · rw [hList] at hc
      rcases List.mem_cons.1 hc with rfl | hRest
      · rcases hLetter with rfl | rfl <;> decide
      · exact hDigits c hRest
    · have hLetter' : some 'f' = some letter := hHead "from" hSame
      rcases hLetter with rfl | rfl <;> cases hLetter'
    · have hLetter' : some 'j' = some letter := hHead "join" hSame
      rcases hLetter with rfl | rfl <;> cases hLetter'
  cases row with
  | self | selfLink => decide
  | target n => exact hNumber 't' n (Or.inl rfl)
  | link n => exact hNumber 'x' n (Or.inr rfl)

section

variable (row : RowName) {name : String} (h : isName name = true)

include h in
theorem tokens_column : tokens (row.text ++ "." ++ name) = [.word (row.text ++ "." ++ name)] := by
  obtain ⟨-, hRow, -⟩ := isName_iff.1 row.isName_text
  obtain ⟨-, hName, -⟩ := isName_iff.1 h
  refine tokens_word (fun hNone => ?_) fun c hc => ?_
  · have hLength := congrArg String.toList hNone
    simp at hLength
  · simp only [String.toList_append, List.mem_append] at hc
    rcases hc with (hc | hc) | hc
    · exact (hRow c hc).1
    · obtain rfl : c = '.' := by simpa using hc
      decide
    · exact (hName c hc).1

omit h in
theorem isColumn_column (name : String) : isColumn (row.text ++ "." ++ name) = true := by
  simp [isColumn]

omit h in
theorem qualifier_column (name : String) : qualifier (row.text ++ "." ++ name) = row.text := by
  obtain ⟨-, hRow, -⟩ := isName_iff.1 row.isName_text
  have hTake : (row.text.toList ++ '.' :: name.toList).takeWhile (fun c => decide (c ≠ '.')) =
      row.text.toList := by
    rw [List.takeWhile_append_of_pos fun c hc => by simpa using (hRow c hc).2]
    simp
  unfold qualifier
  simp only [String.toList_append, List.append_assoc]
  rw [show ".".toList ++ name.toList = '.' :: name.toList from rfl, hTake, String.ofList_toList]

omit h in
theorem quiet_column (name : String) : Phrase.word (row.text ++ "." ++ name) ≠ .word "from" ∧
    Phrase.word (row.text ++ "." ++ name) ≠ .word "join" := by
  have hColumn := isColumn_column row name
  constructor <;>
  · intro hSame
    rw [Phrase.word.inj hSame] at hColumn
    exact absurd hColumn (by decide)

end

theorem tokens_quoted {s : String} (h : isName s = true) :
    tokens ("'" ++ s ++ "'") = [.word ("'" ++ s ++ "'")] := by
  obtain ⟨-, hChars, -⟩ := isName_iff.1 h
  refine tokens_word (fun hNone => ?_) fun c hc => ?_
  · have hLength := congrArg String.toList hNone
    simp at hLength
  · have hCases : c = '\'' ∨ c ∈ s.toList := by simpa [or_comm, or_assoc, or_left_comm] using hc
    rcases hCases with rfl | hIn
    · decide
    · exact (hChars c hIn).1

theorem scoped_quoted {s : String} (h : isName s = true) (names : List String) :
    (Phrase.word ("'" ++ s ++ "'")).Scoped names := by
  have hNoPoint := isColumn_name h
  have hColumn : isColumn ("'" ++ s ++ "'") = false := by simpa [isColumn] using hNoPoint
  rw [Phrase.Scoped, if_neg (by simp [hColumn])]
  exact Or.inl (by simp [isPlain])

theorem quiet_quoted (s : String) : Phrase.word ("'" ++ s ++ "'") ≠ .word "from" ∧
    Phrase.word ("'" ++ s ++ "'") ≠ .word "join" := by
  constructor <;>
  · intro hSame
    have hHead := congrArg (fun w => w.toList.head?) (Phrase.word.inj hSame)
    simp at hHead

theorem scoped_plain {s : String} (hColumn : isColumn s = false) (hPlain : isPlain s = true)
    (names : List String) : (Phrase.word s).Scoped names := by
  rw [Phrase.Scoped, if_neg (by simp [hColumn])]
  exact Or.inl hPlain

theorem scoped_row {row : RowName} {names : List String} (h : row.text ∈ names) :
    (Phrase.word row.text).Scoped names := by
  rw [Phrase.Scoped, if_neg (by simp [isColumn_name row.isName_text])]
  exact Or.inr h

theorem scoped_column {row : RowName} {names : List String} (h : row.text ∈ names)
    (name : String) : (Phrase.word (row.text ++ "." ++ name)).Scoped names := by
  rw [Phrase.Scoped, if_pos (isColumn_column row name), qualifier_column]
  exact h

/-! ## Routes -/

namespace Route

/-- The rows of the subquery with a number, in the order in which it introduces them. -/
def rows (r : Route) (n : Nat) : List RowName :=
  match r.join with
  | .direct _ _ => [.target n]
  | .through _ _ _ => [.link n, .target n]

/-- The tables and columns that go into the text of a route. -/
def words (r : Route) : List String :=
  [r.target.table, r.target.keyColumn] ++
    (match r.join with
      | .direct column outerColumn => [column, outerColumn]
      | .through link anchor reference => [link.table, anchor, reference]) ++
    r.restriction.toList.flatMap fun rule => [rule.column, rule.value]

/-- Whether all that goes into the text of a route is a name, its tables are tables of a
catalogue, and a restriction is about a row that the subquery has. -/
structure Named (r : Route) : Prop where
  words : ∀ w ∈ r.words, isName w = true
  tables : r.target.table ∈ tables ∧ ∀ link ∈ r.link?, link.table ∈ tables
  onLink : ∀ rule ∈ r.restriction, rule.onLink = true → r.link? ≠ none

theorem named_of_mem {kind : Kind} {r : Route} (h : r ∈ kind.routes) : r.Named := by
  have hWords : ∀ r ∈ kind.routes, ∀ w ∈ r.words, isName w = true := by
    cases kind <;> decide +kernel
  have hTables : ∀ r ∈ kind.routes,
      r.target.table ∈ tables ∧ ∀ link ∈ r.link?, link.table ∈ tables := by
    cases kind <;> decide +kernel
  have hLink : ∀ r ∈ kind.routes, ∀ rule ∈ r.restriction, rule.onLink = true → r.link? ≠ none := by
    cases kind <;> decide
  exact ⟨hWords r h, hTables r h, hLink r h⟩

/-- The tables of the subquery with a number, as phrases. -/
def fromPhrases (r : Route) (n : Nat) : List Phrase :=
  let t := (RowName.target n).text
  let x := (RowName.link n).text
  match r.join with
  | .direct _ _ => [.word r.target.table, .word t]
  | .through link _ reference =>
      [.word link.table, .word x, .word "join", .word r.target.table, .word t, .word "on",
        .word (t ++ "." ++ "uuid"), .symbol '=', .word (x ++ "." ++ reference)]

/-- What the restriction says, as phrases. -/
def restrictionPhrases (r : Route) (n : Nat) : List Phrase :=
  match r.restriction with
  | none => []
  | some rule =>
      let row := if rule.onLink then RowName.link n else RowName.target n
      [.word "and", .word (row.text ++ "." ++ rule.column), .symbol '=',
        .word ("'" ++ rule.value ++ "'")]

/-- The condition that ties the subquery with a number to an outer row, as phrases. -/
def conditionPhrases (r : Route) (outer : RowName) (n : Nat) : List Phrase :=
  (match r.join with
    | .direct column outerColumn =>
        [.word ((RowName.target n).text ++ "." ++ column), .symbol '=',
          .word (outer.text ++ "." ++ outerColumn)]
    | .through _ anchor _ =>
        [.word ((RowName.link n).text ++ "." ++ anchor), .symbol '=',
          .word (outer.text ++ "." ++ "uuid")]) ++
    r.restrictionPhrases n

variable {r : Route}

theorem tokens_fromText (h : r.Named) (n : Nat) :
    tokens (r.fromText n) = allTokens (r.fromPhrases n) := by
  have hWords := h.words
  unfold words at hWords
  unfold fromText fromPhrases
  cases hJoin : r.join with
  | direct column outerColumn =>
      rw [hJoin] at hWords
      have hTable := hWords r.target.table (by simp)
      simp only
      rw [tokens_between _ " " rfl rfl, tokens_name hTable,
        tokens_name (RowName.isName_text _)]
      rfl
  | through link anchor reference =>
      rw [hJoin] at hWords
      have hTable := hWords r.target.table (by simp)
      have hLink := hWords link.table (by simp)
      have hReference := hWords reference (by simp)
      have hLiteral : ".uuid = " = "." ++ "uuid" ++ " = " := rfl
      have hText : ∀ t x : String, link.table ++ " " ++ x ++ " join " ++ r.target.table ++ " " ++ t ++
          " on " ++ t ++ ".uuid = " ++ x ++ "." ++ reference =
            link.table ++ " " ++ x ++ " join " ++ r.target.table ++ " " ++ t ++ " on " ++
              (t ++ "." ++ "uuid") ++ " = " ++ (x ++ "." ++ reference) := by
        intro t x
        simp only [hLiteral, String.append_assoc]
      simp only
      rw [hText, tokens_between _ " = " rfl rfl,
        tokens_between _ " on " rfl rfl, tokens_between _ " " rfl rfl,
        tokens_between _ " join " rfl rfl, tokens_between _ " " rfl rfl,
        tokens_name hTable, tokens_name hLink, tokens_name (RowName.isName_text _),
        tokens_name (RowName.isName_text _), tokens_column _ rfl, tokens_column _ hReference]
      rfl

theorem tokens_restrictionText (h : r.Named) (n : Nat) :
    tokens (r.restrictionText n) = allTokens (r.restrictionPhrases n) := by
  have hWords := h.words
  unfold words at hWords
  unfold restrictionText restrictionPhrases
  cases hRule : r.restriction with
  | none => rfl
  | some rule =>
      rw [hRule] at hWords
      have hColumn := hWords rule.column (by simp)
      have hValue := hWords rule.value (by simp)
      have hLiteral : " = '" = " = " ++ "'" := rfl
      have hText : ∀ row : String, " and " ++ row ++ "." ++ rule.column ++ " = '" ++ rule.value ++ "'" =
          " and " ++ (row ++ "." ++ rule.column) ++ " = " ++ ("'" ++ rule.value ++ "'") := by
        intro row
        simp only [hLiteral, String.append_assoc, -String.reduceAppend]
      simp only
      rw [hText, tokens_between _ " = " rfl rfl,
        tokens_append_of_ends (a := " and ") rfl, tokens_column _ hColumn, tokens_quoted hValue]
      rfl

theorem tokens_conditionText (h : r.Named) (outer : RowName) (n : Nat) :
    tokens (r.conditionText outer n) = allTokens (r.conditionPhrases outer n) := by
  have hWords := h.words
  unfold words at hWords
  -- What the restriction adds starts with a blank, if it is there.
  have hAdded : ∀ a : String, tokens (a ++ r.restrictionText n) =
      tokens a ++ allTokens (r.restrictionPhrases n) := by
    intro a
    rw [← tokens_restrictionText h]
    unfold restrictionText
    cases r.restriction with
    | none => simp [tokens, lexFrom, wordToken]
    | some rule => exact tokens_append_of_starts a (by simp [startsApart, isWordChar])
  unfold conditionText conditionPhrases
  rw [hAdded, allTokens_append]
  congr 1
  cases hJoin : r.join with
  | direct column outerColumn =>
      rw [hJoin] at hWords
      have hColumn := hWords column (by simp)
      have hOuter := hWords outerColumn (by simp)
      have hText : ∀ t o : String, t ++ "." ++ column ++ " = " ++ o ++ "." ++ outerColumn =
          t ++ "." ++ column ++ " = " ++ (o ++ "." ++ outerColumn) := by
        intro t o
        simp only [String.append_assoc]
      simp only
      rw [hText, tokens_between _ " = " rfl rfl, tokens_column _ hColumn,
        tokens_column _ hOuter]
      rfl
  | through link anchor reference =>
      rw [hJoin] at hWords
      have hAnchor := hWords anchor (by simp)
      have hLiteral : ".uuid" = "." ++ "uuid" := rfl
      have hText : ∀ x o : String, x ++ "." ++ anchor ++ " = " ++ o ++ ".uuid" =
          x ++ "." ++ anchor ++ " = " ++ (o ++ "." ++ "uuid") := by
        intro x o
        simp only [hLiteral, String.append_assoc]
      simp only
      rw [hText, tokens_between _ " = " rfl rfl, tokens_column _ hAnchor,
        tokens_column _ rfl]
      rfl

/-! ## What is found in the text of a route -/

/-- The subquery introduces its rows. -/
theorem introduced_fromPhrases (h : r.Named) (n : Nat) (rest : List Phrase) :
    introduced (.word "from" :: (r.fromPhrases n ++ rest)) =
      (r.rows n).map RowName.text ++ introduced rest := by
  have hWords := h.words
  unfold words at hWords
  have hTable := quiet_name (hWords r.target.table (by simp))
  have hRow := quiet_name (RowName.isName_text (.target n))
  unfold fromPhrases rows
  cases hJoin : r.join with
  | direct column outerColumn =>
      simp only [List.cons_append, List.nil_append]
      rw [introduced_keyword (Or.inl rfl), introduced_cons hTable, introduced_cons hRow]
      rfl
  | through link anchor reference =>
      rw [hJoin] at hWords
      have hLink := quiet_name (hWords link.table (by simp))
      have hLinkRow := quiet_name (RowName.isName_text (.link n))
      have hOn : Phrase.word "on" ≠ .word "from" ∧ Phrase.word "on" ≠ .word "join" := by simp
      have hEquals : Phrase.symbol '=' ≠ .word "from" ∧ Phrase.symbol '=' ≠ .word "join" := by simp
      simp only [List.cons_append, List.nil_append]
      rw [introduced_keyword (Or.inl rfl), introduced_cons hLink, introduced_cons hLinkRow,
        introduced_keyword (Or.inr rfl), introduced_cons hTable, introduced_cons hRow,
        introduced_cons hOn, introduced_cons (quiet_column _ _), introduced_cons hEquals,
        introduced_cons (quiet_column _ _)]
      rfl

/-- Only words and symbols go into the text of a route. -/
theorem flat_fromPhrases (r : Route) (n : Nat) : Flat (r.fromPhrases n) := by
  unfold fromPhrases
  cases r.join <;> simp [Flat]

theorem flat_conditionPhrases (r : Route) (outer : RowName) (n : Nat) :
    Flat (r.conditionPhrases outer n) := by
  unfold conditionPhrases restrictionPhrases
  cases r.join <;> cases r.restriction <;> simp [Flat]

variable {names : List String}

theorem scoped_fromPhrases (h : r.Named) {n : Nat}
    (hRows : ∀ row ∈ r.rows n, row.text ∈ names) : ScopedAll names (r.fromPhrases n) := by
  have hWords := h.words
  unfold words at hWords
  have hScoped : ∀ {table : String}, isName table = true → table ∈ tables →
      (Phrase.word table).Scoped names := fun hName hTable =>
    scoped_plain (isColumn_name hName) (by simp [isPlain, hTable]) names
  have hTable := hScoped (hWords r.target.table (by simp)) h.tables.1
  unfold rows at hRows
  unfold fromPhrases
  cases hJoin : r.join with
  | direct column outerColumn =>
      rw [hJoin] at hRows
      exact ⟨hTable, scoped_row (hRows _ (by simp)), trivial⟩
  | through link anchor reference =>
      rw [hJoin] at hWords hRows
      have hTarget : (RowName.target n).text ∈ names := hRows _ (by simp)
      have hLink : (RowName.link n).text ∈ names := hRows _ (by simp)
      have hLinkTable := hScoped (hWords link.table (by simp)) (h.tables.2 link (by simp [link?, hJoin]))
      exact ⟨hLinkTable, scoped_row hLink, scoped_plain rfl rfl names, hTable, scoped_row hTarget,
        scoped_plain rfl rfl names, scoped_column hTarget _, trivial, scoped_column hLink _, trivial⟩

theorem scoped_conditionPhrases (h : r.Named) {n : Nat} {outer : RowName}
    (hRows : ∀ row ∈ r.rows n, row.text ∈ names) (hOuter : outer.text ∈ names) :
    ScopedAll names (r.conditionPhrases outer n) := by
  have hWords := h.words
  unfold words at hWords
  have hTarget : (RowName.target n).text ∈ names := hRows _ (by unfold rows; cases r.join <;> simp)
  unfold conditionPhrases
  rw [scopedAll_append]
  constructor
  · cases hJoin : r.join with
    | direct column outerColumn =>
        exact ⟨scoped_column hTarget _, trivial, scoped_column hOuter _, trivial⟩
    | through link anchor reference =>
        have hLink : (RowName.link n).text ∈ names := hRows _ (by simp [rows, hJoin])
        exact ⟨scoped_column hLink _, trivial, scoped_column hOuter _, trivial⟩
  · unfold restrictionPhrases
    cases hRule : r.restriction with
    | none => trivial
    | some rule =>
        rw [hRule] at hWords
        have hRow : (if rule.onLink then RowName.link n else RowName.target n).text ∈ names := by
          split
          · rename_i hOnLink
            have hThrough := h.onLink rule hRule hOnLink
            refine hRows _ ?_
            unfold link? at hThrough
            unfold rows
            cases hJoin : r.join with
            | direct column outerColumn => simp [hJoin] at hThrough
            | through link anchor reference => simp
          · exact hTarget
        exact ⟨scoped_plain rfl rfl names, scoped_column hRow _, trivial,
          scoped_quoted (hWords rule.value (by simp)) names, trivial⟩

/-- The condition of a route introduces no rows. -/
theorem quiet_conditionPhrases (r : Route) (outer : RowName) (n : Nat) :
    ∀ p ∈ r.conditionPhrases outer n, p ≠ .word "from" ∧ p ≠ .word "join" := by
  unfold conditionPhrases restrictionPhrases
  intro p hp
  rcases List.mem_append.1 hp with hp | hp
  · cases hJoin : r.join <;> simp only [hJoin, List.mem_cons, List.not_mem_nil, or_false] at hp
    all_goals
      rcases hp with rfl | rfl | rfl
      · exact quiet_column _ _
      · simp
      · exact quiet_column _ _
  · cases hRestriction : r.restriction with
    | none => simp [hRestriction] at hp
    | some rule =>
        simp only [hRestriction, List.mem_cons, List.not_mem_nil, or_false] at hp
        rcases hp with rfl | rfl | rfl | rfl
        · simp
        · exact quiet_column _ _
        · simp
        · exact quiet_quoted _

end Route

/-! ## Laws of wording -/

/-- Whether a text is read as certain phrases, in which all columns are of rows with known names,
the marks belong to certain columns, and the subqueries introduce names with certain numbers. -/
structure Writes (names : List String) (text : String) (ps : List Phrase) (columns : List String)
    (numbers : List Nat) : Prop where
  tokens : tokens text = allTokens ps
  known : ScopedAll names ps
  /-- No row is introduced outside of brackets. -/
  quiet : ∀ p ∈ ps, p ≠ .word "from" ∧ p ≠ .word "join"
  owners : ∀ last, owners last (allTokens ps) = columns
  numbers : List.Forall₂ Numbered (allSubqueries ps) numbers

namespace Writes

variable {names : List String} {a b : String} {ps qs : List Phrase} {columns columns' : List String}
  {numbers numbers' : List Nat}

/-- Words and symbols alone. -/
theorem flat (hTokens : Sql.tokens a = allTokens ps) (hScoped : ScopedAll names ps)
    (hQuiet : ∀ p ∈ ps, p ≠ .word "from" ∧ p ≠ .word "join") (hFlat : Flat ps) :
    Writes names a ps [] [] where
  tokens := hTokens
  known := hScoped
  quiet := hQuiet
  owners last := hFlat.owners last
  numbers := by rw [hFlat.allSubqueries]; exact .nil

/-- Texts add up, unless a word of the one would be drawn into a word of the other. -/
theorem append (h : Writes names a ps columns numbers) (h' : Writes names b qs columns' numbers')
    (hApart : endsApart a = true ∨ startsApart b = true) :
    Writes names (a ++ b) (ps ++ qs) (columns ++ columns') (numbers ++ numbers') where
  tokens := by
    rw [allTokens_append, ← h.tokens, ← h'.tokens]
    rcases hApart with hEnds | hStarts
    · exact tokens_append_of_ends hEnds b
    · exact tokens_append_of_starts a hStarts
  known := scopedAll_append.2 ⟨h.known, h'.known⟩
  quiet p hp := by
    rcases List.mem_append.1 hp with hp | hp
    · exact h.quiet p hp
    · exact h'.quiet p hp
  owners last := by
    rw [allTokens_append]
    exact owners_append h.owners h'.owners last
  numbers := by
    rw [allSubqueries_append]
    exact List.rel_append h.numbers h'.numbers

/-- Words and symbols behind a text bind nothing. -/
theorem behind (h : Writes names a ps columns numbers) (h' : Writes names b qs [] [])
    (hStarts : startsApart b = true) : Writes names (a ++ b) (ps ++ qs) columns numbers := by
  simpa only [List.append_nil] using h.append h' (Or.inr hStarts)

/-- So do words and symbols in front of it. -/
theorem before (h : Writes names a ps columns numbers) (h' : Writes names b qs [] [])
    (hApart : endsApart b = true ∨ startsApart a = true) :
    Writes names (b ++ a) (qs ++ ps) columns numbers :=
  h'.append h hApart

/-- Texts add up as well with something between them that keeps them apart. -/
theorem joined (h : Writes names a ps columns numbers) (h' : Writes names b qs columns' numbers')
    {between : String} {p : Phrase} (hBetween : Writes names between [p] [] [])
    (hStarts : startsApart between = true) (hEnds : endsApart between = true) :
    Writes names (a ++ between ++ b) (ps ++ p :: qs) (columns ++ columns') (numbers ++ numbers') := by
  have hRest := h'.before hBetween (Or.inl hEnds)
  have hAll := h.append hRest (Or.inr (startsApart_append hStarts b))
  rwa [← String.append_assoc] at hAll

/-- Brackets around a text that introduces no rows. -/
theorem bracketed (h : Writes names a ps columns numbers) :
    Writes names ("(" ++ a ++ ")") [.group ps] columns numbers where
  tokens := by
    rw [tokens_append_of_starts _ (b := ")") rfl, tokens_append_of_ends (a := "(") rfl, h.tokens]
    simp [allTokens, Phrase.tokens]
    rfl
  known := by
    refine ⟨?_, trivial⟩
    rw [Phrase.Scoped, introduced_eq_nil h.quiet, List.append_nil]
    exact h.known
  quiet p hp := by
    obtain rfl := List.mem_singleton.1 hp
    simp
  owners last := by
    have hClosing : ∀ last, Sql.owners last [Token.closing] = [] := fun _ => rfl
    have hClosed := owners_append h.owners hClosing
    simpa [allTokens, Phrase.tokens, Sql.owners] using hClosed last
  numbers := by
    simpa [allSubqueries, Phrase.subqueries, introduced_eq_nil h.quiet] using h.numbers

/-- A subquery: what it selects and what stands behind its condition knows its rows. -/
theorem subquery {r : Route} (hRoute : r.Named) {outer : RowName} (hOuter : outer.text ∈ names)
    {n : Nat} (h : Writes (names ++ (r.rows n).map RowName.text) a ps [] [])
    (h' : Writes (names ++ (r.rows n).map RowName.text) b qs columns numbers)
    (hStarts : startsApart b = true) :
    Writes names
      ("(select " ++ a ++ " from " ++ r.fromText n ++ " where " ++ r.conditionText outer n ++ b ++ ")")
      [.group ((.word "select" :: ps) ++ .word "from" :: (r.fromPhrases n ++
        (.word "where" :: (r.conditionPhrases outer n ++ qs))))]
      columns (n :: numbers) := by
  have hNone := introduced_eq_nil h'.quiet
  have hSelect : ∀ p ∈ .word "select" :: ps, p ≠ .word "from" ∧ p ≠ .word "join" := by
    intro p hp
    rcases List.mem_cons.1 hp with rfl | hp
    · simp
    · exact h.quiet p hp
  have hIntroduced : introduced ((.word "select" :: ps) ++ .word "from" :: (r.fromPhrases n ++
      (.word "where" :: (r.conditionPhrases outer n ++ qs)))) = (r.rows n).map RowName.text := by
    rw [introduced_append hSelect, Route.introduced_fromPhrases hRoute, introduced_cons (by simp),
      introduced_append (Route.quiet_conditionPhrases r outer n), hNone, List.append_nil]
  have hRows : ∀ row ∈ r.rows n, row.text ∈ names ++ (r.rows n).map RowName.text :=
    fun row hRow => List.mem_append_right _ (List.mem_map_of_mem hRow)
  constructor
  · rw [tokens_append_of_starts _ (b := ")") rfl, tokens_append_of_starts _ hStarts,
      tokens_between _ " where " rfl rfl, tokens_between _ " from " rfl rfl,
      tokens_append_of_ends (a := "(select ") rfl, h.tokens, h'.tokens,
      Route.tokens_fromText hRoute, Route.tokens_conditionText hRoute]
    simp only [allTokens, Phrase.tokens, allTokens_append, List.append_assoc, List.cons_append,
      List.nil_append]
    rfl
  · refine ⟨?_, trivial⟩
    rw [Phrase.Scoped, hIntroduced, scopedAll_append]
    refine ⟨⟨scoped_plain rfl rfl _, h.known⟩, scoped_plain rfl rfl _, ?_⟩
    rw [scopedAll_append]
    refine ⟨Route.scoped_fromPhrases hRoute hRows, scoped_plain rfl rfl _, ?_⟩
    rw [scopedAll_append]
    exact ⟨Route.scoped_conditionPhrases hRoute hRows (List.mem_append_left _ hOuter), h'.known⟩
  · intro p hp
    obtain rfl := List.mem_singleton.1 hp
    simp
  · intro last
    have hRest := owners_append (Route.flat_conditionPhrases r outer n).owners h'.owners
    have hWhere : ∀ last, Sql.owners last
        (.word "where" :: (allTokens (r.conditionPhrases outer n) ++ allTokens qs)) = columns :=
      fun last => hRest _
    have hRows := owners_append (Route.flat_fromPhrases r n).owners hWhere
    have hFrom : ∀ last, Sql.owners last (.word "from" :: (allTokens (r.fromPhrases n) ++
        (.word "where" :: (allTokens (r.conditionPhrases outer n) ++ allTokens qs)))) = columns :=
      fun last => hRows _
    have hClosing : ∀ last, Sql.owners last [Token.closing] = [] := fun _ => rfl
    have hClosed := owners_append (owners_append h.owners hFrom) hClosing
    simpa [allTokens, Phrase.tokens, allTokens_append, Sql.owners] using
      hClosed (if isColumn "select" then "select" else last)
  · have hFlat : allSubqueries ps = [] := List.forall₂_nil_right_iff.1 h.numbers
    have hNumbered : Numbered ((r.rows n).map RowName.text) n := by
      unfold Route.rows
      cases r.join
      · exact Or.inl rfl
      · exact Or.inr rfl
    have hThere : (r.rows n).map RowName.text ≠ [] := by
      unfold Route.rows
      cases r.join <;> simp
    have hAll : allSubqueries [.group ((.word "select" :: ps) ++ .word "from" :: (r.fromPhrases n ++
        (.word "where" :: (r.conditionPhrases outer n ++ qs))))] =
          (r.rows n).map RowName.text :: allSubqueries qs := by
      simp only [allSubqueries, Phrase.subqueries, hIntroduced, allSubqueries_append, hFlat,
        (Route.flat_fromPhrases r n).allSubqueries,
        (Route.flat_conditionPhrases r outer n).allSubqueries, List.isEmpty_iff, hThere, if_false,
        List.nil_append, List.append_nil, List.singleton_append]
    rw [hAll]
    exact .cons hNumbered h'.numbers

end Writes

/-- Whether texts, with a separator between them, are read as they should when some numbers are in
use before them and some after them: the marks belong to certain columns, and each subquery takes
the next number. -/
structure WritesList (names : List String) (between : String) (texts columns : List String)
    (used after : Nat) : Prop where
  none : texts = [] → columns = [] ∧ after = used
  text : texts ≠ [] → ∃ ps count,
    Writes names (between.intercalate texts) ps columns (List.range' (used + 1) count) ∧
      after = used + count

/-- What stands behind takes the numbers that follow. -/
theorem range'_append (used count count' : Nat) :
    List.range' (used + 1) count ++ List.range' (used + count + 1) count' =
      List.range' (used + 1) (count + count') := by
  rw [← List.range'_append_1, Nat.add_right_comm]

/-- A text in front of others. -/
theorem WritesList.cons {names : List String} {between a : String} {p : Phrase} {ps : List Phrase}
    {columns columns' texts : List String} {used count after : Nat}
    (hBetween : Writes names between [p] [] []) (hStarts : startsApart between = true)
    (hEnds : endsApart between = true)
    (h : Writes names a ps columns (List.range' (used + 1) count))
    (h' : WritesList names between texts columns' (used + count) after) :
    WritesList names between (a :: texts) (columns ++ columns') used after := by
  refine ⟨fun hNone => absurd hNone (by simp), fun _ => ?_⟩
  cases texts with
  | nil =>
      obtain ⟨rfl, rfl⟩ := h'.none rfl
      refine ⟨ps, count, ?_, rfl⟩
      rwa [String.intercalate_singleton, List.append_nil]
  | cons next texts =>
      obtain ⟨qs, count', hText, rfl⟩ := h'.text (by simp)
      refine ⟨ps ++ p :: qs, count + count', ?_, by omega⟩
      have hJoined := h.joined hText hBetween hStarts hEnds
      rwa [range'_append, ← String.intercalate_cons_cons] at hJoined

end Shelfmark
