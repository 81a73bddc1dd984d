import Shelfmark.Proofs.Answers
import Shelfmark.Proofs.Query.Wording

/-!
# Statements are well scoped

A criterion is compiled into text and values, and both go to the store together with the text of
the order. What makes this right is not written anywhere in the text: the values are taken for
the marks from left to right, names of rows are looked up in the subqueries around them, and the
condition may be put behind another one.

`Criterion.Binds` says which values a criterion binds, in which order, and to which columns. It
goes through the criterion as it is written, not through the text. `Scope.statement_well_formed`
reads the texts again and says that they agree with it.
-/

namespace Shelfmark

open Sql

/-! ## What a criterion binds -/

/-- What the values of a test are bound to: its column, value by value. What stands for the
absence of a value is not bound. -/
def Path.bindings (path : Path) (cells : List Cell) : List (Column × Cell) :=
  (cells.filter fun cell => !cell.isNull).map fun cell => (path.column, cell)

/-- Whether a criterion, in a scope and with some numbers in use, binds values to columns one
after the other, with how many numbers are in use after it. -/
inductive Criterion.Binds : Scope → Nat → Criterion → List (Column × Cell) → Nat → Prop where
  | equal {s : Scope} {used after : Nat} {property : String} {value : FieldValue} {path : Path}
      {cells : List Cell} (hPath : s.resolve Route.filterProperty used property = .ok (path, after))
      (hCells : comparedCells path.kind path.field [value] = .ok cells) :
      Binds s used (.equal property value) (path.bindings cells) after
  | oneOf {s : Scope} {used after : Nat} {property : String} {values : List FieldValue}
      {path : Path} {cells : List Cell}
      (hPath : s.resolve Route.filterProperty used property = .ok (path, after))
      (hCells : comparedCells path.kind path.field values = .ok cells) :
      Binds s used (.oneOf property values) (path.bindings cells) after
  | both {s : Scope} {used between after : Nat} {left right : Criterion}
      {bs bs' : List (Column × Cell)} (hLeft : Binds s used left bs between)
      (hRight : Binds s between right bs' after) :
      Binds s used (.both left right) (bs ++ bs') after
  | none {s : Scope} {used : Nat} : Binds s used (.anyOf []) [] used
  | more {s : Scope} {used between after : Nat} {term : Criterion} {terms : List Criterion}
      {bs bs' : List (Column × Cell)} (hTerm : Binds s used term bs between)
      (hTerms : Binds s between (.anyOf terms) bs' after) :
      Binds s used (.anyOf (term :: terms)) (bs ++ bs') after
  | related {s : Scope} {used after : Nat} {kind : Kind} {route : Route} {inner : Criterion}
      {bs : List (Column × Cell)} (hRoute : s.kind.routeTo? kind = some route)
      (hInner : Binds (.inner kind route (used + 1)) (used + 1) inner bs after) :
      Binds s used (.related kind inner) bs after

/-! ## Rows and columns of paths -/

/-- The rows that a scope is about. -/
def Scope.rows (s : Scope) : List RowName := s.self :: s.link.toList.map Prod.snd

/-- The names of the rows that a scope is about. -/
def Scope.names (s : Scope) : List String := s.rows.map RowName.text

theorem Scope.rows_inner {kind : Kind} {route : Route} {n : Nat} :
    ∀ row ∈ (Scope.inner kind route n).rows, row ∈ route.rows n := by
  unfold rows inner Route.rows Route.link?
  cases route.join <;> simp

theorem Field.isName_column {source : Source} {f : Field} (h : f ∈ source.fields) :
    isName f.column = true := by
  have hAll : ∀ f ∈ source.fields, isName f.column = true := by
    cases source with
    | records kind => cases kind <;> decide +kernel
    | summaries => decide +kernel
  exact hAll f h

namespace Scope

variable {s : Scope} {path : Path}

/-- A field of a scope is in a column of one of its rows. -/
theorem row_of_fieldPath? {name : String} (h : s.fieldPath? name = some path) :
    path.via = none ∧ path.column.row ∈ s.rows ∧ isName path.column.name = true := by
  unfold fieldPath? at h
  split at h
  · rename_i f hField
    cases h
    have hMem : f ∈ (Source.records s.kind).fields := List.mem_of_find?_eq_some hField
    exact ⟨rfl, by simp [rows, Kind.column], Field.isName_column hMem⟩
  · split at h
    · cases h
    · rename_i link row hLink
      obtain ⟨f, hField, rfl⟩ := Option.map_eq_some_iff.1 h
      have hMem : f ∈ (Source.records link).fields := List.mem_of_find?_eq_some hField
      exact ⟨rfl, by simp [rows, hLink, Kind.column], Field.isName_column hMem⟩

/-- A field at the end of a route is in a column of one of the rows of its subquery. -/
theorem row_of_routePath? {route : Route} {number : Nat} {name : String}
    (h : s.routePath? route number name = some path) :
    path.via = some ⟨route, s.self, number⟩ ∧ path.column.row ∈ route.rows number ∧
      isName path.column.name = true := by
  have hTarget : RowName.target number ∈ route.rows number := by
    unfold Route.rows
    cases route.join <;> simp
  unfold routePath? at h
  extract_lets via at h
  split at h
  · rename_i f hField
    cases h
    have hName := Field.isName_column (List.mem_of_find?_eq_some hField)
    cases hSource : route.target with
    | records kind => exact ⟨rfl, by simpa [Source.column, Kind.column] using hTarget, hName⟩
    | summaries => exact ⟨rfl, by simpa [Source.column] using hTarget, hName⟩
  · split at h
    · cases h
    · rename_i link hLink
      obtain ⟨f, hField, rfl⟩ := Option.map_eq_some_iff.1 h
      have hMem : f ∈ (Source.records link).fields := List.mem_of_find?_eq_some hField
      refine ⟨rfl, ?_, Field.isName_column hMem⟩
      unfold Route.link? at hLink
      unfold Route.rows
      cases hJoin : route.join with
      | direct column outerColumn => simp [hJoin] at hLink
      | through x anchor reference => simp [Kind.column]

/-- A property leads to a column of a row in scope, or to one of a subquery with the next
number. -/
theorem row_of_resolve {usual : Route → String} {used after : Nat} {property : String}
    (h : s.resolve usual used property = .ok (path, after)) :
    isName path.column.name = true ∧
      ((path.via = none ∧ after = used ∧ path.column.row ∈ s.rows) ∨
        ∃ route, route.Named ∧ path.via = some ⟨route, s.self, used + 1⟩ ∧ after = used + 1 ∧
          path.column.row ∈ route.rows (used + 1)) := by
  have hByRoute : ∀ {name inner : String} {route : Route}, s.kind.route? name = some route →
      s.routePath? route (used + 1) inner = some path → after = used + 1 →
      isName path.column.name = true ∧
        ((path.via = none ∧ after = used ∧ path.column.row ∈ s.rows) ∨
          ∃ route, route.Named ∧ path.via = some ⟨route, s.self, used + 1⟩ ∧ after = used + 1 ∧
            path.column.row ∈ route.rows (used + 1)) := by
    intro name inner route hRoute hPath hAfter
    obtain ⟨hVia, hRow, hName⟩ := row_of_routePath? hPath
    exact ⟨hName, Or.inr ⟨route, Route.named_of_mem (List.mem_of_find?_eq_some hRoute), hVia,
      hAfter, hRow⟩⟩
  unfold resolve at h
  dsimp only at h
  split at h
  · split at h
    · cases h
    · rename_i route hRoute
      split at h
      · cases h
      · rename_i hPath
        cases h
        exact hByRoute hRoute hPath rfl
  · split at h
    · rename_i hField
      cases h
      obtain ⟨hVia, hRow, hName⟩ := row_of_fieldPath? hField
      exact ⟨hName, Or.inl ⟨hVia, rfl, hRow⟩⟩
    · split at h
      · cases h
      · rename_i route hRoute
        split at h
        · cases h
        · rename_i hPath
          cases h
          exact hByRoute hRoute hPath rfl

end Scope

/-! ## Conditions -/

/-- A number of marks with commas between them. -/
def markPhrases : Nat → List Phrase
  | 0 => []
  | 1 => [.mark]
  | n + 2 => .mark :: .symbol ',' :: markPhrases (n + 1)

theorem tokens_marks (n : Nat) :
    tokens (", ".intercalate (List.replicate n "?")) = allTokens (markPhrases n) := by
  induction n using markPhrases.induct with
  | case1 => rfl
  | case2 => rfl
  | case3 n ih =>
      rw [List.replicate_succ, List.replicate_succ, String.intercalate_cons_cons,
        tokens_between _ ", " rfl rfl, ← List.replicate_succ, ih]
      rfl

theorem owners_marks (n : Nat) (last : String) (rest : List Token) :
    owners last (allTokens (markPhrases n) ++ rest) = List.replicate n last ++ owners last rest := by
  induction n using markPhrases.induct with
  | case1 => rfl
  | case2 => rfl
  | case3 n ih =>
      show last :: owners last (allTokens (markPhrases (n + 1)) ++ rest) = _
      rw [ih]
      rfl

theorem scoped_marks (n : Nat) (names : List String) : ScopedAll names (markPhrases n) := by
  induction n using markPhrases.induct with
  | case1 => trivial
  | case2 => exact ⟨trivial, trivial⟩
  | case3 n ih => exact ⟨trivial, trivial, ih⟩

theorem quiet_marks (n : Nat) : ∀ p ∈ markPhrases n, p ≠ .word "from" ∧ p ≠ .word "join" := by
  induction n using markPhrases.induct with
  | case1 => simp [markPhrases]
  | case2 => simp [markPhrases]
  | case3 n ih => exact List.forall_mem_cons.2 ⟨by simp, List.forall_mem_cons.2 ⟨by simp, ih⟩⟩

theorem allSubqueries_marks (n : Nat) : allSubqueries (markPhrases n) = [] := by
  induction n using markPhrases.induct with
  | case1 => rfl
  | case2 => rfl
  | case3 n ih => exact ih

namespace Column

variable {names : List String} {column : Column}

theorem writes_equals (hRow : column.row.text ∈ names) (hName : isName column.name = true) :
    Writes names (column.text ++ " = ?") [.word column.text, .symbol '=', .mark] [column.text] [] where
  tokens := by
    rw [tokens_append_of_starts _ (b := " = ?") rfl, text, tokens_column _ hName]
    rfl
  known := ⟨scoped_column hRow _, trivial, trivial, trivial⟩
  quiet := List.forall_mem_cons.2 ⟨quiet_column _ _, by simp⟩
  owners last := by simp [allTokens, Phrase.tokens, owners, text, isColumn_column]
  numbers := .nil

theorem writes_null (hRow : column.row.text ∈ names) (hName : isName column.name = true) :
    Writes names (column.text ++ " is null")
      [.word column.text, .word "is", .word "null"] [] [] where
  tokens := by
    rw [tokens_append_of_starts _ (b := " is null") rfl, text, tokens_column _ hName]
    rfl
  known := ⟨scoped_column hRow _, scoped_plain rfl rfl _, scoped_plain rfl rfl _, trivial⟩
  quiet := List.forall_mem_cons.2 ⟨quiet_column _ _, by simp⟩
  owners last := by simp [allTokens, Phrase.tokens, owners]
  numbers := .nil

theorem writes_among (hRow : column.row.text ∈ names) (hName : isName column.name = true)
    (n : Nat) :
    Writes names
      (column.text ++ " in (" ++ ", ".intercalate (List.replicate n "?") ++ ")")
      [.word column.text, .word "in", .group (markPhrases n)] (List.replicate n column.text) [] where
  tokens := by
    rw [tokens_append_of_starts _ (b := ")") rfl, tokens_between _ " in (" rfl rfl,
      tokens_marks, text, tokens_column _ hName]
    simp [allTokens, Phrase.tokens]
    rfl
  known := ⟨scoped_column hRow _, scoped_plain rfl rfl _, scoped_marks n _, trivial⟩
  quiet := List.forall_mem_cons.2 ⟨quiet_column _ _, by simp⟩
  owners last := by
    have hMarks := owners_marks n column.text [.closing]
    simpa [allTokens, Phrase.tokens, owners, text, isColumn_column, isColumn] using hMarks
  numbers := by
    simp [allSubqueries, Phrase.subqueries, introduced_eq_nil (quiet_marks n), allSubqueries_marks]

end Column

theorem writes_constant (names : List String) : Writes names "0" [.word "0"] [] [] :=
  .flat rfl ⟨scoped_plain rfl rfl _, trivial⟩ (by simp) (by simp [Flat])

theorem writes_and (names : List String) : Writes names " and " [.word "and"] [] [] :=
  .flat rfl ⟨scoped_plain rfl rfl _, trivial⟩ (by simp) (by simp [Flat])

theorem writes_or (names : List String) : Writes names " or " [.word "or"] [] [] :=
  .flat rfl ⟨scoped_plain rfl rfl _, trivial⟩ (by simp) (by simp [Flat])

variable {names : List String} {used between after : Nat} {bs bs' : List (Column × Cell)}

/-- A test has its column in front of every mark. -/
theorem exists_writes_test {column : Column} (hRow : column.row.text ∈ names)
    (hName : isName column.name = true) (values : Nat) (orAbsent : Bool) :
    ∃ ps, Writes names (testText column values orAbsent) ps (List.replicate values column.text) [] ∧
      Undivided ps := by
  have hColumn : isColumn column.text = true := isColumn_column _ _
  have hNull := column.writes_null hRow hName
  -- A test that also asks for absence is a disjunction of two comparisons.
  have hBoth : ∀ {a : String} {ps : List Phrase} {columns : List String},
      Writes names a ps columns [] →
        Writes names (disjunction [a, column.text ++ " is null"])
          [.group (ps ++ .word "or" :: [.word column.text, .word "is", .word "null"])] columns [] := by
    intro a ps columns h
    have hJoined := (h.joined hNull (writes_or names) rfl rfl).bracketed
    rwa [List.append_nil] at hJoined
  match values, orAbsent with
  | 0, false => exact ⟨_, writes_constant names, .never⟩
  | 0, true => exact ⟨_, hNull, .absent hColumn⟩
  | 1, false => exact ⟨_, column.writes_equals hRow hName, .equals hColumn⟩
  | 1, true => exact ⟨_, hBoth (column.writes_equals hRow hName), .bracketed _⟩
  | n + 2, false => exact ⟨_, column.writes_among hRow hName (n + 2), .among hColumn _⟩
  | n + 2, true => exact ⟨_, hBoth (column.writes_among hRow hName (n + 2)), .bracketed _⟩

/-- Whether a condition, compiled with some numbers in use, binds its values as it should and is
read as it should. -/
structure Condition.Reads (condition : Condition) (names : List String) (used after : Nat)
    (bs : List (Column × Cell)) : Prop where
  params : condition.params = bs.map Prod.snd
  text : ∃ ps count, Writes names condition.text ps (bs.map fun b => b.1.text)
    (List.range' (used + 1) count) ∧ after = used + count ∧ Undivided ps

/-- The same of several conditions that are alternatives. -/
structure Condition.ReadsAll (conditions : List Condition) (names : List String)
    (used after : Nat) (bs : List (Column × Cell)) : Prop where
  params : Condition.allParams conditions = bs.map Prod.snd
  texts : WritesList names " or " (Condition.texts conditions) (bs.map fun b => b.1.text) used after

namespace Condition.Reads

variable {left right inner : Condition}

theorem both (h : left.Reads names used between bs) (h' : right.Reads names between after bs') :
    (Condition.both left right).Reads names used after (bs ++ bs') := by
  obtain ⟨ps, count, hText, rfl, -⟩ := h.text
  obtain ⟨qs, count', hText', rfl, -⟩ := h'.text
  refine ⟨?_, [.group (ps ++ .word "and" :: qs)], count + count', ?_, ?_, .bracketed _⟩
  · rw [Condition.params, h.params, h'.params, List.map_append]
  · have hJoined := (hText.joined hText' (writes_and names) rfl rfl).bracketed
    rw [range'_append, ← List.map_append] at hJoined
    simpa only [Condition.text, String.append_assoc] using hJoined
  · omega

theorem anyOf {terms : List Condition} (h : ReadsAll terms names used after bs) :
    (Condition.anyOf terms).Reads names used after bs := by
  refine ⟨h.params, ?_⟩
  cases terms with
  | nil =>
      obtain ⟨hNone, rfl⟩ := h.texts.none rfl
      exact ⟨_, 0, hNone ▸ writes_constant names, rfl, .never⟩
  | cons term terms =>
      obtain ⟨ps, count, hText, hAfter⟩ := h.texts.text (by simp [texts])
      exact ⟨_, count, hText.bracketed, hAfter, .bracketed _⟩

/-- An alternative in front of others. -/
theorem cons {rest : List Condition} (h : left.Reads names used between bs)
    (h' : ReadsAll rest names between after bs') :
    ReadsAll (left :: rest) names used after (bs ++ bs') := by
  obtain ⟨ps, count, hText, rfl, -⟩ := h.text
  refine ⟨?_, ?_⟩
  · rw [allParams, h.params, h'.params, List.map_append]
  · rw [texts, List.map_append]
    exact .cons (writes_or names) rfl rfl hText h'.texts

/-- A test for existence is a word in front of a subquery. -/
private theorem existence_text (tables condition inner : String) :
    "exists (select 1 from " ++ tables ++ " where " ++ condition ++ " and " ++ inner ++ ")" =
      "exists " ++ ("(select " ++ "1" ++ " from " ++ tables ++ " where " ++ condition ++
        (" and " ++ inner) ++ ")") := by
  have hLiteral : "exists (select 1 from " = "exists " ++ ("(select " ++ ("1" ++ " from ")) := by
    decide +kernel
  rw [hLiteral]
  simp only [String.append_assoc, -String.reduceAppend]

theorem reaches {route : Route} (hRoute : route.Named) {outer : RowName}
    (hOuter : outer.text ∈ names)
    (h : inner.Reads (names ++ (route.rows (used + 1)).map RowName.text) (used + 1) after bs) :
    (Condition.reaches route outer (used + 1) inner).Reads names used after bs := by
  obtain ⟨ps, count, hText, rfl, -⟩ := h.text
  refine ⟨h.params, ?_⟩
  have hOne : Writes (names ++ (route.rows (used + 1)).map RowName.text) "1" [.word "1"] [] [] :=
    .flat rfl ⟨scoped_plain rfl rfl _, trivial⟩ (by simp) (by simp [Flat])
  have hRest := hText.before (writes_and _) (Or.inl rfl)
  have hSubquery := hOne.subquery hRoute hOuter hRest (startsApart_append rfl _)
  have hExists : Writes names "exists " [.word "exists"] [] [] :=
    .flat rfl ⟨scoped_plain rfl rfl _, trivial⟩ (by simp) (by simp [Flat])
  have hAll := hSubquery.before hExists (Or.inl rfl)
  have hWhole : (Condition.reaches route outer (used + 1) inner).text = _ := existence_text _ _ _
  rw [← hWhole] at hAll
  exact ⟨_, count + 1, hAll, by omega, .existence _⟩

end Condition.Reads

/-! ## Criteria -/

/-- A property reads as the test of its column, in a subquery if a route leads there. -/
private theorem reads_property {s : Scope} {property : String} {values : List FieldValue}
    {condition : Condition} (hNames : ∀ row ∈ s.rows, row.text ∈ names)
    (h : s.propertyCondition used property values = .ok (condition, after)) :
    ∃ path cells, s.resolve Route.filterProperty used property = .ok (path, after) ∧
      comparedCells path.kind path.field values = .ok cells ∧
      condition.Reads names used after (path.bindings cells) := by
  unfold Scope.propertyCondition at h
  split at h
  · cases h
  · rename_i path _ hPath
    split at h
    · cases h
    · rename_i cells hCells
      cases h
      refine ⟨path, cells, hPath, hCells, ?_⟩
      obtain ⟨hName, hWhere⟩ := Scope.row_of_resolve hPath
      have hParams : (cells.filter fun cell => !cell.isNull) = (path.bindings cells).map Prod.snd := by
        simp [Path.bindings, Function.comp_def]
      have hTest : ∀ {known : List String} {n : Nat}, path.column.row.text ∈ known →
          (Condition.test path.column (cells.filter fun cell => !cell.isNull)
            (cells.any Cell.isNull)).Reads known n n (path.bindings cells) := by
        intro known n hRow
        obtain ⟨ps, hText, hUndivided⟩ := exists_writes_test hRow hName
          (cells.filter fun cell => !cell.isNull).length (cells.any Cell.isNull)
        have hColumns : ((path.bindings cells).map fun b => b.1.text) =
            List.replicate (cells.filter fun cell => !cell.isNull).length path.column.text := by
          simp [Path.bindings, Function.comp_def, List.map_const']
        refine ⟨hParams, ps, 0, ?_, rfl, hUndivided⟩
        rw [hColumns]
        exact hText
      unfold Path.condition
      rcases hWhere with ⟨hVia, rfl, hRow⟩ | ⟨route, hRoute, hVia, rfl, hRow⟩
      · rw [hVia]
        exact hTest (hNames _ hRow)
      · rw [hVia]
        refine Condition.Reads.reaches hRoute (hNames _ (by simp [Scope.rows])) (hTest ?_)
        exact List.mem_append_right _ (List.mem_map_of_mem hRow)

namespace Criterion

mutual

/-- A compiled criterion reads as it should. -/
theorem exists_reads {names : List String} {used after : Nat} {c : Criterion} {s : Scope}
    {condition : Condition}
    (hNames : ∀ row ∈ s.rows, row.text ∈ names)
    (h : c.compile s used = .ok (condition, after)) :
    ∃ bs, c.Binds s used bs after ∧ condition.Reads names used after bs := by
  cases c with
  | equal property value =>
      obtain ⟨path, cells, hPath, hCells, hReads⟩ := reads_property hNames h
      exact ⟨_, .equal hPath hCells, hReads⟩
  | oneOf property values =>
      obtain ⟨path, cells, hPath, hCells, hReads⟩ := reads_property hNames h
      exact ⟨_, .oneOf hPath hCells, hReads⟩
  | both left right =>
      unfold compile at h
      split at h
      · cases h
      · rename_i hLeft
        split at h
        · cases h
        · rename_i hRight
          cases h
          obtain ⟨bs, hBinds, hReads⟩ := exists_reads hNames hLeft
          obtain ⟨bs', hBinds', hReads'⟩ := exists_reads hNames hRight
          exact ⟨bs ++ bs', .both hBinds hBinds', hReads.both hReads'⟩
  | anyOf terms =>
      unfold compile at h
      split at h
      · cases h
      · rename_i hTerms
        cases h
        obtain ⟨bs, hBinds, hReads⟩ := exists_readsAll hNames hTerms
        exact ⟨bs, hBinds, .anyOf hReads⟩
  | related kind inner =>
      unfold compile at h
      split at h
      · cases h
      · rename_i route hRoute
        split at h
        · cases h
        · rename_i hInner
          cases h
          have hKnown : ∀ row ∈ (Scope.inner kind route (used + 1)).rows,
              row.text ∈ names ++ (route.rows (used + 1)).map RowName.text := fun row hRow =>
            List.mem_append_right _ (List.mem_map_of_mem (Scope.rows_inner row hRow))
          obtain ⟨bs, hBinds, hReads⟩ := exists_reads hKnown hInner
          have hNamed := Route.named_of_mem (List.mem_of_find?_eq_some hRoute)
          exact ⟨bs, .related hRoute hBinds, hReads.reaches hNamed (hNames _ (by simp [Scope.rows]))⟩

/-- Compiled alternatives read as they should. -/
theorem exists_readsAll {names : List String} {used after : Nat} {cs : List Criterion} {s : Scope}
    {conditions : List Condition}
    (hNames : ∀ row ∈ s.rows, row.text ∈ names)
    (h : compileAll s used cs = .ok (conditions, after)) :
    ∃ bs, (anyOf cs).Binds s used bs after ∧ Condition.ReadsAll conditions names used after bs := by
  cases cs with
  | nil =>
      cases h
      exact ⟨[], .none, rfl, fun _ => ⟨rfl, rfl⟩, fun hSome => absurd rfl hSome⟩
  | cons c cs =>
      unfold compileAll at h
      split at h
      · cases h
      · rename_i hHead
        split at h
        · cases h
        · rename_i hRest
          cases h
          obtain ⟨bs, hBinds, hReads⟩ := exists_reads hNames hHead
          obtain ⟨bs', hBinds', hReads'⟩ := exists_readsAll hNames hRest
          exact ⟨bs ++ bs', .more hBinds hBinds', hReads.cons hReads'⟩

end

end Criterion

end Shelfmark
