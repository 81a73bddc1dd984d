import Mathlib.Data.List.Nodup
import Shelfmark.Proofs.Query.Binding

/-!
# Statements are well scoped

The text of a condition and the text of an order stand in one statement, compiled one after the
other. An order binds no values, and its subqueries take the numbers that follow those of the
condition. So no name is introduced twice in a statement, and every column is one of a row that
is known where the column stands: `Scope.statement_well_formed`.

A condition never comes apart when it is put behind another one: what is not a single comparison
or a test for existence has brackets around it.
-/

namespace Shelfmark

open Sql

variable {names : List String} {s : Scope} {used after : Nat}

/-! ## Sort keys -/

theorem Column.writes (column : Column) (hRow : column.row.text ∈ names)
    (hName : isName column.name = true) : Writes names column.text [.word column.text] [] [] :=
  .flat (tokens_column _ hName) ⟨scoped_column hRow _, trivial⟩
    (List.forall_mem_cons.2 ⟨quiet_column _ _, by simp⟩) (by simp [Flat])

/-- Words in front of a column, and words behind it. -/
private theorem Route.writes_order {r : Route} (hRoute : r.Named) {n : Nat}
    (hRows : ∀ row ∈ r.rows n, row.text ∈ names) :
    Writes names (" order by " ++ r.orderText n ++ " limit 1")
      [.word "order", .word "by", .word (r.orderText n), .word "limit", .word "1"] [] [] := by
  have hColumn : Writes names (r.orderText n) [.word (r.orderText n)] [] [] := by
    have hKey : isName r.target.keyColumn = true := hRoute.words _ (by simp [words])
    unfold orderText
    unfold rows at hRows
    cases hJoin : r.join with
    | direct column outerColumn =>
        rw [hJoin] at hRows
        exact Column.writes ⟨.target n, r.target.keyColumn, .binary⟩ (hRows _ (by simp)) hKey
    | through link anchor reference =>
        rw [hJoin] at hRows
        have hText : ∀ x : String, x ++ ".rowid" = x ++ "." ++ "rowid" := by
          intro x
          rw [String.append_assoc]
          rfl
        simp only [hText]
        exact Column.writes ⟨.link n, "rowid", .binary⟩ (hRows _ (by simp))
          (show isName "rowid" = true by decide)
  have hBefore : Writes names " order by " [.word "order", .word "by"] [] [] :=
    .flat rfl ⟨scoped_plain rfl rfl _, scoped_plain rfl rfl _, trivial⟩ (by simp) (by simp [Flat])
  have hBehind : Writes names " limit 1" [.word "limit", .word "1"] [] [] :=
    .flat rfl ⟨scoped_plain rfl rfl _, scoped_plain rfl rfl _, trivial⟩ (by simp) (by simp [Flat])
  exact (hColumn.before hBefore (Or.inl rfl)).behind hBehind rfl

/-- The value of a key is a column, or the first one of a subquery with the next number. -/
private theorem exists_writes_value (hNames : ∀ row ∈ s.rows, row.text ∈ names)
    {usual : Route → String} {property : String} {path : Path}
    (h : s.resolve usual used property = .ok (path, after)) (direction : Direction) :
    ∃ ps count, Writes names (path.sortKey direction).valueText ps [] (List.range' (used + 1) count) ∧
      after = used + count := by
  obtain ⟨hName, ⟨hVia, rfl, hRow⟩ | ⟨route, hRoute, hVia, rfl, hRow⟩⟩ := Scope.row_of_resolve h
  · have hText : (path.sortKey direction).valueText = path.column.text := by
      simp [SortKey.valueText, Path.sortKey, hVia]
    rw [hText]
    exact ⟨_, 0, Column.writes _ (hNames _ hRow) hName, rfl⟩
  · have hRows : ∀ row ∈ route.rows (used + 1),
        row.text ∈ names ++ (route.rows (used + 1)).map RowName.text := fun row hIn =>
      List.mem_append_right _ (List.mem_map_of_mem hIn)
    have hSubquery := (Column.writes _ (hRows _ hRow) hName).subquery hRoute
      (hNames s.self (by simp [Scope.rows])) (Route.writes_order hRoute hRows)
      (startsApart_append (startsApart_append rfl _) _)
    have hLiteral : " limit 1)" = " limit 1" ++ ")" := by decide +kernel
    have hText : (path.sortKey direction).valueText =
        "(select " ++ path.column.text ++ " from " ++ route.fromText (used + 1) ++ " where " ++
          route.conditionText s.self (used + 1) ++
          (" order by " ++ route.orderText (used + 1) ++ " limit 1") ++ ")" := by
      simp only [SortKey.valueText, Path.sortKey, hVia, hLiteral, String.append_assoc,
        -String.reduceAppend]
    rw [hText]
    exact ⟨_, 1, hSubquery, rfl⟩

/-- The word of a direction and where it puts what is absent. -/
private theorem Direction.exists_writes (direction : Direction) (names : List String) :
    ∃ ps, Writes names (" " ++ direction.text) ps [] [] := by
  cases direction with
  | ascending =>
      exact ⟨[.word "asc", .word "nulls", .word "first"],
        .flat rfl ⟨scoped_plain rfl rfl _, scoped_plain rfl rfl _, scoped_plain rfl rfl _, trivial⟩ (by simp)
          (by simp [Flat])⟩
  | descending =>
      exact ⟨[.word "desc", .word "nulls", .word "last"],
        .flat rfl ⟨scoped_plain rfl rfl _, scoped_plain rfl rfl _, scoped_plain rfl rfl _, trivial⟩ (by simp)
          (by simp [Flat])⟩

/-- A key: its value, perhaps with -1 taken for nothing and without regard to case, and its
direction. -/
private theorem exists_writes_sortKey (hNames : ∀ row ∈ s.rows, row.text ∈ names)
    {usual : Route → String} {property : String} {path : Path}
    (h : s.resolve usual used property = .ok (path, after)) (direction : Direction) :
    ∃ ps count, Writes names (path.sortKey direction).text ps [] (List.range' (used + 1) count) ∧
      after = used + count := by
  obtain ⟨ps, count, hValue, hAfter⟩ := exists_writes_value hNames h direction
  have hNullif : Writes names "nullif" [.word "nullif"] [] [] :=
    .flat rfl ⟨scoped_plain rfl rfl _, trivial⟩ (by simp) (by simp [Flat])
  have hNocase : Writes names " collate nocase" [.word "collate", .word "nocase"] [] [] :=
    .flat rfl ⟨scoped_plain rfl rfl _, scoped_plain rfl rfl _, trivial⟩ (by simp) (by simp [Flat])
  have hMinus : Writes names ", -1" [.symbol ',', .word "-1"] [] [] :=
    .flat rfl ⟨trivial, scoped_plain rfl rfl _, trivial⟩ (by simp) (by simp [Flat])
  -- One after the other: what is in the brackets, the case of letters, the direction.
  have hIndex : ∃ ps, Writes names
      (if (path.sortKey direction).isIndex then
        "nullif(" ++ (path.sortKey direction).valueText ++ ", -1)"
      else (path.sortKey direction).valueText) ps [] (List.range' (used + 1) count) := by
    split
    · have hInner := (hValue.behind hMinus rfl).bracketed
      have hAll := hInner.before hNullif (Or.inr (startsApart_append (startsApart_append rfl _) _))
      have hOpen : "nullif(" = "nullif" ++ "(" := by decide +kernel
      have hClose : ", -1)" = ", -1" ++ ")" := by decide +kernel
      have hText : "nullif(" ++ (path.sortKey direction).valueText ++ ", -1)" =
          "nullif" ++ ("(" ++ ((path.sortKey direction).valueText ++ ", -1") ++ ")") := by
        simp only [hOpen, hClose, String.append_assoc, -String.reduceAppend]
      rw [hText]
      exact ⟨_, hAll⟩
    · exact ⟨ps, hValue⟩
  obtain ⟨qs, hIndexed⟩ := hIndex
  have hCase : ∀ {a : String} {ps : List Phrase}, Writes names a ps [] (List.range' (used + 1) count) →
      ∃ rs, Writes names (a ++ if (path.sortKey direction).nocase then " collate nocase" else "") rs []
        (List.range' (used + 1) count) := by
    intro a ps h
    split
    · exact ⟨_, h.behind hNocase rfl⟩
    · exact ⟨ps, by rwa [String.append_empty]⟩
  obtain ⟨rs, hCased⟩ := hCase hIndexed
  obtain ⟨qs, hDirection⟩ := direction.exists_writes names
  exact ⟨_, count, hCased.behind hDirection (startsApart_append rfl _), hAfter⟩

/-! ## Orders -/

private theorem writes_comma (names : List String) : Writes names ", " [.symbol ','] [] [] :=
  .flat rfl ⟨trivial, trivial⟩ (by simp) (by simp [Flat])

/-- A column alone is a key without a direction. -/
private theorem writes_plainKey {column : Column} (hRow : column.row.text ∈ names)
    (hName : isName column.name = true) :
    Writes names ({ column := column } : SortKey).text [.word column.text] [] [] := by
  have hText : ({ column := column } : SortKey).text = column.text := by
    simp [SortKey.text, SortKey.valueText]
  rw [hText]
  exact Column.writes _ hRow hName

theorem Kind.isName_keyColumn (kind : Kind) : isName kind.keyColumn = true := by
  cases kind <;> decide

/-- The keys that end an order are columns of the rows of the scope. -/
private theorem writesList_lastKeys (hNames : ∀ row ∈ s.rows, row.text ∈ names) (used : Nat) :
    WritesList names ", " (s.lastKeys.map SortKey.text) [] used used := by
  have hKey : Writes names ({ column := s.kind.column s.self s.kind.keyColumn } : SortKey).text
      [.word (s.kind.column s.self s.kind.keyColumn).text] [] (List.range' (used + 1) 0) :=
    writes_plainKey (hNames _ (by simp [Scope.rows, Kind.column])) s.kind.isName_keyColumn
  have hNone : WritesList names ", " [] [] (used + 0) used := ⟨fun _ => ⟨rfl, rfl⟩, fun h => absurd rfl h⟩
  have hRest : ∀ {texts}, WritesList names ", " texts [] (used + 0) used →
      WritesList names ", " (({ column := s.kind.column s.self s.kind.keyColumn } : SortKey).text ::
        texts) [] used used := fun h => .cons (writes_comma names) rfl rfl hKey h
  unfold Scope.lastKeys
  cases hLink : s.link with
  | none => exact hRest hNone
  | some link =>
      obtain ⟨kind, row⟩ := link
      have hRow : row.text ∈ names := hNames _ (by simp [Scope.rows, hLink])
      have hLinkKey : Writes names ({ column := kind.column row "rowid" } : SortKey).text
          [.word (kind.column row "rowid").text] [] (List.range' (used + 0 + 1) 0) :=
        writes_plainKey hRow (show isName "rowid" = true by decide)
      exact hRest (.cons (writes_comma names) rfl rfl hLinkKey hNone)

/-- The keys of properties stand before the last ones and take the numbers that follow. -/
private theorem writesList_propertyKeys (hNames : ∀ row ∈ s.rows, row.text ∈ names)
    {properties : List (String × Direction)} {seen : List PropertyKey} {keys : List SortKey}
    (h : s.propertyKeys used seen properties = .ok keys) :
    ∃ after, WritesList names ", " ((keys ++ s.lastKeys).map SortKey.text) [] used after := by
  induction properties generalizing used seen keys with
  | nil =>
      cases h
      exact ⟨used, writesList_lastKeys hNames used⟩
  | cons key rest ih =>
      obtain ⟨property, direction⟩ := key
      unfold Scope.propertyKeys at h
      split at h
      · cases h
      · rename_i path _ hPath
        split at h
        · cases h
        · obtain ⟨keys', hRest, rfl⟩ := exists_of_map_ok h
          obtain ⟨ps, count, hKey, rfl⟩ := exists_writes_sortKey hNames hPath direction
          obtain ⟨after, hList⟩ := ih hRest
          exact ⟨after, .cons (writes_comma names) rfl rfl hKey hList⟩

/-- Whether a column may be declared to be the natural order of a scope: it is one of its rows. -/
def Scope.Declares (s : Scope) (declared : Option Column) : Prop :=
  ∀ column ∈ declared, column.row ∈ s.rows ∧ isName column.name = true

/-- The clause of an order binds nothing, and its subqueries take the numbers that follow. -/
theorem Scope.exists_writes_order (hNames : ∀ row ∈ s.rows, row.text ∈ names)
    {declared : Option Column} (hDeclared : s.Declares declared) {order : SortOrder}
    {keys : List SortKey} (h : s.sortKeys used declared order = .ok keys) :
    ∃ ps count, Writes names (orderText keys) ps [] (List.range' (used + 1) count) := by
  obtain ⟨first, hFirst, rfl⟩ := exists_of_map_ok h
  have hList : ∃ after, WritesList names ", " ((first ++ s.lastKeys).map SortKey.text) [] used after := by
    cases order with
    | byKeys properties => exact writesList_propertyKeys hNames hFirst
    | preferred direction =>
        cases declared with
        | none => exact writesList_propertyKeys hNames hFirst
        | some column =>
            cases hFirst
            obtain ⟨hRow, hName⟩ := hDeclared column rfl
            obtain ⟨qs, hDirection⟩ := direction.exists_writes names
            have hKey : Writes names ({ column := column, direction := some direction } : SortKey).text
                ([.word column.text] ++ qs) [] (List.range' (used + 1) 0) := by
              have hText : ({ column := column, direction := some direction } : SortKey).text =
                  column.text ++ (" " ++ direction.text) := by
                simp [SortKey.text, SortKey.valueText]
              rw [hText]
              exact (Column.writes _ (hNames _ hRow) hName).behind hDirection (startsApart_append rfl _)
            exact ⟨used, .cons (writes_comma names) rfl rfl hKey (writesList_lastKeys hNames _)⟩
  obtain ⟨after, hWrites⟩ := hList
  obtain ⟨ps, count, hText, -⟩ := hWrites.text (by simp [lastKeys])
  have hBefore : Writes names "order by " [.word "order", .word "by"] [] [] :=
    .flat rfl ⟨scoped_plain rfl rfl _, scoped_plain rfl rfl _, trivial⟩ (by simp) (by simp [Flat])
  exact ⟨_, count, hText.before hBefore (Or.inl rfl)⟩

/-! ## Statements -/

/-- Different rows have different names. -/
theorem RowName.text_injective : Function.Injective RowName.text := by
  have hNumber : ∀ n m : Nat, Text.natDigits n = Text.natDigits m → n = m := by
    intro n m h
    have hRead := congrArg Text.readNat? h
    rw [Text.readNat?_natDigits, Text.readNat?_natDigits] at hRead
    exact Option.some.inj hRead
  intro a b h
  have hChars := congrArg String.toList h
  cases a <;> cases b <;> simp [text] at hChars ⊢
  all_goals exact hNumber _ _ hChars

/-- Names that are numbered differently are those of different rows. -/
private theorem exists_numbered_rows {subqueries : List (List String)} {numbers : List Nat}
    (h : List.Forall₂ Numbered subqueries numbers) (hNodup : numbers.Nodup) :
    ∃ rows : List RowName, subqueries.flatten = rows.map RowName.text ∧ rows.Nodup ∧
      ∀ row ∈ rows, ∃ n ∈ numbers, row = .target n ∨ row = .link n := by
  induction h with
  | nil => exact ⟨[], rfl, .nil, by simp⟩
  | @cons names number subqueries numbers hHead _ ih =>
      obtain ⟨hNew, hRest⟩ := List.nodup_cons.1 hNodup
      obtain ⟨rows, hFlat, hRows, hNumbers⟩ := ih hRest
      have hApart : ∀ row ∈ rows, row ≠ .target number ∧ row ≠ .link number := by
        intro row hRow
        obtain ⟨n, hn, rfl | rfl⟩ := hNumbers row hRow
        · exact ⟨fun hSame => hNew (RowName.target.inj hSame ▸ hn), by simp⟩
        · exact ⟨by simp, fun hSame => hNew (RowName.link.inj hSame ▸ hn)⟩
      have hTarget : RowName.target number ∉ rows := fun hIn => (hApart _ hIn).1 rfl
      have hLink : RowName.link number ∉ rows := fun hIn => (hApart _ hIn).2 rfl
      have hMore : ∀ row ∈ rows, ∃ n ∈ number :: numbers, row = .target n ∨ row = .link n := by
        intro row hRow
        obtain ⟨n, hn, hSame⟩ := hNumbers row hRow
        exact ⟨n, List.mem_cons_of_mem _ hn, hSame⟩
      rcases hHead with rfl | rfl
      · refine ⟨.target number :: rows, by simp [hFlat], List.nodup_cons.2 ⟨hTarget, hRows⟩, ?_⟩
        exact List.forall_mem_cons.2 ⟨⟨number, by simp, Or.inl rfl⟩, hMore⟩
      · refine ⟨.link number :: .target number :: rows, by simp [hFlat],
          List.nodup_cons.2 ⟨by simp [hLink], List.nodup_cons.2 ⟨hTarget, hRows⟩⟩, ?_⟩
        exact List.forall_mem_cons.2 ⟨⟨number, by simp, Or.inr rfl⟩,
          List.forall_mem_cons.2 ⟨⟨number, by simp, Or.inl rfl⟩, hMore⟩⟩

/-- Whether a condition and an order, written in one statement of a scope, are read as they are
meant when the condition binds certain values to certain columns. -/
structure Scope.Frames (s : Scope) (condition : Condition) (keys : List SortKey)
    (bs : List (Column × Cell)) : Prop where
  /-- There is a mark for every value, and none in the order. -/
  marks : condition.text.toList.count '?' = condition.params.length ∧
    (orderText keys).toList.count '?' = 0
  /-- The values are those that are bound, and each of them is taken for a mark behind the column
  that it is bound to. -/
  bound : condition.params = bs.map Prod.snd ∧
    owners "" (tokens condition.text) = bs.map fun b => b.1.text
  /-- Every column is one of a known row, every subquery has a number of its own, and no name is
  introduced that is known already. -/
  known : ∃ filter order numbers,
    phrases? condition.text = some filter ∧ phrases? (orderText keys) = some order ∧
      ScopedAll s.names filter ∧ ScopedAll s.names order ∧
      List.Forall₂ Numbered (allSubqueries filter ++ allSubqueries order) numbers ∧
      numbers.Nodup ∧
      (s.names ++ (allSubqueries filter ++ allSubqueries order).flatten).Nodup
  /-- The condition is undivided, and stays so behind another one. -/
  undivided : ∃ filter, phrases? condition.text = some filter ∧ Undivided filter ∧
    ∀ before ps, phrases? before = some ps →
      phrases? (before ++ " and " ++ condition.text) = some (ps ++ .word "and" :: filter) ∧
        operands (ps ++ .word "and" :: filter) = operands ps ++ [filter]

/-- **Statements are well scoped, and their values line up.** For every scope that a statement can
have, a criterion that compiles and an order that compiles behind it make texts with one mark for
each value; the values are those that the criterion binds, in its order, and the mark of each
stands behind the column that it is bound to. Every column is one of a row of the scope or of a
subquery around it. Every subquery of both texts has a number of its own, and no name is
introduced twice. And the condition does not come apart behind another one. -/
theorem Scope.statement_well_formed {kind : Kind} {s : Scope}
    (hScope : s = .records kind ∨ ∃ link, s = .linked kind link) {c : Criterion}
    {condition : Condition} {used : Nat} (hCompile : c.compile s 0 = .ok (condition, used))
    {declared : Option Column} (hDeclared : s.Declares declared) {order : SortOrder}
    {keys : List SortKey} (hKeys : s.sortKeys used declared order = .ok keys) :
    ∃ bs, c.Binds s 0 bs used ∧ s.Frames condition keys bs := by
  have hNames : ∀ row ∈ s.rows, row.text ∈ s.names := fun row hRow => List.mem_map_of_mem hRow
  obtain ⟨bs, hBinds, hReads⟩ := Criterion.exists_reads hNames hCompile
  obtain ⟨filter, count, hFilter, rfl, hUndivided⟩ := hReads.text
  obtain ⟨sort, count', hOrder⟩ := Scope.exists_writes_order hNames hDeclared hKeys
  have hOwners := hFilter.owners ""
  rw [← hFilter.tokens] at hOwners
  have hRead : phrases? condition.text = some filter := phrases?_eq_some_iff.2 hFilter.tokens
  have hNumbers : List.Forall₂ Numbered (allSubqueries filter ++ allSubqueries sort)
      (List.range' (0 + 1) (count + count')) := by
    rw [← range'_append]
    exact List.rel_append hFilter.numbers hOrder.numbers
  have hNodup : (List.range' (0 + 1) (count + count')).Nodup := List.nodup_range'
  refine ⟨bs, hBinds, ⟨?_, ?_⟩, ⟨hReads.params, hOwners⟩, ?_, ?_⟩
  · rw [← count_mark, ← length_owners "", hOwners, hReads.params, List.length_map, List.length_map]
  · rw [← count_mark, hOrder.tokens, ← length_owners "", hOrder.owners, List.length_nil]
  · refine ⟨filter, sort, _, hRead, phrases?_eq_some_iff.2 hOrder.tokens, hFilter.known,
      hOrder.known, hNumbers, hNodup, ?_⟩
    obtain ⟨rows, hFlat, hRows, hNumbered⟩ := exists_numbered_rows hNumbers hNodup
    rw [hFlat, Scope.names, ← List.map_append, List.nodup_map_iff RowName.text_injective]
    refine List.nodup_append.2 ⟨?_, hRows, ?_⟩
    · rcases hScope with rfl | ⟨link, rfl⟩ <;> simp [Scope.rows, Scope.records, Scope.linked]
    · rintro row hOwn _ hIn rfl
      obtain ⟨n, -, rfl | rfl⟩ := hNumbered row hIn
      · rcases hScope with rfl | ⟨link, rfl⟩ <;>
          simp [Scope.rows, Scope.records, Scope.linked] at hOwn
      · rcases hScope with rfl | ⟨link, rfl⟩ <;>
          simp [Scope.rows, Scope.records, Scope.linked] at hOwn
  · refine ⟨filter, hRead, hUndivided, fun before ps hBefore => ⟨?_, hUndivided.operands_append ps⟩⟩
    rw [phrases?_eq_some_iff] at hBefore ⊢
    rw [tokens_between before " and " rfl rfl, hBefore, hFilter.tokens,
      allTokens_append]
    simp only [allTokens, Phrase.tokens, List.append_assoc]
    rfl

/-- Groups of a resource, by their types and by the places of the resource in them. -/
theorem statement_well_formed_sample :
    ∃ condition used keys bs,
      Criterion.compile (.linked .group .groupRelation) 0
          (.both (.equal "groupType#name" (.text "Series"))
            (.oneOf "groupIndex" [.integer 1, .integer 3])) = .ok (condition, used) ∧
        (Scope.linked .group .groupRelation).sortKeys used (some ⟨.selfLink, "rowid", .binary⟩)
          (.byKeys [("resources", .ascending)]) = .ok keys ∧
        condition.text = "(exists (select 1 from group_types t1 where " ++
          "t1.uuid = o.type_uuid and t1.name = ?) and l.group_index in (?, ?))" ∧
        bs.map Prod.snd = [.text "Series", .integer 1, .integer 3] ∧
        (Scope.linked .group .groupRelation).Frames condition keys bs := by
  have hKeys : (Scope.linked .group .groupRelation).sortKeys 1 (some ⟨.selfLink, "rowid", .binary⟩)
      (.byKeys [("resources", .ascending)]) = .ok _ := rfl
  obtain ⟨bs, -, hFrames⟩ := Scope.statement_well_formed
    (Or.inr ⟨.groupRelation, rfl⟩ : Scope.linked .group .groupRelation = .records .group ∨
      ∃ link, Scope.linked .group .groupRelation = .linked .group link)
    (c := .both (.equal "groupType#name" (.text "Series"))
      (.oneOf "groupIndex" [.integer 1, .integer 3])) rfl
    (fun column hColumn => by cases hColumn; exact ⟨by decide, by decide⟩) hKeys
  exact ⟨_, _, _, bs, rfl, rfl, by decide +kernel, hFrames.bound.1.symm.trans rfl, hFrames⟩

end Shelfmark
