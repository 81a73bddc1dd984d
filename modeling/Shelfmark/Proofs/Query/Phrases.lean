import Shelfmark.Query.Sort

/-!
# Statements as they are read

The text of a condition or of an order is read here without knowing how it was made. Tokens are
words, marks for values, brackets and other symbols; brackets gather tokens into phrases. Words
with a point in them are columns, and what stands before the point is the name of a row. Words
without a point are keywords, numbers, tables, names of rows, or they are quoted.

Four things can then be asked of a text. `owners` tells for every mark which column was written
last before it. `ScopedAll` tells whether every column is one of a row that is known where it
stands: by a name given from outside, or by one that the subquery around it or a subquery further
out introduces. `allSubqueries` tells which names each subquery introduces. `operands` tells what
the connectives outside of all brackets tie together.

A quote counts as a part of its word. This makes the questions harder, not easier: a mark or a
bracket between quotes would be taken for one.
-/

namespace Shelfmark.Sql

/-! ## Tokens -/

/-- A token of a statement. -/
inductive Token where
  | word (s : String)
  | mark
  | symbol (c : Char)
  | opening
  | closing
  deriving DecidableEq, Repr

/-- Whether a character belongs to words. -/
def isWordChar (c : Char) : Bool :=
  c.isAlphanum || c = '_' || c = '.' || c = '-' || c = '\''

/-- The token of a character between words; a blank is none. -/
def separator : Char → List Token
  | ' ' => []
  | '?' => [.mark]
  | '(' => [.opening]
  | ')' => [.closing]
  | c => [.symbol c]

/-- The token of a word, if there is one. -/
def wordToken (word : List Char) : List Token :=
  if word.isEmpty then [] else [.word (String.ofList word)]

/-- The tokens of a text behind the characters of a word that was begun before it. -/
def lexFrom (word : List Char) : List Char → List Token
  | [] => wordToken word
  | c :: cs =>
      if isWordChar c then lexFrom (word ++ [c]) cs
      else wordToken word ++ separator c ++ lexFrom [] cs

/-- The tokens of a text. -/
def tokens (text : String) : List Token := lexFrom [] text.toList

/-- Whether a text can stand behind another without its first word being drawn into it. -/
def startsApart (text : String) : Bool :=
  match text.toList.head? with
  | none => false
  | some c => !isWordChar c

/-- Whether a text can stand in front of another without its last word being drawn into it. -/
def endsApart (text : String) : Bool :=
  match text.toList.getLast? with
  | none => false
  | some c => !isWordChar c

theorem startsApart_append {a : String} (h : startsApart a = true) (b : String) :
    startsApart (a ++ b) = true := by
  unfold startsApart at h ⊢
  rw [String.toList_append]
  cases ha : a.toList with
  | nil => simp [ha] at h
  | cons c cs => simpa [ha] using h

theorem lexFrom_append_cons (word cs : List Char) {c : Char} (h : isWordChar c = false)
    (ds : List Char) :
    lexFrom word (cs ++ c :: ds) = lexFrom word cs ++ separator c ++ lexFrom [] ds := by
  induction cs generalizing word with
  | nil => simp [lexFrom, h]
  | cons d cs ih =>
      simp only [List.cons_append, lexFrom]
      split
      · exact ih _
      · rw [ih]
        simp only [List.append_assoc]

/-- A text that starts apart adds its tokens. -/
theorem tokens_append_of_starts (a : String) {b : String} (h : startsApart b = true) :
    tokens (a ++ b) = tokens a ++ tokens b := by
  unfold startsApart at h
  unfold tokens
  rw [String.toList_append]
  cases hb : b.toList with
  | nil => simp [hb] at h
  | cons c cs =>
      have hApart : isWordChar c = false := by simpa [hb] using h
      have hRight : lexFrom [] (c :: cs) = separator c ++ lexFrom [] cs := by
        simp [lexFrom, hApart, wordToken]
      rw [lexFrom_append_cons _ _ hApart, hRight, List.append_assoc]

/-- To a text that ends apart tokens are added. -/
theorem tokens_append_of_ends {a : String} (h : endsApart a = true) (b : String) :
    tokens (a ++ b) = tokens a ++ tokens b := by
  unfold endsApart at h
  unfold tokens
  rw [String.toList_append]
  cases hLast : a.toList.getLast? with
  | none => simp [hLast] at h
  | some c =>
      have hApart : isWordChar c = false := by simpa [hLast] using h
      obtain ⟨cs, ha⟩ := List.getLast?_eq_some_iff.1 hLast
      rw [ha, List.append_assoc, List.singleton_append, lexFrom_append_cons _ _ hApart,
        lexFrom_append_cons _ _ hApart]
      simp [lexFrom, wordToken]

/-- A text between two others keeps their words apart. -/
theorem tokens_between (a between : String) (hStarts : startsApart between = true)
    (hEnds : endsApart between = true) (b : String) :
    tokens (a ++ between ++ b) = tokens a ++ tokens between ++ tokens b := by
  rw [String.append_assoc, tokens_append_of_starts a (startsApart_append hStarts b),
    tokens_append_of_ends hEnds, List.append_assoc]

private theorem lexFrom_word {cs : List Char} (h : ∀ c ∈ cs, isWordChar c = true)
    (word : List Char) : lexFrom word cs = wordToken (word ++ cs) := by
  induction cs generalizing word with
  | nil => simp [lexFrom]
  | cons c cs ih =>
      rw [lexFrom, if_pos (h c (by simp)), ih fun d hd => h d (by simp [hd])]
      simp

/-- A word is a token. -/
theorem tokens_word {text : String} (hThere : text ≠ "")
    (h : ∀ c ∈ text.toList, isWordChar c = true) : tokens text = [.word text] := by
  have hSome : text.toList ≠ [] := fun hNone => hThere (String.toList_eq_nil_iff.1 hNone)
  rw [tokens, lexFrom_word h, List.nil_append, wordToken, if_neg (by simpa using hSome),
    String.ofList_toList]

/-! ## Marks -/

/-- A text has as many marks as question marks. -/
theorem count_mark (text : String) : (tokens text).count .mark = text.toList.count '?' := by
  have hSeparator : ∀ c, (separator c).count .mark = if c = '?' then 1 else 0 := by
    intro c
    unfold separator
    split <;> simp_all
  have hWord : ∀ word, (wordToken word).count .mark = 0 := by
    intro word
    unfold wordToken
    split <;> simp
  have hLex : ∀ word cs, (lexFrom word cs).count .mark = cs.count '?' := by
    intro word cs
    induction cs generalizing word with
    | nil => simp [lexFrom, hWord]
    | cons c cs ih =>
        unfold lexFrom
        by_cases hc : isWordChar c
        · have hNot : c ≠ '?' := fun hSame => by
            rw [hSame] at hc
            exact absurd hc (by decide)
          rw [if_pos hc, ih, List.count_cons_of_ne hNot]
        · rw [if_neg hc, List.count_append, List.count_append, hWord, hSeparator, ih,
            List.count_cons]
          simp only [beq_iff_eq]
          omega
  exact hLex [] text.toList

/-- Whether a word is a column. -/
def isColumn (word : String) : Bool := word.toList.contains '.'

/-- The name of the row that a column is of. -/
def qualifier (column : String) : String := String.ofList (column.toList.takeWhile (· ≠ '.'))

/-- The columns that the marks belong to: for each mark, the one written last before it. -/
def owners (last : String) : List Token → List String
  | [] => []
  | .word s :: rest => owners (if isColumn s then s else last) rest
  | .mark :: rest => last :: owners last rest
  | _ :: rest => owners last rest

theorem length_owners (last : String) (ts : List Token) :
    (owners last ts).length = ts.count .mark := by
  induction ts generalizing last with
  | nil => rfl
  | cons t ts ih => cases t <;> simp [owners, ih]

/-- The marks behind some tokens belong to columns there or to the last one before. -/
private theorem exists_owners_append (last : String) (before : List Token) :
    ∃ last', ∀ after, owners last (before ++ after) = owners last before ++ owners last' after := by
  induction before generalizing last with
  | nil => exact ⟨last, fun after => rfl⟩
  | cons t before ih =>
      cases t with
      | word s =>
          obtain ⟨last', hAfter⟩ := ih (if isColumn s then s else last)
          exact ⟨last', hAfter⟩
      | mark =>
          obtain ⟨last', hAfter⟩ := ih last
          exact ⟨last', fun after => congrArg (last :: ·) (hAfter after)⟩
      | symbol _ | opening | closing =>
          obtain ⟨last', hAfter⟩ := ih last
          exact ⟨last', hAfter⟩

/-- Tokens whose marks have columns of their own before them add up. -/
theorem owners_append {before after : List Token} {columns columns' : List String}
    (h : ∀ last, owners last before = columns) (h' : ∀ last, owners last after = columns')
    (last : String) : owners last (before ++ after) = columns ++ columns' := by
  obtain ⟨last', hAfter⟩ := exists_owners_append last before
  rw [hAfter, h, h']

/-! ## Phrases -/

/-- A token that is no bracket, or what stands between brackets. -/
inductive Phrase where
  | word (s : String)
  | mark
  | symbol (c : Char)
  | group (inner : List Phrase)
  deriving Repr

mutual

/-- The tokens of a phrase. -/
def Phrase.tokens : Phrase → List Token
  | .word s => [.word s]
  | .mark => [.mark]
  | .symbol c => [.symbol c]
  | .group inner => .opening :: allTokens inner ++ [.closing]

/-- The tokens of several phrases. -/
def allTokens : List Phrase → List Token
  | [] => []
  | p :: ps => p.tokens ++ allTokens ps

end

/-- Gathers tokens into phrases, with those so far, the last one first, inside the brackets that
are open and outside of them. -/
def gather (outer : List (List Phrase)) (sofar : List Phrase) : List Token → Option (List Phrase)
  | [] =>
      match outer with
      | [] => some sofar.reverse
      | _ :: _ => none
  | .word s :: rest => gather outer (.word s :: sofar) rest
  | .mark :: rest => gather outer (.mark :: sofar) rest
  | .symbol c :: rest => gather outer (.symbol c :: sofar) rest
  | .opening :: rest => gather (sofar :: outer) [] rest
  | .closing :: rest =>
      match outer with
      | [] => none
      | before :: outer => gather outer (.group sofar.reverse :: before) rest

/-- The phrases of a text, if its brackets match. -/
def phrases? (text : String) : Option (List Phrase) := gather [] [] (tokens text)

theorem allTokens_append (ps qs : List Phrase) :
    allTokens (ps ++ qs) = allTokens ps ++ allTokens qs := by
  induction ps with
  | nil => rfl
  | cons p ps ih => simp only [List.cons_append, allTokens, ih, List.append_assoc]

mutual

private theorem gather_tokens (p : Phrase) (outer : List (List Phrase)) (sofar : List Phrase)
    (rest : List Token) : gather outer sofar (p.tokens ++ rest) = gather outer (p :: sofar) rest := by
  cases p with
  | word s | mark | symbol c => rfl
  | group inner =>
      have hInner := gather_allTokens inner (sofar :: outer) [] (.closing :: rest)
      simpa [Phrase.tokens, gather] using hInner

private theorem gather_allTokens (ps : List Phrase) (outer : List (List Phrase))
    (sofar : List Phrase) (rest : List Token) :
    gather outer sofar (allTokens ps ++ rest) = gather outer (ps.reverse ++ sofar) rest := by
  cases ps with
  | nil => rfl
  | cons p ps =>
      rw [allTokens, List.append_assoc, gather_tokens p, gather_allTokens ps]
      simp

end

/-- The tokens that were read when phrases were gathered so far. -/
private def readTokens : List (List Phrase) → List Phrase → List Token
  | [], sofar => allTokens sofar.reverse
  | before :: outer, sofar => readTokens outer before ++ .opening :: allTokens sofar.reverse

private theorem readTokens_cons (outer : List (List Phrase)) (sofar : List Phrase) (p : Phrase) :
    readTokens outer (p :: sofar) = readTokens outer sofar ++ p.tokens := by
  cases outer <;> simp [readTokens, allTokens_append, allTokens]

private theorem tokens_of_gather {ts : List Token} {outer : List (List Phrase)}
    {sofar ps : List Phrase} (h : gather outer sofar ts = some ps) :
    readTokens outer sofar ++ ts = allTokens ps := by
  induction ts generalizing outer sofar with
  | nil =>
      cases outer with
      | nil =>
          cases h
          simp [readTokens]
      | cons _ _ => cases h
  | cons t ts ih =>
      cases t with
      | word s | mark | symbol c =>
          have hRest := ih h
          rw [readTokens_cons] at hRest
          simpa [Phrase.tokens] using hRest
      | opening =>
          have hRest := ih h
          simpa [readTokens, allTokens] using hRest
      | closing =>
          cases outer with
          | nil => cases h
          | cons before outer =>
              have hRest := ih h
              rw [readTokens_cons] at hRest
              simpa [readTokens, Phrase.tokens] using hRest

/-- **Brackets can be read in one way only.** -/
theorem phrases?_eq_some_iff {text : String} {ps : List Phrase} :
    phrases? text = some ps ↔ tokens text = allTokens ps := by
  constructor
  · intro h
    exact tokens_of_gather h
  · intro h
    have hGather := gather_allTokens ps [] [] []
    rw [List.append_nil, List.append_nil] at hGather
    rw [phrases?, h, hGather]
    simp [gather]

/-! ## Names of rows -/

/-- The name that a keyword introduces, if it is one that does, with what stands behind it. -/
def introducedBy : Phrase → List Phrase → List String
  | .word keyword, .word _ :: .word name :: _ =>
      if keyword = "from" ∨ keyword = "join" then [name] else []
  | _, _ => []

/-- The names of rows that phrases introduce, those between brackets apart. -/
def introduced : List Phrase → List String
  | [] => []
  | p :: ps => introducedBy p ps ++ introduced ps

/-- Words that mean the same in every statement. -/
def keywords : List String :=
  ["select", "exists", "from", "join", "on", "where", "and", "or", "in", "is", "null", "order", "by",
    "limit", "asc", "desc", "nulls", "first", "last", "collate", "nocase", "nullif", "0", "1", "-1"]

/-- The tables and views of a catalogue. -/
def tables : List String := Kind.all.map Kind.table ++ [Source.summaries.table]

/-- Whether a word is a keyword, a table, or quoted. -/
def isPlain (word : String) : Bool :=
  keywords.contains word || tables.contains word || word.toList.head? == some '\''

mutual

/-- Whether every column is one of a row with one of some names, or with a name that the brackets
around it introduce, and every other word is plain or such a name. -/
def Phrase.Scoped (names : List String) : Phrase → Prop
  | .word s => if isColumn s then qualifier s ∈ names else isPlain s = true ∨ s ∈ names
  | .mark => True
  | .symbol _ => True
  | .group inner => ScopedAll (names ++ introduced inner) inner

/-- Whether this is so in several phrases. -/
def ScopedAll (names : List String) : List Phrase → Prop
  | [] => True
  | p :: ps => p.Scoped names ∧ ScopedAll names ps

end

mutual

/-- The names that each pair of brackets introduces, where there are any. -/
def Phrase.subqueries : Phrase → List (List String)
  | .word _ => []
  | .mark => []
  | .symbol _ => []
  | .group inner =>
      (if (introduced inner).isEmpty then [] else [introduced inner]) ++ allSubqueries inner

/-- Those of several phrases, from left to right. -/
def allSubqueries : List Phrase → List (List String)
  | [] => []
  | p :: ps => p.subqueries ++ allSubqueries ps

end

/-- Whether the names that a subquery introduces are those with a number. -/
def Numbered (names : List String) (number : Nat) : Prop :=
  names = [(RowName.target number).text] ∨
    names = [(RowName.link number).text, (RowName.target number).text]

theorem introducedBy_eq_nil {p : Phrase} (h : p ≠ .word "from" ∧ p ≠ .word "join")
    (ps : List Phrase) : introducedBy p ps = [] := by
  unfold introducedBy
  split
  · rw [if_neg]
    rintro (rfl | rfl)
    · exact h.1 rfl
    · exact h.2 rfl
  · rfl

theorem introduced_cons {p : Phrase} (h : p ≠ .word "from" ∧ p ≠ .word "join")
    (ps : List Phrase) : introduced (p :: ps) = introduced ps := by
  rw [introduced, introducedBy_eq_nil h, List.nil_append]

theorem introduced_keyword {keyword : String} (h : keyword = "from" ∨ keyword = "join")
    (table name : String) (ps : List Phrase) :
    introduced (.word keyword :: .word table :: .word name :: ps) =
      name :: introduced (.word table :: .word name :: ps) := by
  rw [introduced, introducedBy, if_pos h, List.singleton_append]

theorem introduced_append {ps : List Phrase}
    (h : ∀ p ∈ ps, p ≠ .word "from" ∧ p ≠ .word "join") (qs : List Phrase) :
    introduced (ps ++ qs) = introduced qs := by
  induction ps with
  | nil => rfl
  | cons p ps ih =>
      rw [List.cons_append, introduced_cons (h p (by simp)), ih fun q hq => h q (by simp [hq])]

theorem introduced_eq_nil {ps : List Phrase}
    (h : ∀ p ∈ ps, p ≠ .word "from" ∧ p ≠ .word "join") : introduced ps = [] := by
  have hAll := introduced_append h []
  rwa [List.append_nil] at hAll

theorem scopedAll_append {names : List String} {ps qs : List Phrase} :
    ScopedAll names (ps ++ qs) ↔ ScopedAll names ps ∧ ScopedAll names qs := by
  induction ps with
  | nil => simp [ScopedAll]
  | cons p ps ih => simp only [List.cons_append, ScopedAll, ih, and_assoc]

theorem allSubqueries_append (ps qs : List Phrase) :
    allSubqueries (ps ++ qs) = allSubqueries ps ++ allSubqueries qs := by
  induction ps with
  | nil => rfl
  | cons p ps ih => simp only [List.cons_append, allSubqueries, ih, List.append_assoc]

/-- Whether phrases are words and symbols only. -/
def Flat (ps : List Phrase) : Prop := ∀ p ∈ ps, (∃ s, p = .word s) ∨ ∃ c, p = .symbol c

theorem Flat.owners {ps : List Phrase} (h : Flat ps) (last : String) :
    owners last (allTokens ps) = [] := by
  induction ps generalizing last with
  | nil => rfl
  | cons p ps ih =>
      have hRest : Flat ps := fun q hq => h q (by simp [hq])
      rcases h p (by simp) with ⟨s, rfl⟩ | ⟨c, rfl⟩ <;> exact ih hRest _

theorem Flat.allSubqueries {ps : List Phrase} (h : Flat ps) : allSubqueries ps = [] := by
  induction ps with
  | nil => rfl
  | cons p ps ih =>
      have hRest : Flat ps := fun q hq => h q (by simp [hq])
      rcases h p (by simp) with ⟨s, rfl⟩ | ⟨c, rfl⟩ <;> exact ih hRest

/-! ## Operands -/

/-- Whether a phrase ties what stands before it to what stands behind it. -/
def Phrase.IsConnective (p : Phrase) : Prop := p = .word "and" ∨ p = .word "or"

instance (p : Phrase) : Decidable p.IsConnective :=
  match p with
  | .word s => decidable_of_iff (s = "and" ∨ s = "or") (by simp [Phrase.IsConnective])
  | .mark => isFalse (by simp [Phrase.IsConnective])
  | .symbol _ => isFalse (by simp [Phrase.IsConnective])
  | .group _ => isFalse (by simp [Phrase.IsConnective])

/-- What the connectives outside of all brackets tie together. -/
def operands : List Phrase → List (List Phrase)
  | [] => [[]]
  | p :: ps =>
      if p.IsConnective then [] :: operands ps
      else
        match operands ps with
        | [] => [[p]]
        | first :: rest => (p :: first) :: rest

/-- A single comparison, the constant 0, a test for existence, or brackets around something. -/
inductive Undivided : List Phrase → Prop where
  | never : Undivided [.word "0"]
  | equals {column : String} (h : isColumn column = true) :
      Undivided [.word column, .symbol '=', .mark]
  | among {column : String} (h : isColumn column = true) (marks : List Phrase) :
      Undivided [.word column, .word "in", .group marks]
  | absent {column : String} (h : isColumn column = true) :
      Undivided [.word column, .word "is", .word "null"]
  | existence (inner : List Phrase) : Undivided [.word "exists", .group inner]
  | bracketed (inner : List Phrase) : Undivided [.group inner]

theorem Undivided.not_connective {ps : List Phrase} (h : Undivided ps) :
    ∀ p ∈ ps, ¬ p.IsConnective := by
  have hColumn : ∀ {column : String}, isColumn column = true →
      ¬ Phrase.IsConnective (.word column) := by
    rintro column h (hAnd | hOr)
    · cases hAnd
      exact absurd h (by decide)
    · cases hOr
      exact absurd h (by decide)
  cases h <;> simp_all [Phrase.IsConnective]

private theorem operands_of_not_connective {ps : List Phrase} (h : ∀ p ∈ ps, ¬ p.IsConnective) :
    operands ps = [ps] := by
  induction ps with
  | nil => rfl
  | cons p ps ih =>
      rw [operands, if_neg (h p (by simp)), ih fun q hq => h q (by simp [hq])]

private theorem operands_ne_nil (ps : List Phrase) : operands ps ≠ [] := by
  cases ps with
  | nil => simp [operands]
  | cons p ps =>
      rw [operands]
      split
      · simp
      · split <;> simp

private theorem operands_append (before : List Phrase) {p : Phrase} (hp : p.IsConnective)
    (after : List Phrase) :
    operands (before ++ p :: after) = operands before ++ operands after := by
  induction before with
  | nil =>
      have hHere : operands (p :: after) = [] :: operands after := if_pos hp
      exact hHere
  | cons q before ih =>
      rw [List.cons_append, operands, operands, ih]
      split
      · rfl
      · cases hBefore : operands before with
        | nil => exact absurd hBefore (operands_ne_nil before)
        | cons first rest => rfl

/-- **What is undivided stays one operand behind a connective**, and what stands before keeps its
operands. -/
theorem Undivided.operands_append {ps : List Phrase} (h : Undivided ps) (before : List Phrase) :
    operands (before ++ .word "and" :: ps) = operands before ++ [ps] := by
  rw [Sql.operands_append before (Or.inl rfl), operands_of_not_connective h.not_connective]

end Shelfmark.Sql
