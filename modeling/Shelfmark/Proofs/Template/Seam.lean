import Shelfmark.Proofs.Template.Layout

/-!
# One text behind another

A text that ends outside of its blocks has the same tokens with more text behind it, and the
text behind it has the tokens that it has alone. Only at the seam something can change: where
raw text comes upon raw text, the two are one. `Token.before` puts a token in front of others
under that rule, and `joinTokens` does so for many.

The reader must stop where it would have stopped alone. A name, a number or raw text goes on
as far as it can, and with more text behind, it might go further. But in a block, a token at
the very end of a text leaves the block open; so in a text that ends outside of its blocks,
only raw text can grow.

## Main results

* `tokens?_append` — the tokens of a text behind another.
-/

namespace Shelfmark.Template

open Shelfmark.Text

/-! ## Running together at the seam -/

/-- A token in front of others. Raw text runs together with raw text. -/
def Token.before : Token → List Token → List Token
  | .rawText text, .rawText other :: ts => .rawText (text ++ other) :: ts
  | t, ts => t :: ts

/-- Tokens in front of others. -/
def joinTokens (ts us : List Token) : List Token := ts.foldr Token.before us

@[simp] theorem joinTokens_nil (us : List Token) : joinTokens [] us = us := rfl

@[simp] theorem joinTokens_cons (t : Token) (ts us : List Token) :
    joinTokens (t :: ts) us = t.before (joinTokens ts us) := rfl

variable {t : Token} {ts us tokens : List Token} {inBlock : Bool} {c : Char}
  {cs tail rest : List Char} {offset : Nat}

theorem Token.before_of_isText_eq_false (h : t.isText = false) : t.before ts = t :: ts := by
  unfold Token.before
  split
  · cases h
  · rfl

theorem Token.before_of_head (h : ∀ u ∈ ts.head?, u.isText = false) : t.before ts = t :: ts := by
  unfold Token.before
  split
  · cases h _ rfl
  · rfl

/-! ## The tokens of a text wherever it starts -/

/-- The tokens that a run of the reader comes to, if it comes to its end. -/
def runTokens? (run : Except LexicalFault (List Lexeme)) : Option (List Token) :=
  run.toOption.map (List.map Lexeme.token)

/-- The tokens of a text, inside a block or outside, if it has any. -/
def tokens? (inBlock : Bool) (cs : List Char) : Option (List Token) :=
  runTokens? (lexemesFrom inBlock 0 cs)

theorem runTokens?_map_cons (l : Lexeme) (run : Except LexicalFault (List Lexeme)) :
    runTokens? (run.map (l :: ·)) = (runTokens? run).map (l.token :: ·) := by
  cases run <;> rfl

theorem lexemesFrom_token (hSkip : ¬ (inBlock && isBlank c) = true)
    (hToken : tokenAt inBlock c cs = .ok (t, tail)) (offset : Nat) :
    lexemesFrom inBlock offset (c :: cs) =
      (lexemesFrom (entersBlock inBlock t) (offset + byteLength (c :: tail))
        (cs.drop tail.length)).map (⟨t, c :: tail, offset⟩ :: ·) := by
  rw [lexemesFrom, if_neg hSkip]
  simp only [hToken]

/-- The tokens of a text do not depend on where it starts. -/
theorem runTokens?_lexemesFrom (offset other : Nat) :
    runTokens? (lexemesFrom inBlock offset cs) = runTokens? (lexemesFrom inBlock other cs) := by
  fun_induction lexemesFrom inBlock offset cs generalizing other with
  | case1 inBlock offset => rw [lexemesFrom]
  | case2 inBlock offset c cs hSkip ih =>
      rw [lexemesFrom, if_pos hSkip]
      exact ih _
  | case3 inBlock offset c cs hSkip cause hToken =>
      rw [lexemesFrom, if_neg hSkip]
      simp only [hToken]
      rfl
  | case4 inBlock offset c cs hSkip t tail hToken ih =>
      rw [lexemesFrom_token hSkip hToken, runTokens?_map_cons, runTokens?_map_cons]
      rw [ih]

@[simp] theorem tokens?_nil : tokens? inBlock [] = some [] := by
  rw [tokens?, lexemesFrom]
  rfl

theorem tokens?_blank (hSkip : (inBlock && isBlank c) = true) :
    tokens? inBlock (c :: cs) = tokens? inBlock cs := by
  rw [tokens?, lexemesFrom, if_pos hSkip]
  exact runTokens?_lexemesFrom _ _

theorem tokens?_token (hSkip : ¬ (inBlock && isBlank c) = true)
    (hToken : tokenAt inBlock c cs = .ok (t, tail)) :
    tokens? inBlock (c :: cs) =
      (tokens? (entersBlock inBlock t) (cs.drop tail.length)).map (t :: ·) := by
  rw [tokens?, lexemesFrom_token hSkip hToken, runTokens?_map_cons]
  rw [runTokens?_lexemesFrom _ 0, ← tokens?]

theorem tokens?_textToken (h : textToken c cs = (t, tail)) :
    tokens? false (c :: cs) =
      (tokens? (entersBlock false t) (cs.drop tail.length)).map (t :: ·) :=
  tokens?_token (by simp) (congrArg Except.ok h)

theorem noAdjacentText_of_tokens? (h : tokens? inBlock cs = some ts) : NoAdjacentText ts := by
  rw [tokens?] at h
  cases hRun : lexemesFrom inBlock 0 cs with
  | error fault =>
      rw [hRun] at h
      cases h
  | ok ls =>
      rw [hRun] at h
      cases h
      exact noAdjacentText_of_lexemesFrom hRun

/-- Outside of the blocks nothing is passed over. -/
theorem tokens?_ne_nil (h : tokens? false cs = some ts) (hText : cs ≠ []) : ts ≠ [] := by
  cases cs with
  | nil => exact absurd rfl hText
  | cons c cs =>
      rw [tokens?_textToken rfl, Option.map_eq_some_iff] at h
      obtain ⟨rest, -, rfl⟩ := h
      exact List.cons_ne_nil _ _

/-! ## More text behind a token -/

variable {more : List Char}

/-- A run that ends before its text does is the same with more text behind. -/
theorem takeWhile_append_of_drop_ne_nil {p : Char → Bool}
    (h : cs.drop (cs.takeWhile p).length ≠ []) : (cs ++ more).takeWhile p = cs.takeWhile p := by
  have hStop : Stops p (cs.drop (cs.takeWhile p).length ++ more) := by
    intro c hc
    rw [List.head?_append_of_ne_nil _ h] at hc
    exact stops_drop_takeWhile p cs c hc
  have hSplit : cs.takeWhile p ++ cs.drop (cs.takeWhile p).length = cs :=
    List.prefix_iff_eq_append.1 (List.takeWhile_prefix p)
  calc (cs ++ more).takeWhile p
      = (cs.takeWhile p ++ (cs.drop (cs.takeWhile p).length ++ more)).takeWhile p := by
        rw [← List.append_assoc, hSplit]
    _ = cs.takeWhile p := takeWhile_append_of_stops (fun c hc => List.mem_takeWhile_imp hc) hStop

/-- A string ends at its closing quote, whatever stands behind. -/
theorem stringTail_of_escapes {quote : Char} (hQuote : quote ≠ '\\') {body content : List Char}
    (h : Escapes quote body content) :
    stringTail quote (body ++ quote :: more) = body ++ [quote] := by
  induction h with
  | nil => simp [stringTail, hQuote]
  | plain hOther hPlain _ ih => simp [stringTail, hOther, hPlain, ih]
  | @escape d e body content hEscape _ ih =>
      have hBreak : d ≠ '\n' := by
        rintro rfl
        cases hEscape
      simp [stringTail, hBreak, ih]

theorem stringTail_append {quote : Char} (hQuote : quote ≠ '\\') {content : List Char}
    (h : unescape quote (stringTail quote cs) = .ok content) :
    stringTail quote (cs ++ more) = stringTail quote cs := by
  obtain ⟨body, hTail, hBody⟩ := escapes_of_unescape hQuote h
  obtain ⟨rest, hRest⟩ := stringTail_prefix_self quote cs
  have hText : cs ++ more = body ++ quote :: (rest ++ more) :=
    calc cs ++ more = stringTail quote cs ++ rest ++ more := by rw [hRest]
      _ = body ++ quote :: (rest ++ more) := by rw [hTail]; simp
  rw [hText, hTail]
  exact stringTail_of_escapes hQuote hBody

theorem startsNumber_append (h : startsNumber c cs = true) : startsNumber c (cs ++ more) = true := by
  cases cs with
  | nil =>
      have hDigit : c.isDigit = true := by simpa [startsNumber] using h
      simp [startsNumber, hDigit]
  | cons d cs => exact h

theorem startsNumber_of_quote (h : c = '\'' ∨ c = '"') : startsNumber c cs = false := by
  rcases h with rfl | rfl <;> rfl

/-- In a block, a token that is not the last thing in its text is the same with more text
behind it, and so is a closing brace. -/
theorem blockToken_append (h : blockToken c cs = .ok (t, tail))
    (hMore : cs.drop tail.length ≠ [] ∨ t = .closeBrace) :
    blockToken c (cs ++ more) = .ok (t, tail) := by
  unfold blockToken at h ⊢
  cases hPunctuation : punctuation? c with
  | some punctuation =>
      rw [hPunctuation] at h
      exact h
  | none =>
      rw [hPunctuation] at h
      dsimp only at h ⊢
      by_cases hName : isNameStart c = true
      · rw [if_pos hName] at h ⊢
        cases h
        have hRest := hMore.resolve_right (by simp)
        rw [takeWhile_append_of_drop_ne_nil hRest]
      · rw [if_neg hName] at h ⊢
        by_cases hNumber : startsNumber c cs = true
        · rw [if_pos hNumber] at h
          rw [if_pos (startsNumber_append hNumber)]
          obtain ⟨token, hToken, hPair⟩ := exists_of_map_ok h
          cases hPair
          obtain ⟨digits, rfl⟩ := numberToken_eq_ok hToken
          have hRest := hMore.resolve_right (by simp)
          rw [takeWhile_append_of_drop_ne_nil hRest, hToken]
          rfl
        · rw [if_neg hNumber] at h
          by_cases hQuote : c = '\'' ∨ c = '"'
          · have hPlain : c ≠ '\\' := by rcases hQuote with rfl | rfl <;> decide
            have hQuoted : (decide (c = '\'') || decide (c = '"')) = true := by simpa using hQuote
            rw [startsNumber_of_quote hQuote, if_neg (by simp), if_pos hQuoted]
            rw [if_pos hQuoted] at h
            obtain ⟨content, hContent, hPair⟩ := exists_of_map_ok h
            rw [stringTail_append hPlain hContent]
            exact h
          · rw [if_neg (by simpa using hQuote)] at h
            cases h

/-- Outside of the blocks too, but there raw text can be the last thing in its text. -/
theorem textToken_append (h : textToken c cs = (t, tail))
    (hMore : cs.drop tail.length ≠ [] ∨ t = .closeBrace) : textToken c (cs ++ more) = (t, tail) := by
  unfold textToken at h ⊢
  by_cases hOpen : c = '\x7b'
  · rw [if_pos hOpen] at h ⊢
    exact h
  · rw [if_neg hOpen] at h ⊢
    by_cases hClose : c = '\x7d'
    · rw [if_pos hClose] at h ⊢
      exact h
    · rw [if_neg hClose] at h ⊢
      cases h
      have hRest := hMore.resolve_right (by simp)
      rw [takeWhile_append_of_drop_ne_nil hRest]

theorem tokenAt_append (h : tokenAt inBlock c cs = .ok (t, tail))
    (hMore : cs.drop tail.length ≠ [] ∨ t = .closeBrace) :
    tokenAt inBlock c (cs ++ more) = .ok (t, tail) := by
  cases inBlock with
  | true => exact blockToken_append h hMore
  | false => exact congrArg Except.ok (textToken_append (Except.ok.inj h) hMore)

/-! ## Raw text before the seam -/

theorem textToken_of_plain (hPlain : ∀ d ∈ c :: cs, isBrace d = false)
    (hStop : Stops (!isBrace ·) rest) :
    textToken c (cs ++ rest) = (.rawText (String.ofList (c :: cs)), cs) := by
  obtain ⟨hFirst, hTail⟩ := List.forall_mem_cons.1 hPlain
  have hBraces : c ≠ '\x7b' ∧ c ≠ '\x7d' := by simpa [isBrace] using hFirst
  have hRun : (cs ++ rest).takeWhile (!isBrace ·) = cs :=
    takeWhile_append_of_stops (fun d hd => by simp [hTail d hd]) hStop
  simp [textToken, hBraces, hRun]

theorem tokens?_plain (hPlain : ∀ d ∈ c :: cs, isBrace d = false)
    (hStop : Stops (!isBrace ·) rest) :
    tokens? false (c :: cs ++ rest) =
      (tokens? false rest).map (.rawText (String.ofList (c :: cs)) :: ·) := by
  rw [List.cons_append, tokens?_textToken (textToken_of_plain hPlain hStop), List.drop_left]
  rfl

theorem tokens?_brace (cs : List Char) (hBrace : isBrace c = true) :
    ∃ t, t.isText = false ∧
      tokens? false (c :: cs) = (tokens? (entersBlock false t) cs).map (t :: ·) := by
  have hBraces : c = '\x7b' ∨ c = '\x7d' := by simpa [isBrace] using hBrace
  rcases hBraces with rfl | rfl
  · exact ⟨.openBrace, rfl, tokens?_textToken rfl⟩
  · exact ⟨.closeBrace, rfl, tokens?_textToken rfl⟩

theorem tokens?_allPlain (hPlain : ∀ d ∈ c :: cs, isBrace d = false) :
    tokens? false (c :: cs) = some [.rawText (String.ofList (c :: cs))] := by
  have hStop : Stops (!isBrace ·) [] := by simp [Stops]
  have hAlone := tokens?_plain hPlain hStop
  rwa [List.append_nil, tokens?_nil] at hAlone

/-- Raw text runs together with the text behind it. -/
theorem tokens?_plain_append (hPlain : ∀ d ∈ c :: cs, isBrace d = false) :
    tokens? false (c :: cs ++ more) =
      (tokens? false more).map (Token.before (.rawText (String.ofList (c :: cs)))) := by
  cases more with
  | nil =>
      rw [List.append_nil, tokens?_allPlain hPlain, tokens?_nil]
      rfl
  | cons d more =>
      cases hBrace : isBrace d with
      | true =>
          have hStop : Stops (!isBrace ·) (d :: more) := by
            rintro _ ⟨⟩
            simp [hBrace]
          obtain ⟨t, hText, hTokens⟩ := tokens?_brace more hBrace
          rw [tokens?_plain hPlain hStop, hTokens, Option.map_map, Option.map_map]
          congr 1
          funext ts
          exact (Token.before_of_head (by simpa using hText)).symm
      | false =>
          -- the text behind starts with raw text of its own, up to its first brace
          let run := more.takeWhile (!isBrace ·)
          let after := more.drop run.length
          have hMore : d :: more = d :: run ++ after :=
            congrArg (d :: ·) (List.prefix_iff_eq_append.1 (List.takeWhile_prefix _)).symm
          have hRun : ∀ e ∈ d :: run, isBrace e = false := by
            refine List.forall_mem_cons.2 ⟨hBrace, fun e he => ?_⟩
            simpa using List.mem_takeWhile_imp he
          have hBoth : ∀ e ∈ c :: (cs ++ d :: run), isBrace e = false := by
            intro e he
            rcases List.mem_append.1 (List.cons_append ▸ he) with he | he
            · exact hPlain e he
            · exact hRun e he
          have hStop : Stops (!isBrace ·) after := stops_drop_takeWhile _ _
          have hText : c :: cs ++ (d :: run ++ after) = c :: (cs ++ d :: run) ++ after := by simp
          rw [hMore, tokens?_plain hRun hStop, hText, tokens?_plain hBoth hStop, Option.map_map]
          congr 1
          funext ts
          rw [← List.cons_append, String.ofList_append]
          rfl

/-! ## A text behind another -/

theorem joinTokens_cons_of_noAdjacentText (hApart : NoAdjacentText (t :: ts))
    (hMore : t.isText = true → ts ≠ []) : t.before (joinTokens ts us) = t :: joinTokens ts us := by
  cases hText : t.isText with
  | false => exact Token.before_of_isText_eq_false hText
  | true =>
      obtain ⟨u, ts, rfl⟩ := List.exists_cons_of_ne_nil (hMore hText)
      have hNext : u.isText = false := by
        have hPair := (List.isChain_cons.1 hApart).1 u rfl
        simpa [hText] using hPair
      refine Token.before_of_head ?_
      rw [joinTokens_cons, Token.before_of_isText_eq_false hNext]
      simpa using hNext

/-- What a text that ends outside of its blocks can end with. -/
theorem isText_or_closeBrace (h : tokenAt inBlock c cs = .ok (t, tail))
    (hEnd : entersBlock inBlock t = false) : t.isText = true ∨ t = .closeBrace := by
  have hSide := (tokenAt_spelled h).2.1
  cases inBlock with
  | true =>
      have hClose : t = .closeBrace := by simpa [entersBlock] using hEnd
      exact Or.inr hClose
  | false => cases t <;> simp_all [entersBlock, Token.StandsIn, Token.isText]

/-- Raw text up to the end of its text can grow. -/
theorem tokens?_append_of_text (hToken : tokenAt inBlock c cs = .ok (t, tail))
    (hText : t.isText = true) (hNone : cs.drop tail.length = [])
    (h : tokens? inBlock (c :: cs) = some ts) :
    tokens? inBlock (c :: cs ++ more) = (tokens? false more).map (joinTokens ts) := by
  obtain ⟨rfl, hBrace, hRaw⟩ := tokenAt_isText hToken hText
  have hAll : cs.takeWhile (!isBrace ·) = cs := by
    have hTail := List.prefix_iff_eq_append.1 (tokenAt_spelled hToken).1
    rwa [hNone, List.append_nil, hRaw] at hTail
  have hPlain : ∀ d ∈ c :: cs, isBrace d = false := by
    refine List.forall_mem_cons.2 ⟨hBrace, fun d hd => ?_⟩
    simpa using List.takeWhile_eq_self_iff.1 hAll d hd
  have hTokens := tokens?_allPlain hPlain
  obtain rfl : [.rawText (String.ofList (c :: cs))] = ts :=
    Option.some.inj (hTokens.symm.trans h)
  exact tokens?_plain_append hPlain

/-- **The tokens of a text behind another.** Where a text ends outside of its blocks, the text
behind it is read as it is alone, and raw text runs together at the seam. -/
theorem tokens?_append (h : tokens? inBlock cs = some ts) (hEnd : inBlockAfter inBlock ts = false) :
    tokens? inBlock (cs ++ more) = (tokens? false more).map (joinTokens ts) := by
  have hRun : runTokens? (lexemesFrom inBlock 0 cs) = some ts := h
  clear h
  generalize 0 = offset at hRun
  fun_induction lexemesFrom inBlock offset cs generalizing ts with
  | case1 inBlock offset =>
      cases hRun
      rw [show inBlock = false from hEnd, List.nil_append]
      exact (congrFun Option.map_id _).symm
  | case2 inBlock offset c cs hSkip ih =>
      rw [List.cons_append, tokens?_blank hSkip]
      exact ih hEnd hRun
  | case3 => cases hRun
  | case4 inBlock offset c cs hSkip t tail hToken ih =>
      have hWhole : tokens? inBlock (c :: cs) = some ts := by
        rw [tokens?, runTokens?_lexemesFrom _ offset, lexemesFrom_token hSkip hToken]
        exact hRun
      by_cases hLast : t.isText = true ∧ cs.drop tail.length = []
      · exact tokens?_append_of_text hToken hLast.1 hLast.2 hWhole
      · have hApart := noAdjacentText_of_tokens? hWhole
        rw [runTokens?_map_cons, Option.map_eq_some_iff] at hRun
        obtain ⟨ts, hRest, rfl⟩ := hRun
        have hBehind : tokens? (entersBlock inBlock t) (cs.drop tail.length) = some ts := by
          rw [tokens?, runTokens?_lexemesFrom _ (offset + byteLength (c :: tail))]
          exact hRest
        have hMore : cs.drop tail.length ≠ [] ∨ t = .closeBrace := by
          by_cases hNone : cs.drop tail.length = []
          · rw [hNone, tokens?_nil] at hBehind
            cases hBehind
            have hNoText : ¬ t.isText = true := fun hText => hLast ⟨hText, hNone⟩
            exact Or.inr ((isText_or_closeBrace hToken hEnd).resolve_left hNoText)
          · exact Or.inl hNone
        have hText : t.isText = true → ts ≠ [] := by
          intro hText
          obtain ⟨rfl, -, -⟩ := tokenAt_isText hToken hText
          have hOutside : entersBlock false t = false := by
            cases t <;> first | rfl | cases hText
          rw [hOutside] at hBehind
          exact tokens?_ne_nil hBehind fun hNone => hLast ⟨hText, hNone⟩
        have hDrop : (cs ++ more).drop tail.length = cs.drop tail.length ++ more :=
          List.drop_append_of_le_length (tokenAt_spelled hToken).1.length_le
        rw [List.cons_append, tokens?_token hSkip (tokenAt_append hToken hMore), hDrop,
          ih hEnd hRest, Option.map_map]
        congr 1
        funext us
        exact (joinTokens_cons_of_noAdjacentText hApart hText).symm

end Shelfmark.Template
