import Shelfmark.Proofs.Template.Derivation
import Shelfmark.Proofs.Template.Lexing
import Shelfmark.Proofs.Text.Digits
import Shelfmark.Template.Fault

/-!
# Writing a template and reading it back

A tree can be written down when its names are names, its raw text is plain, and its
blocks hold something; and raw text must not stand beside raw text, which would run
together. String contents and numbers are free. `parse_print` says that these trees are
just the ones that reading brings back from their written form, and that reading yields
no others.

Both directions go through the grammar. A well-formed tree has tokens that derive it and
that its written form is read into, phrase by phrase: `Spells` leaves room for the text
behind a phrase, which has to go on with something that no name or number does. Conversely
the tokens of a text are well formed, and so is what they derive.
-/

namespace Shelfmark.Template

open Shelfmark.Text

/-! ## Trees that can be written down -/

/-- An expression in which every name is a name. -/
inductive Expr.WellFormed : Expr → Prop where
  | string (content : String) : WellFormed (.string content)
  | number (value : Int64) : WellFormed (.number value)
  | name {identifier : String} (h : IsName identifier) : WellFormed (.name identifier)
  | call {function : String} {arguments : List Expr} (h : IsName function)
      (hArguments : ∀ e ∈ arguments, e.WellFormed) : WellFormed (.call function arguments)

/-- A piece of plain text, or a block that holds something. -/
def Node.WellFormed : Node → Prop
  | .raw text => IsPlainText text
  | .block b => b.chain ≠ [] ∧ ∀ e ∈ b.chain, e.WellFormed

/-- Whether a piece is raw text. -/
def Node.isRaw : Node → Bool
  | .raw _ => true
  | .block _ => false

/-- A template that can be written down: its pieces can, and no raw text stands beside
raw text. -/
structure WellFormed (nodes : List Node) : Prop where
  pieces : ∀ node ∈ nodes, node.WellFormed
  apart : nodes.IsChain fun m n => ¬ (m.isRaw = true ∧ n.isRaw = true)

/-! ## What is read is well formed -/

mutual

theorem DerivesExpr.wellFormed {tokens : List Token} {e : Expr} (h : DerivesExpr tokens e)
    (hTokens : ∀ t ∈ tokens, t.WellFormed) : e.WellFormed := by
  match h with
  | .string => exact .string _
  | .number _ => exact .number _
  | .name => exact .name (hTokens (.identifier _) (by simp))
  | .callEmpty => exact .call (hTokens (.identifier _) (by simp)) (by simp)
  | .call hArguments =>
      refine .call (hTokens (.identifier _) (by simp)) ?_
      exact hArguments.wellFormed fun t ht => hTokens t (by simp [ht])

theorem DerivesArguments.wellFormed {tokens : List Token} {es : List Expr}
    (h : DerivesArguments tokens es) (hTokens : ∀ t ∈ tokens, t.WellFormed) :
    ∀ e ∈ es, e.WellFormed := by
  match h with
  | .last hExpr => simpa using hExpr.wellFormed hTokens
  | .cons hExpr hRest =>
      refine List.forall_mem_cons.2 ⟨?_, ?_⟩
      · exact hExpr.wellFormed fun t ht => hTokens t (by simp [ht])
      · exact hRest.wellFormed fun t ht => hTokens t (by simp [ht])

end

variable {tokens : List Token} {nodes : List Node}

theorem DerivesFilters.wellFormed {es : List Expr} (h : DerivesFilters tokens es)
    (hTokens : ∀ t ∈ tokens, t.WellFormed) : ∀ e ∈ es, e.WellFormed := by
  induction h with
  | nil => simp
  | cons hExpr _ ih =>
      refine List.forall_mem_cons.2 ⟨?_, ?_⟩
      · exact hExpr.wellFormed fun t ht => hTokens t (by simp [ht])
      · exact ih fun t ht => hTokens t (by simp [ht])

theorem DerivesBlock.wellFormed {b : Block} (h : DerivesBlock tokens b)
    (hTokens : ∀ t ∈ tokens, t.WellFormed) : (Node.block b).WellFormed := by
  cases h with
  | plain hExpr hFilters =>
      refine ⟨by simp, List.forall_mem_cons.2 ⟨?_, ?_⟩⟩
      · exact hExpr.wellFormed fun t ht => hTokens t (by simp [ht])
      · exact hFilters.wellFormed fun t ht => hTokens t (by simp [ht])
  | optional hExpr hFilters =>
      refine ⟨by simp, List.forall_mem_cons.2 ⟨?_, ?_⟩⟩
      · exact hExpr.wellFormed fun t ht => hTokens t (by simp [ht])
      · exact hFilters.wellFormed fun t ht => hTokens t (by simp [ht])

/-- A piece of raw text in front comes from raw text in front. -/
theorem DerivesTemplate.isText_head {node : Node} (h : DerivesTemplate tokens (node :: nodes))
    (hRaw : node.isRaw = true) : ∃ t ∈ tokens.head?, t.isText = true := by
  cases h with
  | raw _ => exact ⟨_, rfl, rfl⟩
  | block _ _ => cases hRaw

theorem DerivesTemplate.wellFormed (h : DerivesTemplate tokens nodes)
    (hTokens : ∀ t ∈ tokens, t.WellFormed) (hApart : NoAdjacentText tokens) :
    WellFormed nodes := by
  induction h with
  | nil => exact ⟨by simp, List.isChain_nil⟩
  | @raw text tokens nodes hRest ih =>
      obtain ⟨hNext, hApart⟩ := List.isChain_cons.1 hApart
      obtain ⟨hPieces, hChain⟩ := ih (fun t ht => hTokens t (by simp [ht])) hApart
      refine ⟨List.forall_mem_cons.2 ⟨hTokens (.rawText text) (by simp), hPieces⟩, ?_⟩
      refine List.isChain_cons.2 ⟨?_, hChain⟩
      rintro node hNode ⟨-, hRaw⟩
      cases nodes with
      | nil => cases hNode
      | cons n nodes =>
          cases hNode
          obtain ⟨t, ht, hText⟩ := hRest.isText_head hRaw
          exact hNext t ht ⟨rfl, hText⟩
  | @block tokens rest b nodes hBlock hRest ih =>
      have hSuffix : NoAdjacentText rest := hApart.suffix (List.suffix_append tokens rest)
      obtain ⟨hPieces, hChain⟩ := ih (fun t ht => hTokens t (by simp [ht])) hSuffix
      refine ⟨List.forall_mem_cons.2 ⟨?_, hPieces⟩, List.isChain_cons.2 ⟨?_, hChain⟩⟩
      · exact hBlock.wellFormed fun t ht => hTokens t (by simp [ht])
      · rintro node - ⟨hRaw, -⟩
        cases hRaw

/-- A text is read as a tree when its tokens derive the tree. -/
theorem parse_eq_ok_iff {source : String} :
    parse source = .ok nodes ↔ ∃ ls, lexemesFrom false 0 source.toList = .ok ls ∧
      DerivesTemplate (ls.map Lexeme.token) nodes := by
  cases hLexemes : lexemesFrom false 0 source.toList with
  | error fault => simp [parse, tokenize, lexemes, hLexemes]
  | ok ls =>
      have hParse : parse source = .ok nodes ↔ nodesOf ls = .ok nodes := by
        cases hNodes : nodesOf ls <;> simp [parse, tokenize, lexemes, hLexemes, hNodes]
      simp [hParse, nodesOf_eq_ok_iff]

theorem wellFormed_of_parse {source : String} (h : parse source = .ok nodes) :
    WellFormed nodes := by
  obtain ⟨ls, hLexemes, hDerives⟩ := parse_eq_ok_iff.1 h
  refine hDerives.wellFormed ?_ (noAdjacentText_of_lexemesFrom hLexemes)
  simpa using wellFormed_of_lexemesFrom hLexemes

/-! ## What is written is read -/

/-- The escaped form of a character is read back as that character. -/
theorem unescape_escapeChar (c : Char) (cs : List Char) :
    unescape '\'' (escapeChar c ++ cs) = (unescape '\'' cs).map (c :: ·) := by
  unfold escapeChar
  split_ifs <;> simp_all [unescape, escaped?]

/-- The escaped form of a character does not end a string. -/
theorem stringTail_escapeChar (c : Char) (cs : List Char) :
    stringTail '\'' (escapeChar c ++ cs) = escapeChar c ++ stringTail '\'' cs := by
  unfold escapeChar
  split_ifs <;> simp_all [stringTail]

theorem unescape_escaped (cs rest : List Char) :
    unescape '\'' (cs.flatMap escapeChar ++ '\'' :: rest) = .ok cs := by
  induction cs with
  | nil => simp [unescape]
  | cons c cs ih =>
      rw [List.flatMap_cons, List.append_assoc, unescape_escapeChar, ih]
      rfl

theorem stringTail_escaped (cs rest : List Char) :
    stringTail '\'' (cs.flatMap escapeChar ++ '\'' :: rest) = cs.flatMap escapeChar ++ ['\''] := by
  induction cs with
  | nil => simp [stringTail]
  | cons c cs ih =>
      rw [List.flatMap_cons, List.append_assoc, stringTail_escapeChar, ih, List.append_assoc]

variable {others : List Token} {cs rest : List Char}

theorem Lexes.quoted (content : String) (hRest : Lexes true rest tokens) :
    Lexes true (quotedChars content ++ rest) (.string content :: tokens) := by
  have hTail := stringTail_escaped content.toList rest
  have hContent := unescape_escaped content.toList []
  rw [quotedChars]
  refine Lexes.cons _ (fun _ => by decide) ?_ hRest
  have hName : isNameStart '\'' = false := by decide
  have hPunctuation : punctuation? '\'' = none := by decide
  simp [tokenAt, blockToken, hName, hPunctuation, startsNumber, hTail, hContent, Except.map]

/-- The text of a phrase inside a block and its tokens: with a text behind it that goes on
with no name or number, the tokens of that text follow. -/
def Spells (cs : List Char) (tokens : List Token) : Prop :=
  ∀ ⦃rest others⦄, Stops isNamePart rest → Lexes true rest others →
    Lexes true (cs ++ rest) (tokens ++ others)

theorem spells_integer (i : Int) : Spells (intDigits i) [.number (writeInt i)] := by
  intro rest others hStop hRest
  obtain ⟨c, ds, hDigits, hFirst, hAll⟩ := intDigits_eq_cons i
  rw [writeInt, hDigits]
  exact Lexes.number hFirst hAll hStop hRest

theorem spells_nil : Spells [] [] := fun _ _ _ hRest => hRest

theorem Spells.blank (h : Spells cs tokens) : Spells (' ' :: cs) tokens :=
  fun _ _ hStop hRest => Lexes.blank (by decide) (h hStop hRest)

/-- Two phrases with a punctuation mark between them. -/
theorem Spells.punctuated {c : Char} {t : Token} {ds : List Char} (h : Spells cs tokens)
    (hToken : punctuation? c = some t) (hBlock : entersBlock true t = true)
    (hOther : Spells ds others) : Spells (cs ++ c :: ds) (tokens ++ t :: others) := by
  intro rest more hStop hRest
  rw [List.append_assoc, List.append_assoc]
  refine h ?_ (Lexes.punctuation hToken ?_)
  · rintro _ ⟨⟩
    exact (punctuation?_eq_some hToken).1.2
  · rw [hBlock]
    exact hOther hStop hRest

theorem Spells.closed (h : Spells cs tokens) : Spells (cs ++ [')']) (tokens ++ [.closeParen]) :=
  h.punctuated rfl rfl spells_nil

/-- Arguments that can be written one by one can be written in a row. -/
theorem exists_spelled_arguments {es : List Expr} (hNonempty : es ≠ [])
    (h : ∀ e ∈ es, ∃ tokens, DerivesExpr tokens e ∧ Spells e.chars tokens) :
    ∃ tokens, DerivesArguments tokens es ∧ Spells (Expr.argumentChars es) tokens := by
  induction es with
  | nil => exact absurd rfl hNonempty
  | cons e es ih =>
      obtain ⟨tokens, hDerives, hSpells⟩ := h e (by simp)
      cases es with
      | nil => exact ⟨tokens, .last hDerives, by simpa [Expr.argumentChars] using hSpells⟩
      | cons f es =>
          obtain ⟨others, hOthers, hSpellsOthers⟩ :=
            ih (by simp) fun e he => h e (List.mem_cons_of_mem _ he)
          refine ⟨_, .cons hDerives hOthers, ?_⟩
          rw [Expr.argumentChars.eq_3 _ _ (by simp)]
          exact hSpells.punctuated rfl rfl hSpellsOthers.blank

theorem Expr.WellFormed.exists_spelled {e : Expr} (h : e.WellFormed) :
    ∃ tokens, DerivesExpr tokens e ∧ Spells e.chars tokens := by
  induction h with
  | string content => exact ⟨_, .string, fun _ _ _ hRest => Lexes.quoted content hRest⟩
  | number value =>
      refine ⟨_, .number ?_, spells_integer value.toInt⟩
      rw [writeInt, String.toList_ofList]
      exact readInt64?_intDigits value
  | name hName => exact ⟨_, .name, fun _ _ hStop hRest => Lexes.name hName hStop hRest⟩
  | @call function arguments hName _ ih =>
      have hFunction : Spells function.toList [.identifier function] :=
        fun _ _ hStop hRest => Lexes.name hName hStop hRest
      by_cases hEmpty : arguments = []
      · subst hEmpty
        have hCall : Spells (function.toList ++ '(' :: [')'])
            [.identifier function, .openParen, .closeParen] :=
          hFunction.punctuated rfl rfl spells_nil.closed
        exact ⟨_, .callEmpty, by simpa [Expr.chars, Expr.argumentChars] using hCall⟩
      · obtain ⟨tokens, hDerives, hSpells⟩ := exists_spelled_arguments hEmpty ih
        have hCall : Spells (function.toList ++ '(' :: (Expr.argumentChars arguments ++ [')']))
            (.identifier function :: .openParen :: (tokens ++ [.closeParen])) :=
          hFunction.punctuated rfl rfl hSpells.closed
        exact ⟨_, .call hDerives, by simpa [Expr.chars] using hCall⟩

/-- A chain is written as its first expression with the filters behind it. -/
theorem exists_spelled_chain {e : Expr} {es : List Expr}
    (h : ∀ f ∈ e :: es, f.WellFormed) :
    ∃ tokens others, DerivesExpr tokens e ∧ DerivesFilters others es ∧
      Spells (chainChars (e :: es)) (tokens ++ others) := by
  induction es generalizing e with
  | nil =>
      obtain ⟨tokens, hDerives, hSpells⟩ := (h e (by simp)).exists_spelled
      exact ⟨tokens, [], hDerives, .nil, by simpa [chainChars] using hSpells⟩
  | cons f es ih =>
      obtain ⟨tokens, hDerives, hSpells⟩ := (h e (by simp)).exists_spelled
      obtain ⟨first, others, hFirst, hOthers, hSpellsRest⟩ :=
        ih fun g hg => h g (List.mem_cons_of_mem e hg)
      refine ⟨tokens, _, hDerives, .cons hFirst hOthers, ?_⟩
      simpa [chainChars] using hSpells.punctuated rfl rfl hSpellsRest

/-- The written form of a block, with a text outside the blocks behind it. -/
theorem exists_lexes_block {b : Block} (h : (Node.block b).WellFormed) :
    ∃ tokens, DerivesBlock tokens b ∧ ∀ {rest others}, Lexes false rest others →
      Lexes false (b.chars ++ rest) (tokens ++ others) := by
  obtain ⟨optional, chain⟩ := b
  obtain ⟨hNonempty, hExprs⟩ := h
  obtain ⟨e, es, rfl⟩ := List.exists_cons_of_ne_nil hNonempty
  obtain ⟨tokens, others, hDerives, hFilters, hSpells⟩ := exists_spelled_chain hExprs
  have hInner : ∀ {rest more}, Lexes false rest more →
      Lexes true (chainChars (e :: es) ++ '\x7d' :: rest)
        (tokens ++ others ++ .closeBrace :: more) := by
    intro rest more hRest
    refine hSpells ?_ (Lexes.punctuation rfl hRest)
    rintro _ ⟨⟩
    decide
  cases optional with
  | false =>
      refine ⟨_, .plain hDerives hFilters, fun hRest => ?_⟩
      simpa [Block.chars] using Lexes.openBrace (hInner hRest)
  | true =>
      refine ⟨_, .optional hDerives hFilters, fun hRest => ?_⟩
      have hQuestion := Lexes.punctuation (c := '?') rfl (hInner hRest)
      simpa [Block.chars] using Lexes.openBrace hQuestion

theorem WellFormed.exists_lexes (h : WellFormed nodes) :
    ∃ tokens, DerivesTemplate tokens nodes ∧ Lexes false (nodes.flatMap Node.chars) tokens := by
  obtain ⟨hPieces, hApart⟩ := h
  induction nodes with
  | nil => exact ⟨[], .nil, Lexes.nil false⟩
  | cons node nodes ih =>
      obtain ⟨hNext, hApart⟩ := List.isChain_cons.1 hApart
      obtain ⟨hNode, hPieces⟩ := List.forall_mem_cons.1 hPieces
      obtain ⟨tokens, hDerives, hLexes⟩ := ih hPieces hApart
      rw [List.flatMap_cons]
      cases node with
      | raw text =>
          refine ⟨_, .raw hDerives, Lexes.plainText hNode ?_ hLexes⟩
          cases nodes with
          | nil => nofun
          | cons next nodes =>
              cases next with
              | raw _ => exact absurd ⟨rfl, rfl⟩ (hNext _ rfl)
              | block b =>
                  rintro _ ⟨⟩
                  rfl
      | block b =>
          obtain ⟨front, hBlock, hFront⟩ := exists_lexes_block hNode
          exact ⟨_, .block hBlock hDerives, hFront hLexes⟩

theorem parse_print_of_wellFormed (h : WellFormed nodes) : parse (print nodes) = .ok nodes := by
  obtain ⟨tokens, hDerives, hLexes⟩ := h.exists_lexes
  obtain ⟨ls, hRun, rfl⟩ := hLexes 0
  exact parse_eq_ok_iff.2 ⟨ls, by rw [print, String.toList_ofList, hRun], hDerives⟩

/-- **Templates survive writing and reading.** A tree comes back from its written form just
when it can be written down at all, and reading yields only such trees; so the written form
of what was read is read as the same. -/
theorem parse_print :
    (∀ nodes, parse (print nodes) = .ok nodes ↔ WellFormed nodes) ∧
      ∀ source nodes, parse source = .ok nodes →
        WellFormed nodes ∧ parse (print nodes) = .ok nodes := by
  refine ⟨fun nodes => ⟨wellFormed_of_parse, parse_print_of_wellFormed⟩, fun source nodes h => ?_⟩
  have hWellFormed := wellFormed_of_parse h
  exact ⟨hWellFormed, parse_print_of_wellFormed hWellFormed⟩

/-- A template with an optional block. -/
def sampleTemplate : List Node :=
  [.raw "by ", .block ⟨true, [.name "authors#0", .call "pad" [.number 7, .string "it's"]]⟩]

/-- The sample is read from a text with blanks, leading zeros and other quotes than those
it is written with. -/
theorem parse_print_sample :
    parse "by \x7b?authors#0 | pad( 007, \"it's\" )\x7d" = .ok sampleTemplate ∧
      WellFormed sampleTemplate ∧ parse (print sampleTemplate) = .ok sampleTemplate := by
  have hParse : parse "by \x7b?authors#0 | pad( 007, \"it's\" )\x7d" = .ok sampleTemplate := by
    decide +kernel
  exact ⟨hParse, parse_print.2 _ _ hParse⟩

example : print sampleTemplate = "by \x7b?authors#0|pad(7, 'it\\'s')\x7d" := by decide +kernel

end Shelfmark.Template
