import Shelfmark.Proofs.Answers
import Shelfmark.Template.Grammar

/-!
# The grammar of label templates

The grammar as a relation between token sequences and trees, one constructor for each
way to build a phrase:

    template  := (raw text | block)*
    block     := '{' '?'? expr filters '}'
    filters   := ('|' expr)*
    expr      := string | number | name ('(' arguments? ')')?
    arguments := expr (',' expr)*

The reader of a phrase takes tokens off the front that derive what it reads, and where
tokens in front derive a phrase, it takes just these. So reading gives a tree just when
the whole sequence derives it: `nodesOf_eq_ok_iff`. That no expression goes on with an
opening parenthesis is what tells a name from a call.
-/

namespace Shelfmark.Template

open Shelfmark.Text

mutual

/-- The tokens of an expression. -/
inductive DerivesExpr : List Token → Expr → Prop where
  | string {content : String} : DerivesExpr [.string content] (.string content)
  | number {digits : String} {value : Int64} (h : readInt64? digits.toList = some value) :
      DerivesExpr [.number digits] (.number value)
  | name {identifier : String} : DerivesExpr [.identifier identifier] (.name identifier)
  | callEmpty {function : String} :
      DerivesExpr [.identifier function, .openParen, .closeParen] (.call function [])
  | call {function : String} {tokens : List Token} {arguments : List Expr}
      (h : DerivesArguments tokens arguments) :
      DerivesExpr (.identifier function :: .openParen :: tokens ++ [.closeParen])
        (.call function arguments)

/-- The tokens of the arguments of a call. -/
inductive DerivesArguments : List Token → List Expr → Prop where
  | last {tokens : List Token} {e : Expr} (h : DerivesExpr tokens e) :
      DerivesArguments tokens [e]
  | cons {tokens rest : List Token} {e : Expr} {es : List Expr} (h : DerivesExpr tokens e)
      (hRest : DerivesArguments rest es) : DerivesArguments (tokens ++ .comma :: rest) (e :: es)

end

/-- The tokens of the filters of a block. -/
inductive DerivesFilters : List Token → List Expr → Prop where
  | nil : DerivesFilters [] []
  | cons {tokens rest : List Token} {e : Expr} {es : List Expr} (h : DerivesExpr tokens e)
      (hRest : DerivesFilters rest es) : DerivesFilters (.pipe :: tokens ++ rest) (e :: es)

/-- The tokens of a block. -/
inductive DerivesBlock : List Token → Block → Prop where
  | plain {tokens rest : List Token} {e : Expr} {es : List Expr} (h : DerivesExpr tokens e)
      (hRest : DerivesFilters rest es) :
      DerivesBlock (.openBrace :: tokens ++ rest ++ [.closeBrace]) ⟨false, e :: es⟩
  | optional {tokens rest : List Token} {e : Expr} {es : List Expr} (h : DerivesExpr tokens e)
      (hRest : DerivesFilters rest es) :
      DerivesBlock (.openBrace :: .question :: tokens ++ rest ++ [.closeBrace]) ⟨true, e :: es⟩

/-- The tokens of a template. -/
inductive DerivesTemplate : List Token → List Node → Prop where
  | nil : DerivesTemplate [] []
  | raw {text : String} {tokens : List Token} {nodes : List Node}
      (h : DerivesTemplate tokens nodes) :
      DerivesTemplate (.rawText text :: tokens) (.raw text :: nodes)
  | block {tokens rest : List Token} {b : Block} {nodes : List Node}
      (h : DerivesBlock tokens b) (hRest : DerivesTemplate rest nodes) :
      DerivesTemplate (tokens ++ rest) (.block b :: nodes)

/-! ## Taking tokens off the front -/

/-- The tokens in front of `rest`. -/
def Takes (ls rest : List Lexeme) (tokens : List Token) : Prop :=
  ∃ taken, ls = taken ++ rest ∧ taken.map Lexeme.token = tokens

variable {ls rest : List Lexeme} {t : Token} {tokens others : List Token}

@[simp] theorem firstToken?_cons (l : Lexeme) (ls : List Lexeme) :
    firstToken? (l :: ls) = some l.token := rfl

theorem firstToken?_eq_some (h : firstToken? ls = some t) :
    ∃ l, ls = l :: ls.tail ∧ l.token = t := by
  cases ls with
  | nil => cases h
  | cons l ls =>
      cases h
      exact ⟨l, rfl, rfl⟩

@[simp] theorem takes_nil : Takes ls rest [] ↔ ls = rest := by
  simp [Takes]

@[simp] theorem takes_cons :
    Takes ls rest (t :: tokens) ↔ firstToken? ls = some t ∧ Takes ls.tail rest tokens := by
  constructor
  · rintro ⟨taken, rfl, hTokens⟩
    cases taken with
    | nil => cases hTokens
    | cons l taken =>
        cases hTokens
        exact ⟨rfl, taken, rfl, rfl⟩
  · rintro ⟨hFirst, taken, hTail, rfl⟩
    cases ls with
    | nil => cases hFirst
    | cons l ls =>
        cases hFirst
        exact ⟨l :: taken, by simpa using hTail, rfl⟩

@[simp] theorem takes_append :
    Takes ls rest (tokens ++ others) ↔
      ∃ between, Takes ls between tokens ∧ Takes between rest others := by
  constructor
  · rintro ⟨taken, rfl, hTokens⟩
    obtain ⟨front, back, rfl, rfl, rfl⟩ := List.map_eq_append_iff.1 hTokens
    exact ⟨back ++ rest, ⟨front, by simp, rfl⟩, back, rfl, rfl⟩
  · rintro ⟨_, ⟨front, rfl, rfl⟩, back, rfl, rfl⟩
    exact ⟨front ++ back, by simp, by simp⟩

theorem takes_all : Takes ls [] tokens ↔ ls.map Lexeme.token = tokens := by
  simp [Takes]

/-! ## What is read is derived -/

mutual

theorem readExpr_derives {fuel : Nat} {ls rest : List Lexeme} {e : Expr}
    (h : readExpr fuel ls = .ok (e, rest)) :
    ∃ tokens, Takes ls rest tokens ∧ DerivesExpr tokens e := by
  match fuel, ls with
  | 0, _ => cases h
  | _ + 1, [] => cases h
  | fuel + 1, l :: ls =>
      rw [readExpr] at h
      split at h
      case h_1 content hToken =>
        cases h
        exact ⟨_, by simp [hToken], .string⟩
      case h_2 digits hToken =>
        split at h
        · rename_i value hValue
          cases h
          exact ⟨_, by simp [hToken], .number hValue⟩
        · cases h
      case h_3 function hToken =>
        split at h
        · rename_i hOpen
          split at h
          · rename_i hClose
            cases h
            exact ⟨_, by simpa [hToken] using ⟨hOpen, hClose⟩, .callEmpty⟩
          · obtain ⟨⟨es, rest⟩, hArguments, hPair⟩ := exists_of_map_ok h
            cases hPair
            obtain ⟨tokens, hTakes, hDerives⟩ := readArguments_derives hArguments
            refine ⟨_, ?_, .call hDerives⟩
            exact takes_cons.2 ⟨by simp [hToken], takes_cons.2 ⟨hOpen, hTakes⟩⟩
        · cases h
          exact ⟨_, by simp [hToken], .name⟩
      all_goals cases h

theorem readArguments_derives {fuel : Nat} {function : String} {ls rest : List Lexeme}
    {es : List Expr}
    (h : readArguments fuel function ls = .ok (es, rest)) :
    ∃ tokens, Takes ls rest (tokens ++ [.closeParen]) ∧ DerivesArguments tokens es := by
  match fuel with
  | 0 => cases h
  | fuel + 1 =>
      rw [readArguments] at h
      split at h
      · cases h
      · rename_i e between hExpr
        obtain ⟨tokens, hTakes, hDerives⟩ := readExpr_derives hExpr
        split at h
        · rename_i hComma
          obtain ⟨⟨es, rest⟩, hRest, hPair⟩ := exists_of_map_ok h
          cases hPair
          obtain ⟨others, hOthers, hDerivesRest⟩ := readArguments_derives hRest
          refine ⟨_, ?_, .cons hDerives hDerivesRest⟩
          rw [List.append_assoc, List.cons_append]
          exact takes_append.2 ⟨between, hTakes, takes_cons.2 ⟨hComma, hOthers⟩⟩
        · split at h
          · rename_i hClose
            cases h
            exact ⟨tokens, takes_append.2 ⟨between, hTakes, by simp [hClose]⟩, .last hDerives⟩
          · cases h

end

theorem readFilters_derives {fuel : Nat} (h : readFilters fuel ls = .ok (es, rest)) :
    ∃ tokens, Takes ls rest (tokens ++ [.closeBrace]) ∧ DerivesFilters tokens es := by
  induction fuel generalizing ls es with
  | zero => cases h
  | succ fuel ih =>
      rw [readFilters] at h
      split at h
      case h_1 => cases h
      case h_2 hClose =>
        cases h
        exact ⟨[], by simp [hClose], .nil⟩
      case h_3 hPipe =>
        extract_lets after at h
        split at h
        · cases h
        · split at h
          · cases h
          · rename_i e between hExpr
            obtain ⟨⟨es, rest⟩, hRest, hPair⟩ := exists_of_map_ok h
            cases hPair
            obtain ⟨tokens, hTakes, hDerives⟩ := readExpr_derives hExpr
            obtain ⟨others, hOthers, hFilters⟩ := ih hRest
            refine ⟨_, ?_, .cons hDerives hFilters⟩
            rw [List.append_assoc]
            exact takes_cons.2 ⟨hPipe, takes_append.2 ⟨between, hTakes, hOthers⟩⟩
      case h_4 => cases h

theorem readBlock_derives {l : Lexeme} {b : Block} (hOpen : l.token = .openBrace)
    (h : readBlock ls = .ok (b, rest)) :
    ∃ tokens, Takes (l :: ls) rest tokens ∧ DerivesBlock tokens b := by
  unfold readBlock at h
  extract_lets optional behind at h
  split at h
  · cases h
  · split at h
    · cases h
    · rename_i e between hExpr
      obtain ⟨⟨es, rest⟩, hFilters, hPair⟩ := exists_of_map_ok h
      cases hPair
      obtain ⟨tokens, hTakes, hDerives⟩ := readExpr_derives hExpr
      obtain ⟨others, hOthers, hDerivesRest⟩ := readFilters_derives hFilters
      have hBehind : Takes behind rest (tokens ++ (others ++ [.closeBrace])) :=
        takes_append.2 ⟨between, hTakes, hOthers⟩
      by_cases hQuestion : firstToken? ls = some .question
      · rw [show behind = ls.tail from if_pos hQuestion] at hBehind
        refine ⟨_, ?_, by simpa [optional, hQuestion] using .optional hDerives hDerivesRest⟩
        exact takes_cons.2 ⟨by simp [hOpen], by simpa [hQuestion] using hBehind⟩
      · rw [show behind = ls from if_neg hQuestion] at hBehind
        refine ⟨_, ?_, by simpa [optional, hQuestion] using .plain hDerives hDerivesRest⟩
        exact takes_cons.2 ⟨by simp [hOpen], by simpa using hBehind⟩

theorem readNodes_derives {fuel : Nat} {nodes : List Node} (h : readNodes fuel ls = .ok nodes) :
    DerivesTemplate (ls.map Lexeme.token) nodes := by
  induction fuel generalizing ls nodes with
  | zero =>
      cases ls with
      | nil =>
          cases h
          exact .nil
      | cons l ls => cases h
  | succ fuel ih =>
      cases ls with
      | nil =>
          cases h
          exact .nil
      | cons l ls =>
          rw [readNodes] at h
          split at h
          case h_1 text hToken =>
            obtain ⟨nodes, hRest, rfl⟩ := exists_of_map_ok h
            rw [List.map_cons, hToken]
            exact .raw (ih hRest)
          case h_2 hOpen =>
            split at h
            · cases h
            · rename_i b between hBlock
              obtain ⟨nodes, hRest, rfl⟩ := exists_of_map_ok h
              obtain ⟨tokens, ⟨taken, hTaken, rfl⟩, hDerives⟩ := readBlock_derives hOpen hBlock
              rw [hTaken, List.map_append]
              exact .block hDerives (ih hRest)
          all_goals cases h

/-! ## What is derived is read -/

/-- Whether an expression can start with the token. -/
def Token.startsExpr : Token → Bool
  | .string _ => true
  | .number _ => true
  | .identifier _ => true
  | _ => false

theorem DerivesExpr.starts (h : DerivesExpr tokens e) :
    ∃ t others, tokens = t :: others ∧ t.startsExpr = true := by
  cases h <;> exact ⟨_, _, rfl, rfl⟩

theorem DerivesArguments.starts (h : DerivesArguments tokens es) :
    ∃ t others, tokens = t :: others ∧ t.startsExpr = true := by
  cases h with
  | last hExpr => exact hExpr.starts
  | cons hExpr hRest =>
      obtain ⟨t, others, rfl, hStarts⟩ := hExpr.starts
      exact ⟨t, _, rfl, hStarts⟩

theorem exists_firstToken? (hTakes : Takes ls rest (tokens ++ others))
    (hStarts : ∃ t others, tokens = t :: others ∧ t.startsExpr = true) :
    ∃ t, firstToken? ls = some t ∧ t.startsExpr = true := by
  obtain ⟨t, _, rfl, hStart⟩ := hStarts
  exact ⟨t, (takes_cons.1 hTakes).1, hStart⟩

theorem firstToken?_ne (hTakes : Takes ls rest (tokens ++ others))
    (hStarts : ∃ t others, tokens = t :: others ∧ t.startsExpr = true)
    (hNot : t.startsExpr = false) : firstToken? ls ≠ some t := by
  obtain ⟨u, hFirst, hStart⟩ := exists_firstToken? hTakes hStarts
  intro hSame
  obtain rfl : u = t := Option.some.inj (hFirst.symm.trans hSame)
  rw [hNot] at hStart
  cases hStart

mutual

theorem readExpr_of_derives {tokens : List Token} {e : Expr} (h : DerivesExpr tokens e)
    {fuel : Nat} {ls rest : List Lexeme} (hTakes : Takes ls rest tokens)
    (hFuel : tokens.length ≤ fuel) (hEnd : firstToken? rest ≠ some .openParen) :
    readExpr fuel ls = .ok (e, rest) := by
  obtain ⟨t, others, hTokens, -⟩ := h.starts
  have hLength : tokens.length = others.length + 1 := by rw [hTokens, List.length_cons]
  obtain ⟨fuel, rfl⟩ : ∃ n, fuel = n + 1 := ⟨fuel - 1, by omega⟩
  obtain ⟨l, hl, hToken⟩ := firstToken?_eq_some (takes_cons.1 (hTokens ▸ hTakes)).1
  rw [hl, readExpr, hToken]
  match h with
  | .string =>
      cases hTokens
      obtain ⟨-, rfl⟩ := by simpa using hTakes
      rfl
  | .number hValue =>
      cases hTokens
      obtain ⟨-, rfl⟩ := by simpa using hTakes
      simp [hValue]
  | .name =>
      cases hTokens
      obtain ⟨-, rfl⟩ := by simpa using hTakes
      simp [hEnd]
  | .callEmpty =>
      cases hTokens
      obtain ⟨-, hOpen, hClose, rfl⟩ := by simpa using hTakes
      simp [hOpen, hClose]
  | @DerivesExpr.call function tokens es hArguments =>
      cases hTokens
      obtain ⟨-, hRest⟩ := takes_cons.1 hTakes
      obtain ⟨hOpen, hRest⟩ := takes_cons.1 hRest
      have hClose : firstToken? ls.tail.tail ≠ some .closeParen :=
        firstToken?_ne hRest hArguments.starts rfl
      have hFuel' : tokens.length < fuel := by
        simp at hFuel
        omega
      have hRead : readArguments fuel function ls.tail.tail = .ok (es, rest) :=
        readArguments_of_derives hArguments hRest hFuel'
      simp [hOpen, hClose, hRead, Except.map]

theorem readArguments_of_derives {tokens : List Token} {es : List Expr}
    (h : DerivesArguments tokens es) {fuel : Nat} {function : String} {ls rest : List Lexeme}
    (hTakes : Takes ls rest (tokens ++ [.closeParen])) (hFuel : tokens.length < fuel) :
    readArguments fuel function ls = .ok (es, rest) := by
  obtain ⟨fuel, rfl⟩ : ∃ n, fuel = n + 1 := ⟨fuel - 1, by omega⟩
  match h with
  | .last hExpr =>
      obtain ⟨between, hFirst, hClose, rfl⟩ := by simpa using hTakes
      rw [readArguments, readExpr_of_derives hExpr hFirst (by omega) (by simp [hClose])]
      simp [hClose]
  | @DerivesArguments.cons tokens others e es hExpr hOthers =>
      rw [List.append_assoc, List.cons_append] at hTakes
      obtain ⟨between, hFirst, hRest⟩ := takes_append.1 hTakes
      obtain ⟨hComma, hRest⟩ := takes_cons.1 hRest
      rw [List.length_append, List.length_cons] at hFuel
      have hRead : readArguments fuel function between.tail = .ok (es, rest) :=
        readArguments_of_derives hOthers hRest (by omega)
      rw [readArguments, readExpr_of_derives hExpr hFirst (by omega) (by simp [hComma])]
      simp [hComma, hRead, Except.map]

end

theorem readExpression_of_derives (h : DerivesExpr tokens e) (hTakes : Takes ls rest tokens)
    (hEnd : firstToken? rest ≠ some .openParen) : readExpression ls = .ok (e, rest) := by
  obtain ⟨taken, rfl, rfl⟩ := hTakes
  exact readExpr_of_derives h ⟨taken, rfl, rfl⟩ (by simp; omega) hEnd

/-- Filters start with a bar, or end the block. -/
theorem DerivesFilters.starts (h : DerivesFilters tokens es)
    (hTakes : Takes ls rest (tokens ++ [.closeBrace])) : firstToken? ls ≠ some .openParen := by
  cases h with
  | nil =>
      obtain ⟨hClose, -⟩ := takes_cons.1 hTakes
      simp [hClose]
  | cons hExpr hRest =>
      obtain ⟨hPipe, -⟩ := takes_cons.1 hTakes
      simp [hPipe]

theorem readFilters_of_derives (h : DerivesFilters tokens es) {fuel : Nat}
    (hTakes : Takes ls rest (tokens ++ [.closeBrace])) (hFuel : tokens.length < fuel) :
    readFilters fuel ls = .ok (es, rest) := by
  induction h generalizing fuel ls with
  | nil =>
      obtain ⟨fuel, rfl⟩ : ∃ n, fuel = n + 1 := ⟨fuel - 1, by omega⟩
      obtain ⟨hClose, rfl⟩ := by simpa using hTakes
      rw [readFilters, hClose]
  | @cons tokens others e es hExpr hOthers ih =>
      obtain ⟨fuel, rfl⟩ : ∃ n, fuel = n + 1 := ⟨fuel - 1, by omega⟩
      rw [List.append_assoc] at hTakes
      obtain ⟨hPipe, hTakes⟩ := takes_cons.1 hTakes
      obtain ⟨between, hFirst, hRest⟩ := takes_append.1 hTakes
      have hExpression := readExpression_of_derives hExpr hFirst (hOthers.starts hRest)
      have hFilters : readFilters fuel between = .ok (es, rest) := by
        refine ih hRest ?_
        simp at hFuel
        omega
      have hNotEmpty : ls.tail.isEmpty = false := by
        obtain ⟨t, hStart, -⟩ := exists_firstToken? hTakes hExpr.starts
        obtain ⟨l, hTail, -⟩ := firstToken?_eq_some hStart
        rw [hTail]
        rfl
      have hNotClose : firstToken? ls.tail ≠ some .closeBrace :=
        firstToken?_ne hTakes hExpr.starts rfl
      have hNotPipe : firstToken? ls.tail ≠ some .pipe := firstToken?_ne hTakes hExpr.starts rfl
      rw [readFilters, hPipe]
      simp [hNotEmpty, hNotClose, hNotPipe, hExpression, hFilters, Except.map]

private theorem readChain_of_derives (hExpr : DerivesExpr tokens e)
    (hFilters : DerivesFilters others es)
    (hTakes : Takes ls rest (tokens ++ (others ++ [.closeBrace]))) :
    ∃ between, readExpression ls = .ok (e, between) ∧
      readFilters (between.length + 1) between = .ok (es, rest) := by
  obtain ⟨between, hFirst, hRest⟩ := takes_append.1 hTakes
  refine ⟨between, readExpression_of_derives hExpr hFirst (hFilters.starts hRest), ?_⟩
  obtain ⟨taken, rfl, hTaken⟩ := hRest
  have hLength := congrArg List.length hTaken
  refine readFilters_of_derives hFilters ⟨taken, rfl, hTaken⟩ ?_
  simp only [List.length_map, List.length_append, List.length_singleton] at hLength ⊢
  omega

theorem readBlock_of_derives {b : Block} (h : DerivesBlock tokens b)
    (hTakes : Takes ls rest tokens) :
    firstToken? ls = some .openBrace ∧ readBlock ls.tail = .ok (b, rest) := by
  cases h with
  | plain hExpr hFilters =>
      rw [List.append_assoc] at hTakes
      obtain ⟨hOpen, hTakes⟩ := takes_cons.1 hTakes
      have hNotClose : firstToken? ls.tail ≠ some .closeBrace :=
        firstToken?_ne hTakes hExpr.starts rfl
      have hNotQuestion : firstToken? ls.tail ≠ some .question :=
        firstToken?_ne hTakes hExpr.starts rfl
      obtain ⟨between, hFirst, hRest⟩ := readChain_of_derives hExpr hFilters hTakes
      refine ⟨hOpen, ?_⟩
      simp [readBlock, hNotClose, hNotQuestion, hFirst, hRest, Except.map]
  | optional hExpr hFilters =>
      rw [List.append_assoc] at hTakes
      obtain ⟨hOpen, hTakes⟩ := takes_cons.1 hTakes
      obtain ⟨hQuestion, hTakes⟩ := takes_cons.1 hTakes
      have hNotClose : firstToken? ls.tail.tail ≠ some .closeBrace :=
        firstToken?_ne hTakes hExpr.starts rfl
      obtain ⟨between, hFirst, hRest⟩ := readChain_of_derives hExpr hFilters hTakes
      refine ⟨hOpen, ?_⟩
      simp [readBlock, hQuestion, hNotClose, hFirst, hRest, Except.map]

theorem readNodes_of_derives {nodes : List Node} (h : DerivesTemplate tokens nodes) {fuel : Nat}
    (hTokens : ls.map Lexeme.token = tokens) (hFuel : tokens.length ≤ fuel) :
    readNodes fuel ls = .ok nodes := by
  induction h generalizing fuel ls with
  | nil =>
      rw [List.map_eq_nil_iff.1 hTokens]
      cases fuel <;> rfl
  | raw _ ih =>
      obtain ⟨l, ls, rfl, hToken, hRest⟩ := List.map_eq_cons_iff.1 hTokens
      rw [List.length_cons] at hFuel
      obtain ⟨fuel, rfl⟩ : ∃ n, fuel = n + 1 := ⟨fuel - 1, by omega⟩
      have hNodes := ih hRest (Nat.le_of_succ_le_succ hFuel)
      rw [readNodes, hToken]
      simp [hNodes, Except.map]
  | @block tokens others b nodes hBlock _ ih =>
      obtain ⟨between, hFirst, hRest⟩ := takes_append.1 (takes_all.2 hTokens)
      obtain ⟨hOpen, hRead⟩ := readBlock_of_derives hBlock hFirst
      obtain ⟨l, hl, hToken⟩ := firstToken?_eq_some hOpen
      have hPositive : 0 < tokens.length := by cases hBlock <;> simp
      rw [List.length_append] at hFuel
      obtain ⟨fuel, rfl⟩ : ∃ n, fuel = n + 1 := ⟨fuel - 1, by omega⟩
      have hNodes : readNodes fuel between = .ok nodes := ih (takes_all.1 hRest) (by omega)
      rw [hl, readNodes, hToken]
      simp [hRead, hNodes, Except.map]

/-- **A tree is read off a token sequence just when the sequence derives it.** -/
theorem nodesOf_eq_ok_iff {nodes : List Node} :
    nodesOf ls = .ok nodes ↔ DerivesTemplate (ls.map Lexeme.token) nodes :=
  ⟨readNodes_derives, fun h => readNodes_of_derives h rfl (by simp)⟩

end Shelfmark.Template
