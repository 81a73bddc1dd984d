import Shelfmark.Proofs.Template.Derivation
import Shelfmark.Template.Fault

/-!
# Derivations as data

`DerivesTemplate` says that tokens derive a tree, but not in which way. Here a derivation
is data: which alternative each phrase takes, with the contents of the tokens that stand
for themselves. It has a yield, the tokens that it derives, and a tree, in which a run of
digits has become a number:

    template  := (raw text | block)*
    block     := '{' '?'? expr ('|' expr)* '}'
    expr      := string | number | name ('(' arguments? ')')?
    arguments := expr (',' expr)*

The grammar does not care how large a number is. So the reader accepts just the sequences
that are the yield of a derivation and in which every number fits a signed word. That it
returns the tree of *the* derivation is a fact about the grammar alone: the yield is
injective. Two yields are compared from the left, and a phrase is only known to end where
the next token cannot go on with it, which is why every comparison carries what follows.

## Main results

* `derivesTemplate_iff` — what the grammar relation says, in terms of derivations.
* `Derivation.tokens_injective` — the grammar is unambiguous.
* `nodesOf_reads_derivation` — the reader accepts the grammar and returns the tree of the
  derivation.
-/

namespace Shelfmark.Template

open Shelfmark.Text

/-! ## Numbers that fit -/

/-- Whether the number that a text spells fits a signed word. -/
def InRange (digits : String) : Prop :=
  ∃ i, readInt? digits.toList = some i ∧ Int64.minValue.toInt ≤ i ∧ i ≤ Int64.maxValue.toInt

/-- The number that a text spells, as a signed word. -/
def numberValue (digits : String) : Int64 := Int64.ofInt ((readInt? digits.toList).getD 0)

/-- Whether all numbers among the tokens fit a signed word. -/
def NumbersFit (tokens : List Token) : Prop := ∀ digits, .number digits ∈ tokens → InRange digits

theorem readInt64?_eq_some_iff {digits : String} {value : Int64} :
    readInt64? digits.toList = some value ↔ InRange digits ∧ numberValue digits = value := by
  unfold readInt64? InRange numberValue
  cases readInt? digits.toList with
  | none => simp
  | some i => simp [fitsInt64]

@[simp] theorem numbersFit_nil : NumbersFit [] := nofun

@[simp] theorem numbersFit_cons {t : Token} {ts : List Token} :
    NumbersFit (t :: ts) ↔ (∀ digits, t = .number digits → InRange digits) ∧ NumbersFit ts := by
  simp [NumbersFit, or_imp, forall_and, eq_comm]

@[simp] theorem numbersFit_append {ts us : List Token} :
    NumbersFit (ts ++ us) ↔ NumbersFit ts ∧ NumbersFit us := by
  simp [NumbersFit, or_imp, forall_and]

/-! ## Derivations -/

mutual

/-- A derivation of an expression. -/
inductive ExprDerivation where
  | string (content : String)
  | number (digits : String)
  | name (identifier : String)
  | callEmpty (function : String)
  | call (function : String) (arguments : ArgumentsDerivation)

/-- A derivation of the arguments of a call. -/
inductive ArgumentsDerivation where
  | last (e : ExprDerivation)
  | cons (e : ExprDerivation) (rest : ArgumentsDerivation)

end

/-- A derivation of a block. -/
structure BlockDerivation where
  optional : Bool
  first : ExprDerivation
  filters : List ExprDerivation

/-- A derivation of a piece of a template. -/
inductive PieceDerivation where
  | raw (text : String)
  | block (b : BlockDerivation)

/-- A derivation of a template. -/
structure Derivation where
  pieces : List PieceDerivation

/-! ### The tokens of a derivation -/

mutual

/-- The tokens of an expression. -/
def ExprDerivation.tokens : ExprDerivation → List Token
  | .string content => [.string content]
  | .number digits => [.number digits]
  | .name identifier => [.identifier identifier]
  | .callEmpty function => [.identifier function, .openParen, .closeParen]
  | .call function arguments =>
      .identifier function :: .openParen :: arguments.tokens ++ [.closeParen]

/-- The tokens of arguments, with commas between them. -/
def ArgumentsDerivation.tokens : ArgumentsDerivation → List Token
  | .last e => e.tokens
  | .cons e rest => e.tokens ++ .comma :: rest.tokens

end

/-- The tokens of filters, each behind a bar. -/
def filterTokens : List ExprDerivation → List Token
  | [] => []
  | e :: es => .pipe :: e.tokens ++ filterTokens es

/-- The tokens of a block, with its braces. -/
def BlockDerivation.tokens (b : BlockDerivation) : List Token :=
  .openBrace :: (if b.optional then [.question] else []) ++
    (b.first.tokens ++ filterTokens b.filters ++ [.closeBrace])

/-- The tokens of a piece. -/
def PieceDerivation.tokens : PieceDerivation → List Token
  | .raw text => [.rawText text]
  | .block b => b.tokens

/-- The tokens of a template. -/
def Derivation.tokens (d : Derivation) : List Token := d.pieces.flatMap PieceDerivation.tokens

/-! ### The tree of a derivation -/

mutual

/-- The tree of an expression. -/
def ExprDerivation.expr : ExprDerivation → Expr
  | .string content => .string content
  | .number digits => .number (numberValue digits)
  | .name identifier => .name identifier
  | .callEmpty function => .call function []
  | .call function arguments => .call function arguments.exprs

/-- The trees of arguments. -/
def ArgumentsDerivation.exprs : ArgumentsDerivation → List Expr
  | .last e => [e.expr]
  | .cons e rest => e.expr :: rest.exprs

end

/-- The tree of a block. -/
def BlockDerivation.block (b : BlockDerivation) : Block :=
  ⟨b.optional, b.first.expr :: b.filters.map ExprDerivation.expr⟩

/-- The tree of a piece. -/
def PieceDerivation.node : PieceDerivation → Node
  | .raw text => .raw text
  | .block b => .block b.block

/-- The trees of the pieces of a template. -/
def Derivation.nodes (d : Derivation) : List Node := d.pieces.map PieceDerivation.node

/-! ## The grammar relation in terms of derivations -/

mutual

theorem DerivesExpr.exists_derivation {tokens : List Token} {e : Expr} (h : DerivesExpr tokens e) :
    ∃ d : ExprDerivation, d.tokens = tokens ∧ NumbersFit tokens ∧ d.expr = e := by
  match h with
  | .string => exact ⟨.string _, rfl, by simp, rfl⟩
  | .name => exact ⟨.name _, rfl, by simp, rfl⟩
  | .callEmpty => exact ⟨.callEmpty _, rfl, by simp, rfl⟩
  | .number hValue =>
      obtain ⟨hRange, hValue⟩ := readInt64?_eq_some_iff.1 hValue
      exact ⟨.number _, rfl, by simpa using hRange, by rw [ExprDerivation.expr, hValue]⟩
  | .call hArguments =>
      obtain ⟨d, rfl, hFit, rfl⟩ := hArguments.exists_derivation
      exact ⟨.call _ d, rfl, by simpa using hFit, rfl⟩

theorem DerivesArguments.exists_derivation {tokens : List Token} {es : List Expr}
    (h : DerivesArguments tokens es) :
    ∃ d : ArgumentsDerivation, d.tokens = tokens ∧ NumbersFit tokens ∧ d.exprs = es := by
  match h with
  | .last hExpr =>
      obtain ⟨d, rfl, hFit, rfl⟩ := hExpr.exists_derivation
      exact ⟨.last d, rfl, hFit, rfl⟩
  | .cons hExpr hRest =>
      obtain ⟨d, rfl, hFit, rfl⟩ := hExpr.exists_derivation
      obtain ⟨rest, rfl, hFitRest, rfl⟩ := hRest.exists_derivation
      exact ⟨.cons d rest, rfl, by simpa using ⟨hFit, hFitRest⟩, rfl⟩

end

mutual

theorem ExprDerivation.derives (d : ExprDerivation) (h : NumbersFit d.tokens) :
    DerivesExpr d.tokens d.expr := by
  match d with
  | .string _ => exact .string
  | .name _ => exact .name
  | .callEmpty _ => exact .callEmpty
  | .number digits =>
      have hRange : InRange digits := h digits (by simp [ExprDerivation.tokens])
      exact .number (readInt64?_eq_some_iff.2 ⟨hRange, rfl⟩)
  | .call function arguments =>
      have hFit : NumbersFit arguments.tokens := by simpa [ExprDerivation.tokens] using h
      exact .call (arguments.derives hFit)

theorem ArgumentsDerivation.derives (d : ArgumentsDerivation) (h : NumbersFit d.tokens) :
    DerivesArguments d.tokens d.exprs := by
  match d with
  | .last e => exact .last (e.derives h)
  | .cons e rest =>
      have hFit : NumbersFit e.tokens ∧ NumbersFit rest.tokens := by
        simpa [ArgumentsDerivation.tokens] using h
      exact .cons (e.derives hFit.1) (rest.derives hFit.2)

end

variable {tokens : List Token}

theorem DerivesFilters.exists_derivation {es : List Expr} (h : DerivesFilters tokens es) :
    ∃ ds, filterTokens ds = tokens ∧ NumbersFit tokens ∧ ds.map ExprDerivation.expr = es := by
  induction h with
  | nil => exact ⟨[], rfl, numbersFit_nil, rfl⟩
  | cons hExpr _ ih =>
      obtain ⟨d, rfl, hFit, rfl⟩ := hExpr.exists_derivation
      obtain ⟨ds, rfl, hFitRest, rfl⟩ := ih
      exact ⟨d :: ds, rfl, by simpa using ⟨hFit, hFitRest⟩, rfl⟩

theorem derives_filterTokens (ds : List ExprDerivation) (h : NumbersFit (filterTokens ds)) :
    DerivesFilters (filterTokens ds) (ds.map ExprDerivation.expr) := by
  induction ds with
  | nil => exact .nil
  | cons d ds ih =>
      have hFit : NumbersFit d.tokens ∧ NumbersFit (filterTokens ds) := by
        simpa [filterTokens] using h
      exact .cons (d.derives hFit.1) (ih hFit.2)

theorem DerivesBlock.exists_derivation {b : Block} (h : DerivesBlock tokens b) :
    ∃ d : BlockDerivation, d.tokens = tokens ∧ NumbersFit tokens ∧ d.block = b := by
  cases h with
  | plain hExpr hFilters =>
      obtain ⟨d, rfl, hFit, rfl⟩ := hExpr.exists_derivation
      obtain ⟨ds, rfl, hFitRest, rfl⟩ := hFilters.exists_derivation
      exact ⟨⟨false, d, ds⟩, by simp [BlockDerivation.tokens], by simpa using ⟨hFit, hFitRest⟩,
        rfl⟩
  | optional hExpr hFilters =>
      obtain ⟨d, rfl, hFit, rfl⟩ := hExpr.exists_derivation
      obtain ⟨ds, rfl, hFitRest, rfl⟩ := hFilters.exists_derivation
      exact ⟨⟨true, d, ds⟩, by simp [BlockDerivation.tokens], by simpa using ⟨hFit, hFitRest⟩,
        rfl⟩

theorem BlockDerivation.derives (d : BlockDerivation) (h : NumbersFit d.tokens) :
    DerivesBlock d.tokens d.block := by
  obtain ⟨optional, first, filters⟩ := d
  cases optional with
  | false =>
      have hFit : NumbersFit first.tokens ∧ NumbersFit (filterTokens filters) := by
        simpa [BlockDerivation.tokens] using h
      exact .plain (first.derives hFit.1) (derives_filterTokens filters hFit.2)
  | true =>
      have hFit : NumbersFit first.tokens ∧ NumbersFit (filterTokens filters) := by
        simpa [BlockDerivation.tokens] using h
      exact .optional (first.derives hFit.1) (derives_filterTokens filters hFit.2)

theorem DerivesTemplate.exists_derivation {nodes : List Node} (h : DerivesTemplate tokens nodes) :
    ∃ d : Derivation, d.tokens = tokens ∧ NumbersFit tokens ∧ d.nodes = nodes := by
  induction h with
  | nil => exact ⟨⟨[]⟩, rfl, numbersFit_nil, rfl⟩
  | @raw text _ _ _ ih =>
      obtain ⟨⟨ds⟩, rfl, hFit, rfl⟩ := ih
      exact ⟨⟨.raw text :: ds⟩, rfl, by simpa using hFit, rfl⟩
  | block hBlock _ ih =>
      obtain ⟨b, rfl, hFit, rfl⟩ := hBlock.exists_derivation
      obtain ⟨⟨ds⟩, rfl, hFitRest, rfl⟩ := ih
      exact ⟨⟨.block b :: ds⟩, rfl, by simpa using ⟨hFit, hFitRest⟩, rfl⟩

theorem Derivation.derives (d : Derivation) (h : NumbersFit d.tokens) :
    DerivesTemplate d.tokens d.nodes := by
  obtain ⟨ds⟩ := d
  induction ds with
  | nil => exact .nil
  | cons p ds ih =>
      have hFit : NumbersFit p.tokens ∧ NumbersFit (Derivation.tokens ⟨ds⟩) := by
        simpa [Derivation.tokens] using h
      cases p with
      | raw text => exact .raw (ih hFit.2)
      | block b => exact .block (b.derives hFit.1) (ih hFit.2)

/-- Tokens derive a tree just when it is that of a derivation of these tokens and no number
is too large. -/
theorem derivesTemplate_iff {nodes : List Node} :
    DerivesTemplate tokens nodes ↔
      NumbersFit tokens ∧ ∃ d : Derivation, d.tokens = tokens ∧ d.nodes = nodes := by
  constructor
  · intro h
    obtain ⟨d, hTokens, hFit, hNodes⟩ := h.exists_derivation
    exact ⟨hFit, d, hTokens, hNodes⟩
  · rintro ⟨hFit, d, rfl, rfl⟩
    exact d.derives hFit

/-! ## One derivation for each yield -/

theorem ExprDerivation.starts (d : ExprDerivation) :
    ∃ t others, d.tokens = t :: others ∧ t.startsExpr = true := by
  cases d <;> exact ⟨_, _, rfl, rfl⟩

/-- No expression starts with a punctuation mark. -/
theorem ExprDerivation.tokens_append_ne (d : ExprDerivation) {t : Token}
    (h : t.startsExpr = false) (rest others : List Token) : d.tokens ++ rest ≠ t :: others := by
  obtain ⟨u, more, hTokens, hStarts⟩ := d.starts
  rw [hTokens]
  rintro ⟨⟩
  rw [h] at hStarts
  cases hStarts

/-- Nor do arguments, so a call without arguments is not taken for one with some. -/
theorem ArgumentsDerivation.tokens_append_ne (d : ArgumentsDerivation) {t : Token}
    (h : t.startsExpr = false) (rest others : List Token) : d.tokens ++ rest ≠ t :: others := by
  cases d with
  | last e => exact e.tokens_append_ne h rest others
  | cons e es =>
      have hSplit : (ArgumentsDerivation.cons e es).tokens ++ rest =
          e.tokens ++ (.comma :: es.tokens ++ rest) := by
        simp [ArgumentsDerivation.tokens]
      rw [hSplit]
      exact e.tokens_append_ne h _ others

mutual

/-- Where two sequences of tokens are the same, so are the expressions in front, provided
that an opening parenthesis follows neither: behind a name it would go on with a call. -/
theorem ExprDerivation.eq_of_append {a b : ExprDerivation} {r s : List Token}
    (h : a.tokens ++ r = b.tokens ++ s) (hr : r.head? ≠ some .openParen)
    (hs : s.head? ≠ some .openParen) : a = b ∧ r = s := by
  match a with
  | .string _ => cases b <;> simp_all [ExprDerivation.tokens]
  | .number _ => cases b <;> simp_all [ExprDerivation.tokens]
  | .name _ =>
      cases b with
      | name _ => simpa [ExprDerivation.tokens] using h
      | string _ | number _ => simp [ExprDerivation.tokens] at h
      | callEmpty _ | call _ _ =>
          obtain ⟨-, rfl⟩ := by simpa [ExprDerivation.tokens] using h
          simp at hr
  | .callEmpty f =>
      cases b with
      | callEmpty _ => simpa [ExprDerivation.tokens] using h
      | string _ | number _ => simp [ExprDerivation.tokens] at h
      | name _ =>
          obtain ⟨-, rfl⟩ := by simpa [ExprDerivation.tokens] using h
          simp at hs
      | call g bs =>
          have hSame : f = g ∧ .closeParen :: r = bs.tokens ++ .closeParen :: s := by
            simpa [ExprDerivation.tokens] using h
          exact absurd hSame.2.symm (bs.tokens_append_ne rfl _ _)
  | .call f as =>
      cases b with
      | string _ | number _ => simp [ExprDerivation.tokens] at h
      | name _ =>
          obtain ⟨-, rfl⟩ := by simpa [ExprDerivation.tokens] using h
          simp at hs
      | callEmpty g =>
          have hSame : f = g ∧ as.tokens ++ .closeParen :: r = .closeParen :: s := by
            simpa [ExprDerivation.tokens] using h
          exact absurd hSame.2 (as.tokens_append_ne rfl _ _)
      | call g bs =>
          have hSame : f = g ∧ as.tokens ++ .closeParen :: r = bs.tokens ++ .closeParen :: s := by
            simpa [ExprDerivation.tokens] using h
          obtain ⟨rfl, rfl⟩ := ArgumentsDerivation.eq_of_append hSame.2
          exact ⟨by rw [hSame.1], rfl⟩

/-- Arguments end where their closing parenthesis stands. -/
theorem ArgumentsDerivation.eq_of_append {as bs : ArgumentsDerivation} {r s : List Token}
    (h : as.tokens ++ .closeParen :: r = bs.tokens ++ .closeParen :: s) : as = bs ∧ r = s := by
  match as with
  | .last a =>
      cases bs with
      | last b =>
          obtain ⟨rfl, hRest⟩ := ExprDerivation.eq_of_append h (by simp) (by simp)
          exact ⟨rfl, by simpa using hRest⟩
      | cons b bs =>
          have hSame : a.tokens ++ .closeParen :: r =
              b.tokens ++ .comma :: (bs.tokens ++ .closeParen :: s) := by
            simpa [ArgumentsDerivation.tokens] using h
          have hRest := (ExprDerivation.eq_of_append hSame (by simp) (by simp)).2
          simp at hRest
  | .cons a as =>
      cases bs with
      | last b =>
          have hSame : a.tokens ++ .comma :: (as.tokens ++ .closeParen :: r) =
              b.tokens ++ .closeParen :: s := by
            simpa [ArgumentsDerivation.tokens] using h
          have hRest := (ExprDerivation.eq_of_append hSame (by simp) (by simp)).2
          simp at hRest
      | cons b bs =>
          have hSame : a.tokens ++ .comma :: (as.tokens ++ .closeParen :: r) =
              b.tokens ++ .comma :: (bs.tokens ++ .closeParen :: s) := by
            simpa [ArgumentsDerivation.tokens] using h
          obtain ⟨rfl, hRest⟩ := ExprDerivation.eq_of_append hSame (by simp) (by simp)
          obtain ⟨rfl, rfl⟩ := ArgumentsDerivation.eq_of_append (List.cons.inj hRest).2
          exact ⟨rfl, rfl⟩

end

theorem head?_filterTokens_ne (ds : List ExprDerivation) (rest : List Token) :
    (filterTokens ds ++ .closeBrace :: rest).head? ≠ some .openParen := by
  cases ds <;> simp [filterTokens]

/-- Filters end where the closing brace of their block stands. -/
theorem filters_eq_of_append {as bs : List ExprDerivation} {r s : List Token}
    (h : filterTokens as ++ .closeBrace :: r = filterTokens bs ++ .closeBrace :: s) :
    as = bs ∧ r = s := by
  induction as generalizing bs with
  | nil => cases bs <;> simp_all [filterTokens]
  | cons a as ih =>
      cases bs with
      | nil => simp [filterTokens] at h
      | cons b bs =>
          have hSame : a.tokens ++ (filterTokens as ++ .closeBrace :: r) =
              b.tokens ++ (filterTokens bs ++ .closeBrace :: s) := by
            simpa [filterTokens] using h
          obtain ⟨rfl, hRest⟩ := ExprDerivation.eq_of_append hSame (head?_filterTokens_ne _ _)
            (head?_filterTokens_ne _ _)
          obtain ⟨rfl, rfl⟩ := ih hRest
          exact ⟨rfl, rfl⟩

/-- What stands between the braces of a block, without its question mark. -/
private theorem chain_eq_of_append {e f : ExprDerivation} {es fs : List ExprDerivation}
    {r s : List Token}
    (h : e.tokens ++ (filterTokens es ++ .closeBrace :: r) =
      f.tokens ++ (filterTokens fs ++ .closeBrace :: s)) : e = f ∧ es = fs ∧ r = s := by
  obtain ⟨rfl, hRest⟩ := ExprDerivation.eq_of_append h (head?_filterTokens_ne _ _)
    (head?_filterTokens_ne _ _)
  exact ⟨rfl, filters_eq_of_append hRest⟩

/-- A block ends with its closing brace. -/
theorem BlockDerivation.eq_of_append {a b : BlockDerivation} {r s : List Token}
    (h : a.tokens ++ r = b.tokens ++ s) : a = b ∧ r = s := by
  obtain ⟨p, e, es⟩ := a
  obtain ⟨q, f, fs⟩ := b
  -- where only one of the blocks is optional, the other starts with a question mark
  cases p with
  | false =>
      cases q with
      | false =>
          obtain ⟨rfl, rfl, rfl⟩ := chain_eq_of_append (by simpa [BlockDerivation.tokens] using h)
          exact ⟨rfl, rfl⟩
      | true =>
          have hSame : e.tokens ++ (filterTokens es ++ .closeBrace :: r) =
              .question :: (f.tokens ++ (filterTokens fs ++ .closeBrace :: s)) := by
            simpa [BlockDerivation.tokens] using h
          exact absurd hSame (e.tokens_append_ne rfl _ _)
  | true =>
      cases q with
      | false =>
          have hSame : .question :: (e.tokens ++ (filterTokens es ++ .closeBrace :: r)) =
              f.tokens ++ (filterTokens fs ++ .closeBrace :: s) := by
            simpa [BlockDerivation.tokens] using h
          exact absurd hSame.symm (f.tokens_append_ne rfl _ _)
      | true =>
          obtain ⟨rfl, rfl, rfl⟩ := chain_eq_of_append (by simpa [BlockDerivation.tokens] using h)
          exact ⟨rfl, rfl⟩

theorem PieceDerivation.eq_of_append {a b : PieceDerivation} {r s : List Token}
    (h : a.tokens ++ r = b.tokens ++ s) : a = b ∧ r = s := by
  cases a with
  | raw text =>
      cases b with
      | raw other => simpa [PieceDerivation.tokens] using h
      | block b => simp [PieceDerivation.tokens, BlockDerivation.tokens] at h
  | block a =>
      cases b with
      | raw text => simp [PieceDerivation.tokens, BlockDerivation.tokens] at h
      | block b =>
          obtain ⟨rfl, hRest⟩ := BlockDerivation.eq_of_append h
          exact ⟨rfl, hRest⟩

theorem PieceDerivation.tokens_ne_nil (p : PieceDerivation) : p.tokens ≠ [] := by
  cases p <;> simp [PieceDerivation.tokens, BlockDerivation.tokens]

/-- The grammar is unambiguous. -/
theorem Derivation.tokens_injective : Function.Injective Derivation.tokens := by
  rintro ⟨as⟩ ⟨bs⟩ h
  congr 1
  induction as generalizing bs with
  | nil =>
      cases bs with
      | nil => rfl
      | cons b bs => simp [Derivation.tokens, b.tokens_ne_nil] at h
  | cons a as ih =>
      cases bs with
      | nil => simp [Derivation.tokens, a.tokens_ne_nil] at h
      | cons b bs =>
          obtain ⟨rfl, hRest⟩ := PieceDerivation.eq_of_append h
          rw [ih bs hRest]

/-- **The reader accepts just the grammar.** A token sequence is read just when the whole of
it is the yield of a derivation and every number in it fits a signed word. What is read is
the tree of that derivation, and there is no other derivation with this yield. -/
theorem nodesOf_reads_derivation (ls : List Lexeme) :
    ((∃ nodes, nodesOf ls = .ok nodes) ↔
        NumbersFit (ls.map Lexeme.token) ∧ ∃ d : Derivation, d.tokens = ls.map Lexeme.token) ∧
      ∀ nodes, nodesOf ls = .ok nodes →
        ∃ d : Derivation, d.tokens = ls.map Lexeme.token ∧ d.nodes = nodes ∧
          ∀ other : Derivation, other.tokens = ls.map Lexeme.token → other = d := by
  have hReads : ∀ nodes, nodesOf ls = .ok nodes ↔ NumbersFit (ls.map Lexeme.token) ∧
      ∃ d : Derivation, d.tokens = ls.map Lexeme.token ∧ d.nodes = nodes := by
    intro nodes
    rw [nodesOf_eq_ok_iff, derivesTemplate_iff]
  constructor
  · constructor
    · rintro ⟨nodes, hNodes⟩
      obtain ⟨hFit, d, hTokens, -⟩ := (hReads nodes).1 hNodes
      exact ⟨hFit, d, hTokens⟩
    · rintro ⟨hFit, d, hTokens⟩
      exact ⟨d.nodes, (hReads d.nodes).2 ⟨hFit, d, hTokens, rfl⟩⟩
  · intro nodes hNodes
    obtain ⟨-, d, hTokens, hTree⟩ := (hReads nodes).1 hNodes
    refine ⟨d, hTokens, hTree, fun other hOther => ?_⟩
    exact Derivation.tokens_injective (hOther.trans hTokens.symm)

/-- The lexemes of a template with an optional block. -/
def sampleLexemes : List Lexeme :=
  [⟨.openBrace, ['\x7b'], 0⟩, ⟨.question, ['?'], 1⟩, ⟨.identifier "a", ['a'], 2⟩,
    ⟨.pipe, ['|'], 4⟩, ⟨.identifier "f", ['f'], 6⟩, ⟨.openParen, ['('], 7⟩,
    ⟨.number "-1", ['-', '1'], 8⟩, ⟨.comma, [','], 10⟩, ⟨.string "", ['\'', '\''], 12⟩,
    ⟨.closeParen, [')'], 14⟩, ⟨.closeBrace, ['\x7d'], 15⟩]

/-- The sample is read as a variable that runs through a call with two arguments. -/
theorem nodesOf_reads_derivation_sample :
    tokenize "\x7b?a | f(-1, '')\x7d" = .ok sampleLexemes ∧
      nodesOf sampleLexemes =
        .ok [.block ⟨true, [.name "a", .call "f" [.number (-1), .string ""]]⟩] ∧
      ∃ d : Derivation, d.tokens = sampleLexemes.map Lexeme.token ∧
        d.nodes = [.block ⟨true, [.name "a", .call "f" [.number (-1), .string ""]]⟩] ∧
        ∀ other : Derivation, other.tokens = sampleLexemes.map Lexeme.token → other = d := by
  have hNodes : nodesOf sampleLexemes =
      .ok [.block ⟨true, [.name "a", .call "f" [.number (-1), .string ""]]⟩] := by
    decide +kernel
  exact ⟨by decide +kernel, hNodes, (nodesOf_reads_derivation sampleLexemes).2 _ hNodes⟩

end Shelfmark.Template
