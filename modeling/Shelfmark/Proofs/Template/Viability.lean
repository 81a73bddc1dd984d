import Shelfmark.Proofs.Template.Derivation
import Shelfmark.Template.Fault

/-!
# The first token that cannot go on

A sequence of tokens is viable when more tokens can make a template of it. That is a
statement about all ways to go on, and no reader tries them. `Stage` is what has to be
remembered of the tokens so far: whether they end outside of the blocks or where in a
block, and how many calls are open. `Stage.next` takes one token, or refuses it.

The stages stand between the grammar and its reader. Derived tokens lead from stage to
stage, and from every stage some tokens lead out of the block, so what the stages take is
what is viable. The reader fails where a stage refuses a token, or where the tokens end in
a block: that is what `Stage.Stuck` says of the tokens left over, and each reader of a
phrase is shown to keep to it.

A name may turn out to be a call, and an argument list may be empty. So a phrase can start
and end in more than one stage, and `Stage.Awaits` and `Stage.Ends` only ask how the stage
takes the token that comes.

## Main results

* `viable_iff` — tokens are viable just when the stages take them.
* `nodesOf_stuck` — the reader fails where the stages do.
* `syntax_fault_place` — so its fault has the place of the first token that cannot go on.
-/

namespace Shelfmark.Template

open Shelfmark.Text

/-! ## Sequences that can go on -/

/-- Tokens that are those of a template. -/
def Accepted (tokens : List Token) : Prop := ∃ nodes, DerivesTemplate tokens nodes

/-- Tokens that more tokens can make a template of. -/
def Viable (tokens : List Token) : Prop := ∃ more, Accepted (tokens ++ more)

theorem Viable.of_append {tokens others : List Token} (h : Viable (tokens ++ others)) :
    Viable tokens := by
  obtain ⟨more, hAccepted⟩ := h
  exact ⟨others ++ more, by rwa [← List.append_assoc]⟩

/-! ## Stages -/

/-- Where in a template tokens end, with the number of calls that are open there. -/
inductive Stage where
  /-- Between the pieces. -/
  | outside
  /-- Behind an opening brace. -/
  | opened
  /-- Where an expression has to come. -/
  | expected (depth : Nat)
  /-- Behind a name that may yet be that of a call. -/
  | named (depth : Nat)
  /-- Behind the opening parenthesis of a call. -/
  | called (depth : Nat)
  /-- Behind an expression. -/
  | complete (depth : Nat)
  deriving DecidableEq, Repr

namespace Stage

/-- The stage behind the first token of an expression. -/
def intoExpr (depth : Nat) : Token → Option Stage
  | .string _ => some (complete depth)
  | .number digits => if (readInt64? digits.toList).isSome then some (complete depth) else none
  | .identifier _ => some (named depth)
  | _ => none

/-- The stage behind the token that follows an expression: in the block itself another
filter or the end, in a call another argument or the end. -/
def pastExpr : Nat → Token → Option Stage
  | 0, .pipe => some (expected 0)
  | 0, .closeBrace => some outside
  | depth + 1, .comma => some (expected (depth + 1))
  | depth + 1, .closeParen => some (complete depth)
  | _, _ => none

/-- The stage behind one more token, if the token can stand there. -/
def next : Stage → Token → Option Stage
  | outside, .rawText _ => some outside
  | outside, .openBrace => some opened
  | outside, _ => none
  | opened, .question => some (expected 0)
  | opened, t => intoExpr 0 t
  | expected depth, t => intoExpr depth t
  | named depth, .openParen => some (called depth)
  | named depth, t => pastExpr depth t
  | called depth, .closeParen => some (complete depth)
  | called depth, t => intoExpr (depth + 1) t
  | complete depth, t => pastExpr depth t

/-- The stage behind more tokens. -/
def after (s : Stage) : List Token → Option Stage
  | [] => some s
  | t :: ts => (s.next t).bind (after · ts)

@[simp] theorem after_nil (s : Stage) : s.after [] = some s := rfl

@[simp] theorem after_cons (s : Stage) (t : Token) (ts : List Token) :
    s.after (t :: ts) = (s.next t).bind (after · ts) := rfl

theorem after_append (s : Stage) (ts us : List Token) :
    s.after (ts ++ us) = (s.after ts).bind (after · us) := by
  induction ts generalizing s with
  | nil => rfl
  | cons t ts ih =>
      rw [List.cons_append, after_cons, after_cons]
      cases s.next t with
      | none => rfl
      | some s => exact ih s

theorem after_append_of_eq {s s' : Stage} {ts : List Token} (h : s.after ts = some s')
    (us : List Token) : s.after (ts ++ us) = s'.after us := by
  rw [after_append, h, Option.bind_some]

/-- The next token, if there is one, is taken as the first of an expression. -/
structure Awaits (s : Stage) (depth : Nat) (t : Option Token) : Prop where
  inBlock : s ≠ outside
  next_eq : ∀ u ∈ t, s.next u = intoExpr depth u

/-- The next token, if there is one, is taken as one behind an expression. -/
structure Ends (s : Stage) (depth : Nat) (t : Option Token) : Prop where
  inBlock : s ≠ outside
  next_eq : ∀ u ∈ t, s.next u = pastExpr depth u

/-- There is no way on: the next token is refused, or there is none and a block is open. -/
def Stuck (s : Stage) : Option Token → Prop
  | none => s ≠ outside
  | some t => s.next t = none

theorem awaits_expected (depth : Nat) (t : Option Token) : (expected depth).Awaits depth t :=
  ⟨nofun, fun _ _ => rfl⟩

theorem awaits_opened {t : Option Token} (h : t ≠ some .question) : opened.Awaits 0 t := by
  refine ⟨nofun, fun u hu => ?_⟩
  rw [Option.mem_def.1 hu] at h
  cases u <;> first | rfl | exact absurd rfl h

theorem awaits_called {depth : Nat} {t : Option Token} (h : t ≠ some .closeParen) :
    (called depth).Awaits (depth + 1) t := by
  refine ⟨nofun, fun u hu => ?_⟩
  rw [Option.mem_def.1 hu] at h
  cases u <;> first | rfl | exact absurd rfl h

theorem ends_complete (depth : Nat) (t : Option Token) : (complete depth).Ends depth t :=
  ⟨nofun, fun _ _ => rfl⟩

theorem ends_named {depth : Nat} {t : Option Token} (h : t ≠ some .openParen) :
    (named depth).Ends depth t := by
  refine ⟨nofun, fun u hu => ?_⟩
  rw [Option.mem_def.1 hu] at h
  cases u <;> first | rfl | exact absurd rfl h

variable {s : Stage} {depth : Nat} {t : Option Token}

theorem Awaits.stuck (h : s.Awaits depth t) (hNone : ∀ u ∈ t, intoExpr depth u = none) :
    s.Stuck t := by
  cases t with
  | none => exact h.inBlock
  | some u => exact (h.next_eq u rfl).trans (hNone u rfl)

theorem Ends.stuck (h : s.Ends depth t) (hNone : ∀ u ∈ t, pastExpr depth u = none) :
    s.Stuck t := by
  cases t with
  | none => exact h.inBlock
  | some u => exact (h.next_eq u rfl).trans (hNone u rfl)

/-- From every stage some tokens lead out of the block. -/
theorem exists_way_out (s : Stage) : ∃ more, s.after more = some outside := by
  have hComplete : ∀ depth, ∃ more, (complete depth).after more = some outside := by
    intro depth
    induction depth with
    | zero => exact ⟨[.closeBrace], rfl⟩
    | succ depth ih =>
        obtain ⟨more, hMore⟩ := ih
        exact ⟨.closeParen :: more, hMore⟩
  cases s with
  | outside => exact ⟨[], rfl⟩
  | opened => exact ⟨[.string "", .closeBrace], rfl⟩
  | expected depth =>
      obtain ⟨more, hMore⟩ := hComplete depth
      exact ⟨.string "" :: more, hMore⟩
  | named depth =>
      obtain ⟨more, hMore⟩ := hComplete depth
      exact ⟨.openParen :: .closeParen :: more, hMore⟩
  | called depth =>
      obtain ⟨more, hMore⟩ := hComplete depth
      exact ⟨.closeParen :: more, hMore⟩
  | complete depth => exact hComplete depth

end Stage

open Stage

/-! ## What is derived goes from stage to stage -/

variable {ls rest : List Lexeme} {tokens others : List Token} {s : Stage} {depth : Nat}

/-- Whether an expression with a token behind it is read as something else: a name with an
opening parenthesis behind it is a call. -/
def TurnsIntoCall (e : Expr) (t : Option Token) : Prop :=
  t = some .openParen ∧ ∃ identifier, e = .name identifier

theorem not_turnsIntoCall {e : Expr} {t : Option Token} (h : t ≠ some .openParen) :
    ¬ TurnsIntoCall e t := fun hCall => h hCall.1

mutual

/-- An expression leads to a stage behind it, as long as it is one with what follows. -/
theorem DerivesExpr.exists_after {tokens : List Token} {e : Expr} (h : DerivesExpr tokens e)
    {s : Stage} {depth : Nat} (hStart : s.Awaits depth tokens.head?) :
    ∃ s', s.after tokens = some s' ∧ ∀ t, ¬ TurnsIntoCall e t → s'.Ends depth t := by
  match h with
  | .string =>
      have hFirst := hStart.next_eq _ rfl
      exact ⟨_, by simp [hFirst, intoExpr], fun t _ => ends_complete depth t⟩
  | .number hValue =>
      have hFirst := hStart.next_eq _ rfl
      exact ⟨_, by simp [hFirst, intoExpr, hValue], fun t _ => ends_complete depth t⟩
  | .name =>
      have hFirst := hStart.next_eq _ rfl
      exact ⟨_, by simp [hFirst, intoExpr], fun t ht => ends_named fun hOpen => ht ⟨hOpen, _, rfl⟩⟩
  | .callEmpty =>
      have hFirst := hStart.next_eq _ rfl
      exact ⟨.complete depth, by rw [after_cons, hFirst]; rfl, fun t _ => ends_complete depth t⟩
  | @DerivesExpr.call function tokens es hArguments =>
      have hFirst := hStart.next_eq _ rfl
      have hNotEmpty : tokens.head? ≠ some .closeParen := by
        obtain ⟨t, more, rfl, hStarts⟩ := hArguments.starts
        rintro ⟨⟩
        cases hStarts
      have hInner : (called depth).after (tokens ++ [.closeParen]) = some (.complete depth) :=
        hArguments.after (awaits_called hNotEmpty)
      refine ⟨.complete depth, ?_, fun t _ => ends_complete depth t⟩
      rw [List.cons_append, after_cons, hFirst]
      exact hInner

/-- Arguments with their closing parenthesis close the call that they are in. -/
theorem DerivesArguments.after {tokens : List Token} {es : List Expr}
    (h : DerivesArguments tokens es) {s : Stage} {depth : Nat}
    (hStart : s.Awaits (depth + 1) tokens.head?) :
    s.after (tokens ++ [.closeParen]) = some (.complete depth) := by
  match h with
  | .last hExpr =>
      obtain ⟨s', hAfter, hEnds⟩ := hExpr.exists_after hStart
      have hClose := (hEnds (some .closeParen) (not_turnsIntoCall (by simp))).next_eq _ rfl
      simp [after_append_of_eq hAfter, hClose, pastExpr]
  | @DerivesArguments.cons tokens rest e es hExpr hRest =>
      have hHead : (tokens ++ .comma :: rest).head? = tokens.head? := by
        obtain ⟨t, more, rfl, -⟩ := hExpr.starts
        rfl
      obtain ⟨s', hAfter, hEnds⟩ := hExpr.exists_after (hHead ▸ hStart)
      have hComma := (hEnds (some .comma) (not_turnsIntoCall (by simp))).next_eq _ rfl
      have hOthers := hRest.after (awaits_expected (depth + 1) rest.head?)
      simp [after_append_of_eq hAfter, hComma, pastExpr, hOthers]

end

/-- Filters with the closing brace lead out of the block. -/
theorem DerivesFilters.after {es : List Expr} (h : DerivesFilters tokens es)
    (hStart : ∀ t, t ≠ some .openParen → s.Ends 0 t) :
    s.after (tokens ++ [.closeBrace]) = some .outside := by
  induction h generalizing s with
  | nil =>
      have hClose := (hStart (some .closeBrace) (by simp)).next_eq _ rfl
      simp [hClose, pastExpr]
  | @cons tokens rest e es hExpr _ ih =>
      have hPipe := (hStart (some .pipe) (by simp)).next_eq _ rfl
      obtain ⟨s', hAfter, hEnds⟩ := hExpr.exists_after (awaits_expected 0 tokens.head?)
      have hRest := after_append_of_eq hAfter (rest ++ [.closeBrace])
      simp [hPipe, pastExpr, hRest, ih fun t ht => hEnds t (not_turnsIntoCall ht)]

theorem DerivesBlock.after {b : Block} (h : DerivesBlock tokens b) :
    Stage.outside.after tokens = some .outside := by
  cases h with
  | @plain tokens rest e es hExpr hFilters =>
      have hFirst : tokens.head? ≠ some .question := by
        obtain ⟨t, more, rfl, hStarts⟩ := hExpr.starts
        rintro ⟨⟩
        cases hStarts
      obtain ⟨s', hAfter, hEnds⟩ := hExpr.exists_after (awaits_opened hFirst)
      have hRest := after_append_of_eq hAfter (rest ++ [.closeBrace])
      simp [Stage.next, hRest, hFilters.after fun t ht => hEnds t (not_turnsIntoCall ht)]
  | @optional tokens rest e es hExpr hFilters =>
      obtain ⟨s', hAfter, hEnds⟩ := hExpr.exists_after (awaits_expected 0 tokens.head?)
      have hRest := after_append_of_eq hAfter (rest ++ [.closeBrace])
      simp [Stage.next, hRest, hFilters.after fun t ht => hEnds t (not_turnsIntoCall ht)]

theorem DerivesTemplate.after {nodes : List Node} (h : DerivesTemplate tokens nodes) :
    Stage.outside.after tokens = some .outside := by
  induction h with
  | nil => rfl
  | raw _ ih => simpa [Stage.next] using ih
  | block hBlock _ ih => rw [after_append_of_eq hBlock.after, ih]

/-! ## Where the reader fails -/

/-- From a stage on, the tokens in front of `rest` lead to one with no way on. -/
def StuckAt (s : Stage) (ls rest : List Lexeme) : Prop :=
  ∃ tokens s', Takes ls rest tokens ∧ s.after tokens = some s' ∧ s'.Stuck (firstToken? rest)

theorem stuckAt_self (h : s.Stuck (firstToken? ls)) : StuckAt s ls ls :=
  ⟨[], s, takes_nil.2 rfl, rfl, h⟩

/-- What is stuck behind tokens that lead to its stage is stuck. -/
theorem StuckAt.of_takes {between : List Lexeme} {s' : Stage} (h : StuckAt s' between rest)
    (hTakes : Takes ls between tokens) (hAfter : s.after tokens = some s') :
    StuckAt s ls rest := by
  obtain ⟨others, s'', hOthers, hRun, hStuck⟩ := h
  refine ⟨tokens ++ others, s'', takes_append.2 ⟨between, hTakes, hOthers⟩, ?_, hStuck⟩
  rw [after_append_of_eq hAfter, hRun]

theorem Takes.length_eq (h : Takes ls rest tokens) : rest.length + tokens.length = ls.length := by
  obtain ⟨taken, rfl, rfl⟩ := h
  simp [Nat.add_comm]

theorem takes_first {t : Token} (h : firstToken? ls = some t) : Takes ls ls.tail [t] := by
  simp [h]

variable {fuel : Nat} {e : Expr} {fault : SyntaxFault}

/-- A name that was read has no opening parenthesis behind it. -/
theorem not_turnsIntoCall_of_readExpr (h : readExpr fuel ls = .ok (e, rest)) :
    ¬ TurnsIntoCall e (firstToken? rest) := by
  rintro ⟨hOpen, identifier, rfl⟩
  match fuel, ls with
  | 0, _ => cases h
  | _ + 1, [] => cases h
  | fuel + 1, l :: ls =>
      rw [readExpr] at h
      split at h
      case h_3 name _ =>
        split at h
        · split at h
          · cases h
          · obtain ⟨_, _, hPair⟩ := exists_of_map_ok h
            cases hPair
        · rename_i hNotOpen
          cases h
          exact hNotOpen hOpen
      all_goals first | cases h | (split at h <;> cases h)

theorem Stage.Awaits.of_takes (h : s.Awaits depth (firstToken? ls)) (hTakes : Takes ls rest tokens)
    (hDerives : DerivesExpr tokens e) : s.Awaits depth tokens.head? := by
  obtain ⟨t, more, rfl, -⟩ := hDerives.starts
  rwa [(takes_cons.1 hTakes).1] at h

/-- What is read as an expression leads to a stage behind an expression. -/
theorem readExpr_after (h : readExpr fuel ls = .ok (e, rest))
    (hStart : s.Awaits depth (firstToken? ls)) :
    ∃ tokens s', Takes ls rest tokens ∧ s.after tokens = some s' ∧
      s'.Ends depth (firstToken? rest) := by
  obtain ⟨tokens, hTakes, hDerives⟩ := readExpr_derives h
  obtain ⟨s', hAfter, hEnds⟩ := hDerives.exists_after (hStart.of_takes hTakes hDerives)
  exact ⟨tokens, s', hTakes, hAfter, hEnds _ (not_turnsIntoCall_of_readExpr h)⟩

mutual

theorem readExpr_stuck {fuel : Nat} {ls : List Lexeme} {fault : SyntaxFault}
    (h : readExpr fuel ls = .error fault) {s : Stage} {depth : Nat}
    (hStart : s.Awaits depth (firstToken? ls)) (hFuel : ls.length < fuel) :
    StuckAt s ls fault.rest := by
  match fuel, ls with
  | 0, _ => cases hFuel
  | _ + 1, [] =>
      cases h
      exact stuckAt_self (hStart.stuck nofun)
  | fuel + 1, l :: ls =>
      have hFirst := hStart.next_eq l.token rfl
      rw [readExpr] at h
      split at h
      case h_1 => cases h
      case h_2 digits hToken =>
        split at h
        · cases h
        · rename_i hNone
          cases h
          exact stuckAt_self (hStart.stuck (by simp [hToken, intoExpr, hNone]))
      case h_3 function hToken =>
        split at h
        · rename_i hOpen
          split at h
          · cases h
          · rename_i hNotEmpty
            have hArguments := error_of_map_error h
            have hTakes : Takes (l :: ls) ls.tail [.identifier function, .openParen] := by
              simp [hToken, hOpen]
            have hAfter : s.after [.identifier function, .openParen] = some (.called depth) := by
              rw [hToken] at hFirst
              rw [after_cons, hFirst]
              rfl
            refine (readArguments_stuck hArguments (awaits_called hNotEmpty) ?_).of_takes hTakes hAfter
            have hLength := hTakes.length_eq
            simp only [List.length_cons, List.length_nil] at hLength hFuel
            omega
        · cases h
      all_goals
        cases h
        exact stuckAt_self (hStart.stuck (by simp [*, intoExpr]))

theorem readArguments_stuck {fuel : Nat} {function : String} {ls : List Lexeme}
    {fault : SyntaxFault} (h : readArguments fuel function ls = .error fault) {s : Stage}
    {depth : Nat} (hStart : s.Awaits (depth + 1) (firstToken? ls)) (hFuel : ls.length + 1 < fuel) :
    StuckAt s ls fault.rest := by
  match fuel with
  | 0 => cases hFuel
  | fuel + 1 =>
      rw [readArguments] at h
      split at h
      · rename_i hExpr
        cases h
        exact readExpr_stuck hExpr hStart (by omega)
      · rename_i e between hExpr
        obtain ⟨tokens, s', hTakes, hAfter, hEnds⟩ := readExpr_after hExpr hStart
        have hLength := hTakes.length_eq
        split at h
        · rename_i hComma
          have hRest := error_of_map_error h
          have hTakesComma := takes_first hComma
          have hNext : s'.after [.comma] = some (.expected (depth + 1)) := by
            rw [after_cons, hEnds.next_eq _ hComma]
            rfl
          have hLengthTail : between.tail.length + 1 = between.length := hTakesComma.length_eq
          have hStuck := readArguments_stuck hRest (awaits_expected (depth + 1) _) (by omega)
          exact (hStuck.of_takes hTakesComma hNext).of_takes hTakes hAfter
        · split at h
          · cases h
          · cases h
            refine (stuckAt_self (hEnds.stuck fun t ht => ?_)).of_takes hTakes hAfter
            cases t <;> first | rfl | contradiction

end

theorem readExpression_stuck (h : readExpression ls = .error fault)
    (hStart : s.Awaits depth (firstToken? ls)) : StuckAt s ls fault.rest :=
  readExpr_stuck h hStart (Nat.lt_succ_self _)

theorem readFilters_stuck {fuel : Nat} (h : readFilters fuel ls = .error fault)
    (hStart : s.Ends 0 (firstToken? ls)) (hFuel : ls.length < fuel) :
    StuckAt s ls fault.rest := by
  induction fuel generalizing ls s with
  | zero => cases hFuel
  | succ fuel ih =>
      rw [readFilters] at h
      split at h
      case h_1 hNone =>
        cases h
        exact stuckAt_self (hStart.stuck (by simp [hNone]))
      case h_2 => cases h
      case h_3 hPipe =>
        have hTakesPipe := takes_first hPipe
        have hNext : s.after [.pipe] = some (.expected 0) := by
          rw [after_cons, hStart.next_eq _ hPipe]
          rfl
        have hLengthTail : ls.tail.length + 1 = ls.length := hTakesPipe.length_eq
        refine StuckAt.of_takes ?_ hTakesPipe hNext
        dsimp only at h
        generalize ls.tail = after at h hLengthTail ⊢
        have hBehind := awaits_expected 0 (firstToken? after)
        split at h
        · rename_i hNoExpr
          cases h
          refine stuckAt_self (hBehind.stuck fun t ht => ?_)
          have hMark : t = .closeBrace ∨ t = .pipe := by
            obtain ⟨l, hl, -⟩ := firstToken?_eq_some ht
            rw [ht, hl] at hNoExpr
            simpa using hNoExpr
          rcases hMark with rfl | rfl <;> rfl
        · split at h
          · rename_i hExpr
            cases h
            exact readExpression_stuck hExpr hBehind
          · rename_i e between hExpr
            obtain ⟨tokens, s', hTakes, hAfter, hEnds⟩ := readExpr_after hExpr hBehind
            have hLength := hTakes.length_eq
            exact (ih (error_of_map_error h) hEnds (by omega)).of_takes hTakes hAfter
      case h_4 hOther =>
        cases h
        refine stuckAt_self (hStart.stuck fun t ht => ?_)
        cases t <;> first | rfl | simp_all

theorem readBlock_stuck (h : readBlock ls = .error fault) : StuckAt .opened ls fault.rest := by
  unfold readBlock at h
  extract_lets optional behind at h
  -- behind its question mark, if it has one, a block goes on with an expression
  obtain ⟨front, s, hFront, hAfter, hStart⟩ : ∃ front s, Takes ls behind front ∧
      Stage.opened.after front = some s ∧ s.Awaits 0 (firstToken? behind) := by
    by_cases hQuestion : firstToken? ls = some .question
    · rw [show behind = ls.tail from if_pos hQuestion]
      exact ⟨[.question], .expected 0, takes_first hQuestion, rfl, awaits_expected 0 _⟩
    · rw [show behind = ls from if_neg hQuestion]
      exact ⟨[], .opened, takes_nil.2 rfl, rfl, awaits_opened hQuestion⟩
  refine StuckAt.of_takes ?_ hFront hAfter
  split at h
  · rename_i hClose
    cases h
    exact stuckAt_self (hStart.stuck (by simp [hClose, intoExpr]))
  · split at h
    · rename_i hExpr
      cases h
      exact readExpression_stuck hExpr hStart
    · rename_i e between hExpr
      obtain ⟨tokens, s', hTakes, hRun, hEnds⟩ := readExpr_after hExpr hStart
      have hFilters := readFilters_stuck (error_of_map_error h) hEnds (Nat.lt_succ_self _)
      exact hFilters.of_takes hTakes hRun

theorem readNodes_stuck {fuel : Nat} (h : readNodes fuel ls = .error fault)
    (hFuel : ls.length ≤ fuel) : StuckAt .outside ls fault.rest := by
  induction fuel generalizing ls with
  | zero =>
      cases ls with
      | nil => cases h
      | cons l ls => cases hFuel
  | succ fuel ih =>
      cases ls with
      | nil => cases h
      | cons l ls =>
          have hShorter : ls.length ≤ fuel := Nat.le_of_succ_le_succ hFuel
          rw [readNodes] at h
          split at h
          case h_1 text hToken =>
            have hTakes : Takes (l :: ls) ls [.rawText text] := by simp [hToken]
            exact (ih (error_of_map_error h) hShorter).of_takes hTakes rfl
          case h_2 hOpen =>
            split at h
            · rename_i hBlock
              cases h
              have hTakes : Takes (l :: ls) ls [.openBrace] := by simp [hOpen]
              exact (readBlock_stuck hBlock).of_takes hTakes rfl
            · rename_i b between hBlock
              obtain ⟨tokens, hTakes, hDerives⟩ := readBlock_derives hOpen hBlock
              have hLength := hTakes.length_eq
              have hPositive : 0 < tokens.length := by cases hDerives <;> simp
              simp only [List.length_cons] at hLength
              exact (ih (error_of_map_error h) (by omega)).of_takes hTakes hDerives.after
          case h_3 hClose =>
            cases h
            exact stuckAt_self (by simp [hClose, Stage.Stuck, Stage.next])
          case h_4 hNotText hNotOpen hNotClose =>
            cases h
            refine stuckAt_self (show Stage.next .outside l.token = none from ?_)
            cases hToken : l.token <;> first | rfl | simp_all

/-- **The reader fails where the stages do.** -/
theorem nodesOf_stuck (h : nodesOf ls = .error fault) : StuckAt .outside ls fault.rest :=
  readNodes_stuck h (Nat.le_refl _)

/-! ## Viable is what the stages take -/

/-- A stage that tokens are stuck at does not lead out of the blocks. -/
theorem StuckAt.after_ne (h : StuckAt s ls rest) :
    s.after (ls.map Lexeme.token) ≠ some .outside := by
  obtain ⟨tokens, s', ⟨taken, rfl, rfl⟩, hAfter, hStuck⟩ := h
  rw [List.map_append, after_append_of_eq hAfter]
  cases rest with
  | nil =>
      have hOpen : s' ≠ .outside := hStuck
      simpa using hOpen
  | cons l rest =>
      have hNone : s'.next l.token = none := hStuck
      simp [hNone]

/-- Tokens that lead out of the blocks are those of a template. -/
theorem accepted_of_after {tokens : List Token}
    (h : Stage.outside.after tokens = some .outside) : Accepted tokens := by
  -- the reader only looks at the tokens of lexemes
  have hTokens : (tokens.map fun t => (⟨t, [], 0⟩ : Lexeme)).map Lexeme.token = tokens := by
    simp [Function.comp_def]
  generalize tokens.map (fun t => (⟨t, [], 0⟩ : Lexeme)) = ls at hTokens
  subst hTokens
  cases hNodes : nodesOf ls with
  | ok nodes => exact ⟨nodes, nodesOf_eq_ok_iff.1 hNodes⟩
  | error fault => exact absurd h (nodesOf_stuck hNodes).after_ne

/-- **What the stages take is viable.** -/
theorem viable_iff {tokens : List Token} :
    Viable tokens ↔ (Stage.outside.after tokens).isSome = true := by
  constructor
  · rintro ⟨more, nodes, hDerives⟩
    have hAfter := hDerives.after
    rw [after_append] at hAfter
    cases hRun : Stage.outside.after tokens with
    | none => simp [hRun] at hAfter
    | some s => rfl
  · intro h
    obtain ⟨s, hRun⟩ := Option.isSome_iff_exists.1 h
    obtain ⟨more, hMore⟩ := s.exists_way_out
    exact ⟨more, accepted_of_after (by rw [after_append_of_eq hRun, hMore])⟩

/-- Where no way on is, the tokens up to there are viable, and those with the next token are
not; where there is no next token, they are not a template. -/
theorem StuckAt.viable (h : StuckAt .outside ls rest) :
    ∃ front, ls = front ++ rest ∧ Viable (front.map Lexeme.token) ∧
      ∀ l ∈ rest.head?, ¬ Viable ((front ++ [l]).map Lexeme.token) := by
  obtain ⟨tokens, s, ⟨front, rfl, rfl⟩, hAfter, hStuck⟩ := h
  refine ⟨front, rfl, viable_iff.2 (by rw [hAfter]; rfl), fun l hl => ?_⟩
  have hNone : s.next l.token = none := by
    rw [firstToken?, Option.mem_def.1 hl] at hStuck
    exact hStuck
  rw [viable_iff, List.map_append, after_append_of_eq hAfter]
  simp [hNone]

/-- **A syntax fault has the place of the first token that cannot go on.** If a text has
tokens but no tree, then either there is a first token with which the tokens up to it can no
longer become a template, and the fault has its place; or all the tokens together can still
become one but are none, and the fault has the place of the end of the text. -/
theorem syntax_fault_place {source : String} {ls : List Lexeme} (hTokens : tokenize source = .ok ls)
    (hNone : ∀ nodes, parse source ≠ .ok nodes) :
    ∃ cause place, parse source = .error (.grammar cause place) ∧
      ((∃ front l behind, ls = front ++ l :: behind ∧ place = l.offset ∧
          (∀ before, before <+: front → Viable (before.map Lexeme.token)) ∧
          ¬ Viable ((front ++ [l]).map Lexeme.token)) ∨
        (place = source.utf8ByteSize ∧ Viable (ls.map Lexeme.token) ∧
          ¬ Accepted (ls.map Lexeme.token))) := by
  cases hNodes : nodesOf ls with
  | ok nodes => exact absurd (by simp [parse, hTokens, hNodes]) (hNone nodes)
  | error fault =>
      have hParse : parse source =
          .error (.grammar fault.cause (placeOf source.utf8ByteSize fault.rest)) := by
        simp [parse, hTokens, hNodes]
      refine ⟨_, _, hParse, ?_⟩
      have hStuck := nodesOf_stuck hNodes
      obtain ⟨front, hSplit, hFront, hNext⟩ := hStuck.viable
      cases hRest : fault.rest with
      | nil =>
          rw [hRest, List.append_nil] at hSplit
          refine Or.inr ⟨rfl, hSplit ▸ hFront, ?_⟩
          rintro ⟨nodes, hDerives⟩
          exact hStuck.after_ne hDerives.after
      | cons l behind =>
          rw [hRest] at hSplit hNext
          refine Or.inl ⟨front, l, behind, hSplit, rfl, ?_, hNext l rfl⟩
          rintro before ⟨others, rfl⟩
          rw [List.map_append] at hFront
          exact hFront.of_append

/-- A call whose first argument is a number too large for a signed word. -/
def overflowingLexemes : List Lexeme :=
  [⟨.openBrace, ['\x7b'], 0⟩, ⟨.identifier "f", ['f'], 1⟩, ⟨.openParen, ['('], 2⟩,
    ⟨.number "9223372036854775808", "9223372036854775808".toList, 3⟩, ⟨.comma, [','], 22⟩,
    ⟨.number "1", ['1'], 24⟩, ⟨.closeParen, [')'], 25⟩, ⟨.closeBrace, ['\x7d'], 26⟩]

theorem syntax_fault_place_sample :
    tokenize "\x7bf(9223372036854775808, 1)\x7d" = .ok overflowingLexemes ∧
      (∀ nodes, parse "\x7bf(9223372036854775808, 1)\x7d" ≠ .ok nodes) ∧
      ∃ cause place, parse "\x7bf(9223372036854775808, 1)\x7d" = .error (.grammar cause place) ∧
        ((∃ front l behind, overflowingLexemes = front ++ l :: behind ∧ place = l.offset ∧
            (∀ before, before <+: front → Viable (before.map Lexeme.token)) ∧
            ¬ Viable ((front ++ [l]).map Lexeme.token)) ∨
          (place = ("\x7bf(9223372036854775808, 1)\x7d").utf8ByteSize ∧
            Viable (overflowingLexemes.map Lexeme.token) ∧
            ¬ Accepted (overflowingLexemes.map Lexeme.token))) := by
  have hTokens : tokenize "\x7bf(9223372036854775808, 1)\x7d" = .ok overflowingLexemes := by
    decide +kernel
  have hParse : parse "\x7bf(9223372036854775808, 1)\x7d" =
      .error (.grammar (.numberOutOfRange "9223372036854775808") 3) := by
    decide +kernel
  have hNone : ∀ nodes, parse "\x7bf(9223372036854775808, 1)\x7d" ≠ .ok nodes := by
    simp [hParse]
  exact ⟨hTokens, hNone, syntax_fault_place hTokens hNone⟩

example : parse "\x7btitle|" = .error (.grammar .filterExpected 7) := by decide +kernel

end Shelfmark.Template
