import Shelfmark.Proofs.Answers
import Shelfmark.Template.Evaluation

/-!
# Filters as calls

A filter receives the value so far in front of its own arguments. So a chain

    e | f(a) | g

should mean what the nested call `g(f(e, a))` means. The evaluator gets to the two in
different ways: a chain goes through `headValue` and `filterValue`, each of which has its
own order in which a bare name is looked up, while everything in a nested call is an
`argument`. What makes them meet is that a stock function is found whatever it is asked
for, and that a call evaluates its arguments from left to right before it looks up the
function, so that what fails first in the chain fails first in the call.

One thing differs. A chain remembers the variable that it started from, its origin, and
puts it into the faults of calls; a nested call starts from no variable. Everything below
is therefore stated up to `withoutOrigin`, and the nested call gives just that form.

The clock belongs to the evaluator, so that both forms see the same time; functions that
read it are no exception.

## Main results

* `Evaluator.argument_nestedCall` — running through filters is evaluating nested calls.
* `Evaluator.chain_eq_nestedCall` — a block that is a chain gives what the block of the
  nested call gives, and so do templates that consist of them.
-/

namespace Shelfmark.Template

open Shelfmark.Text

variable {α β : Type}

/-! ## Faults without an origin -/

/-- The fault without the variable that its block started from. -/
def Fault.withoutOrigin : Fault → Fault
  | .evaluation function _ cause => .evaluation function none cause
  | fault => fault

/-- The answer, with a fault that names no variable which its block started from. -/
def withoutOrigin (answer : Except Fault α) : Except Fault α :=
  answer.mapError Fault.withoutOrigin

theorem withoutOrigin_bind (answer : Except Fault α) (f : α → Except Fault β) :
    withoutOrigin (answer.bind f) =
      (withoutOrigin answer).bind fun a => withoutOrigin (f a) := by
  cases answer <;> rfl

theorem withoutOrigin_map (answer : Except Fault α) (f : α → β) :
    withoutOrigin (answer.map f) = (withoutOrigin answer).map f := by
  cases answer <;> rfl

@[simp] theorem withoutOrigin_withoutOrigin (answer : Except Fault α) :
    withoutOrigin (withoutOrigin answer) = withoutOrigin answer := by
  cases answer with
  | ok a => rfl
  | error fault => cases fault <;> rfl

/-! ## The nested call of a chain -/

/-- An expression that calls a function: with parentheses, or without them where there are
no arguments. -/
inductive Expr.Calls : Expr → String → List Expr → Prop where
  | call (function : String) (arguments : List Expr) :
      Calls (.call function arguments) function arguments
  | name (function : String) : Calls (.name function) function []

/-- A filter as a call with `e` in front of its arguments. A literal is no call and takes
nothing. -/
def Expr.applied (e : Expr) : Expr → Expr
  | .call function arguments => .call function (e :: arguments)
  | .name function => .call function [e]
  | literal => literal

/-- The nested call that a chain stands for. -/
def nestedCall (e : Expr) (filters : List Expr) : Expr := filters.foldl Expr.applied e

theorem Expr.Calls.applied {f : Expr} {function : String} {arguments : List Expr}
    (h : f.Calls function arguments) (e : Expr) :
    e.applied f = .call function (e :: arguments) := by
  cases h <;> rfl

namespace Evaluator

variable (ev : Evaluator)

/-- Whether a name is that of a stock function which no registered function shadows. -/
def IsStock (name : String) : Prop :=
  ev.functions.lookup (lowercase name) = none ∧
    ∃ b, Builtin.ofName? (lowercase name) = some b

/-- Whether a filter calls a stock function, with parentheses or without. -/
def IsStockFilter (f : Expr) : Prop :=
  ∃ function arguments, f.Calls function arguments ∧ ev.IsStock function

/-! ## Origins only show in faults -/

/-- What a call answers does not depend on the origin, but for the fault that names it. -/
theorem call?_none (origin : Option String) (name : String) (head : Option Value)
    (args : List Value) :
    ev.call? none name head args = (ev.call? origin name head args).map withoutOrigin := by
  unfold call?
  dsimp only
  rw [Option.map_map]
  congr 1
  funext function
  rw [Function.comp_apply]
  cases function head args <;> rfl

/-- The same for a call that may find no function. -/
theorem call_getD_none (origin : Option String) (name : String) (head : Option Value)
    (args : List Value) {otherwise : Except Fault Value}
    (h : withoutOrigin otherwise = otherwise) :
    (ev.call? none name head args).getD otherwise =
      withoutOrigin ((ev.call? origin name head args).getD otherwise) := by
  rw [ev.call?_none origin]
  cases ev.call? origin name head args with
  | none => exact h.symm
  | some answer => rfl

theorem withoutOrigin_unresolved (identifier : String) :
    withoutOrigin (ev.unresolved identifier) = ev.unresolved identifier := by
  unfold unresolved
  split <;> rfl

mutual

theorem argument_none (origin : Option String) (e : Expr) :
    ev.argument none e = withoutOrigin (ev.argument origin e) := by
  match e with
  | .string content =>
      rw [argument, argument]
      rfl
  | .number n =>
      rw [argument, argument]
      rfl
  | .call name args =>
      have hArgs := arguments_none origin args
      rw [argument_call, argument_call, withoutOrigin_bind, ← hArgs]
      congr 1
      funext values
      exact ev.call_getD_none origin name none values rfl
  | .name identifier =>
      rw [argument, argument]
      cases ev.variableValue? identifier with
      | some v => rfl
      | none =>
          exact ev.call_getD_none origin identifier none []
            (ev.withoutOrigin_unresolved identifier)

theorem arguments_none (origin : Option String) (es : List Expr) :
    ev.arguments none es = withoutOrigin (ev.arguments origin es) := by
  match es with
  | [] =>
      rw [arguments, arguments]
      rfl
  | e :: es =>
      have hHead := argument_none origin e
      have hRest := arguments_none origin es
      rw [arguments_cons, arguments_cons, withoutOrigin_bind, ← hHead]
      congr 1
      funext v
      rw [withoutOrigin_map, ← hRest]

end

/-- In front of a chain an expression has the value that it has as an argument. -/
theorem headValue_fst (e : Expr) : (ev.headValue e).map Prod.fst = ev.argument none e := by
  cases e with
  | name identifier =>
      rw [headValue, argument]
      cases ev.variableValue? identifier with
      | some v => rfl
      | none =>
          show (((ev.call? none identifier none []).getD (ev.unresolved identifier)).map
            (·, none)).map Prod.fst = (ev.call? none identifier none []).getD _
          cases (ev.call? none identifier none []).getD (ev.unresolved identifier) <;> rfl
  | string content => rfl
  | number n => rfl
  | call name args =>
      show ((ev.argument none (.call name args)).map (·, none)).map Prod.fst = _
      cases ev.argument none (.call name args) <;> rfl

/-! ## One filter -/

/-- A stock function finds the value so far where it finds its first argument. -/
theorem IsStock.call?_head {name : String} (h : ev.IsStock name) (origin : Option String)
    (v : Value) (args : List Value) :
    ev.call? origin name none (v :: args) = ev.call? origin name (some v) args := by
  obtain ⟨hFree, b, hStock⟩ := h
  simp [call?, function?, hFree, hStock, withHead]

theorem IsStock.exists_call? {name : String} (h : ev.IsStock name) (origin : Option String)
    (head : Option Value) (args : List Value) :
    ∃ answer, ev.call? origin name head args = some answer := by
  obtain ⟨hFree, b, hStock⟩ := h
  simp [call?, function?, hFree, hStock]

/-- With parentheses or without, a stock filter evaluates its arguments and is called. -/
theorem filterValue_of_calls {f : Expr} {name : String} {args : List Expr}
    (hCalls : f.Calls name args) (hStock : ev.IsStock name) (origin : Option String) (v : Value) :
    ev.filterValue origin v f =
      (ev.arguments origin args).bind fun values =>
        (ev.call? origin name (some v) values).getD (.error (.unknownFunction name)) := by
  cases hCalls with
  | call => exact ev.filterValue_call origin v name args
  | name =>
      obtain ⟨answer, hAnswer⟩ := hStock.exists_call? ev origin (some v) []
      rw [filterValue, hAnswer, arguments]
      simp [Except.bind, hAnswer]

/-- A stock filter is a call with one more argument in front. -/
theorem argument_applied {f : Expr} (h : ev.IsStockFilter f) (origin : Option String) (e : Expr) :
    ev.argument none (e.applied f) =
      (ev.argument none e).bind fun v => withoutOrigin (ev.filterValue origin v f) := by
  obtain ⟨name, args, hCalls, hStock⟩ := h
  rw [hCalls.applied e, argument_call, arguments_cons]
  cases ev.argument none e with
  | error fault => rfl
  | ok v =>
      show ((ev.arguments none args).map (v :: ·)).bind _ = withoutOrigin _
      rw [ev.filterValue_of_calls hCalls hStock, withoutOrigin_bind, ← ev.arguments_none origin]
      cases ev.arguments none args with
      | error fault => rfl
      | ok values =>
          show (ev.call? none name none (v :: values)).getD _ = withoutOrigin _
          rw [hStock.call?_head]
          exact ev.call_getD_none origin name (some v) values rfl

/-! ## Chains -/

/-- Running through stock filters is evaluating the nested call. -/
theorem argument_nestedCall (origin : Option String) (e : Expr) (filters : List Expr)
    (h : ∀ f ∈ filters, ev.IsStockFilter f) :
    ev.argument none (nestedCall e filters) =
      (ev.argument none e).bind fun v => withoutOrigin (ev.runFilters origin v filters) := by
  induction filters generalizing e with
  | nil =>
      show ev.argument none e = (ev.argument none e).bind fun v => .ok v
      cases ev.argument none e <;> rfl
  | cons f filters ih =>
      have hFirst := ev.argument_applied (h f List.mem_cons_self) origin e
      have hRest := ih (e.applied f) fun g hg => h g (List.mem_cons_of_mem f hg)
      show ev.argument none (nestedCall (e.applied f) filters) = _
      rw [hRest, hFirst]
      cases ev.argument none e with
      | error fault => rfl
      | ok v =>
          show (withoutOrigin (ev.filterValue origin v f)).bind _ =
            withoutOrigin (ev.runFilters origin v (f :: filters))
          rw [runFilters_cons, withoutOrigin_bind]

/-- A block of one expression that is no chain. -/
theorem blockValue_single (e : Expr) : ev.blockValue ⟨false, [e]⟩ = ev.argument none e := by
  rw [blockValue_cons, ← headValue_fst]
  cases ev.headValue e <;> rfl

theorem blockValue_chain (e : Expr) (filters : List Expr)
    (h : ∀ f ∈ filters, ev.IsStockFilter f) :
    ev.blockValue ⟨false, [nestedCall e filters]⟩ =
      withoutOrigin (ev.blockValue ⟨false, e :: filters⟩) := by
  have hHead := ev.headValue_fst e
  rw [blockValue_single, blockValue_cons]
  cases hValue : ev.headValue e with
  | ok p =>
      obtain ⟨v, origin⟩ := p
      rw [hValue] at hHead
      rw [ev.argument_nestedCall origin e filters h, ← hHead]
      rfl
  | error fault =>
      -- the head fails before there is an origin
      rw [hValue] at hHead
      have hNone : ev.argument none e = withoutOrigin (ev.argument none e) :=
        ev.argument_none none e
      rw [ev.argument_nestedCall none e filters h, hNone, ← hHead]
      rfl

/-- What a template gives, up to the origin, is decided by what its blocks give, up to the
origin. -/
theorem withoutOrigin_nodesText_replace {b d : Block}
    (h : withoutOrigin (ev.blockValue b) = withoutOrigin (ev.blockValue d))
    (before after : List Node) :
    withoutOrigin (ev.nodesText (before ++ .block b :: after)) =
      withoutOrigin (ev.nodesText (before ++ .block d :: after)) := by
  have hText : withoutOrigin (ev.nodeText (.block b)) = withoutOrigin (ev.nodeText (.block d)) := by
    rw [nodeText, nodeText, withoutOrigin_map, withoutOrigin_map, h]
  have hRest : withoutOrigin (ev.nodesText (.block b :: after)) =
      withoutOrigin (ev.nodesText (.block d :: after)) := by
    rw [nodesText_cons, nodesText_cons, withoutOrigin_bind, withoutOrigin_bind, hText]
  rw [nodesText_append, nodesText_append, withoutOrigin_bind, withoutOrigin_bind]
  congr 1
  funext s
  rw [withoutOrigin_map, withoutOrigin_map, hRest]

/-- **Filters are calls with the head in front.** Where all filters of a block that is not
optional are stock functions, with parentheses or without, the nested call has the value of
the chain, or the same fault without the variable that the chain started from. So wherever
the block stands in a template, the nested call in its place gives the same text or, up to
that variable, the same fault. -/
theorem chain_eq_nestedCall (e : Expr) (filters : List Expr)
    (h : ∀ f ∈ filters, ev.IsStockFilter f) :
    ev.blockValue ⟨false, [nestedCall e filters]⟩ =
        withoutOrigin (ev.blockValue ⟨false, e :: filters⟩) ∧
      ∀ before after chain call,
        parse chain = .ok (before ++ .block ⟨false, e :: filters⟩ :: after) →
        parse call = .ok (before ++ .block ⟨false, [nestedCall e filters]⟩ :: after) →
        withoutOrigin (ev.process call) = withoutOrigin (ev.process chain) := by
  have hValue := ev.blockValue_chain e filters h
  refine ⟨hValue, fun before after chain call hChain hCall => ?_⟩
  rw [process_eq, process_eq, hChain, hCall]
  refine ev.withoutOrigin_nodesText_replace ?_ before after
  rw [hValue, withoutOrigin_withoutOrigin]

/-- An evaluator that knows one variable. -/
def sampleEvaluator : Evaluator where
  resolvers := [fun name _ => if name = "title" then some (.text " it ") else none]

/-- A chain with and without parentheses that gives a text; and one that fails in its second
filter, behind raw text. -/
theorem chain_eq_nestedCall_sample :
    (sampleEvaluator.process "\x7btitle | Trim | wrap('<@>')\x7d" = .ok "<it>" ∧
      withoutOrigin (sampleEvaluator.process "\x7bwrap(Trim(title), '<@>')\x7d") = .ok "<it>") ∧
    (sampleEvaluator.process "by \x7btitle | Trim | wrap\x7d" =
        .error (.evaluation "wrap" (some "title") (.arity 2 1)) ∧
      withoutOrigin (sampleEvaluator.process "by \x7bwrap(Trim(title))\x7d") =
        .error (.evaluation "wrap" none (.arity 2 1))) := by
  have hTrim : sampleEvaluator.IsStockFilter (.name "Trim") :=
    ⟨"Trim", [], .name "Trim", by decide +kernel, .trim, by decide +kernel⟩
  have hWrap : ∀ f ∈ [Expr.name "wrap", .call "wrap" [.string "<@>"]],
      sampleEvaluator.IsStockFilter f := by
    intro f hf
    have hStock : sampleEvaluator.IsStock "wrap" := ⟨by decide +kernel, .wrap, by decide +kernel⟩
    rcases List.mem_cons.1 hf with rfl | hf
    · exact ⟨"wrap", [], .name "wrap", hStock⟩
    · rw [List.mem_singleton.1 hf]
      exact ⟨"wrap", _, .call "wrap" _, hStock⟩
  have hFilters : ∀ g ∈ [Expr.name "wrap", .call "wrap" [.string "<@>"]],
      ∀ f ∈ [Expr.name "Trim", g], sampleEvaluator.IsStockFilter f := by
    intro g hg f hf
    rcases List.mem_cons.1 hf with rfl | hf
    · exact hTrim
    · rw [List.mem_singleton.1 hf]
      exact hWrap g hg
  have hText : sampleEvaluator.process "\x7btitle | Trim | wrap('<@>')\x7d" = .ok "<it>" := by
    decide +kernel
  have hFault : sampleEvaluator.process "by \x7btitle | Trim | wrap\x7d" =
      .error (.evaluation "wrap" (some "title") (.arity 2 1)) := by
    decide +kernel
  obtain ⟨-, hGives⟩ := sampleEvaluator.chain_eq_nestedCall (.name "title") _
    (hFilters (.call "wrap" [.string "<@>"]) (by simp))
  obtain ⟨-, hFails⟩ := sampleEvaluator.chain_eq_nestedCall (.name "title") _
    (hFilters (.name "wrap") (by simp))
  have hSame := hGives [] [] "\x7btitle | Trim | wrap('<@>')\x7d"
    "\x7bwrap(Trim(title), '<@>')\x7d" (by decide +kernel) (by decide +kernel)
  have hSame' := hFails [.raw "by "] [] "by \x7btitle | Trim | wrap\x7d"
    "by \x7bwrap(Trim(title))\x7d" (by decide +kernel) (by decide +kernel)
  rw [hText] at hSame
  rw [hFault] at hSame'
  exact ⟨⟨hText, hSame⟩, hFault, hSame'⟩

end Evaluator

end Shelfmark.Template
