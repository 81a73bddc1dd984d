import Shelfmark.Proofs.Template.Strictness

/-!
# Templates whose variables are all there

An evaluator complains about a variable in two places only: in front of a chain and among
arguments, where a bare name is neither variable nor function. A bare name as a filter is no such
place. So the names that a template may be refused for can be read off its tree, and where each of
them has a value the template is not refused for any, whatever its functions answer and however
deep the names stand in calls.

## Main results

* `Evaluator.resolved_nodesText` — a template whose bare names all have values is never refused
  for a variable.
-/

namespace Shelfmark.Template

variable {α β : Type}

/-! ## Bare names -/

mutual

/-- The bare names in an expression into which no value flows: itself, or those among the
arguments of calls. -/
def Expr.bareNames : Expr → List String
  | .string _ => []
  | .number _ => []
  | .call _ arguments => Expr.bareNamesOfAll arguments
  | .name identifier => [identifier]

/-- The bare names in arguments. -/
def Expr.bareNamesOfAll : List Expr → List String
  | [] => []
  | e :: es => e.bareNames ++ Expr.bareNamesOfAll es

end

/-- The bare names in a filter: those among its arguments. -/
def Expr.filterNames : Expr → List String
  | .call _ arguments => Expr.bareNamesOfAll arguments
  | _ => []

/-- The bare names in front of a chain and among the arguments of its calls. -/
def Block.bareNames (b : Block) : List String :=
  match b.chain with
  | [] => []
  | first :: filters => first.bareNames ++ filters.flatMap Expr.filterNames

/-- The bare names in a piece of a template. -/
def Node.bareNames : Node → List String
  | .raw _ => []
  | .block b => b.bareNames

/-- The bare names of a template, but for those that are filters. -/
def bareNames (nodes : List Node) : List String := nodes.flatMap Node.bareNames

/-! ## Answers that are no complaints -/

/-- Steps that do not complain about a variable make up a run that does not. -/
theorem Resolved.bind {answer : Except Fault α} {f : α → Except Fault β} (h : Resolved answer)
    (hNext : ∀ a, Resolved (f a)) : Resolved (answer.bind f) := by
  cases answer with
  | ok a => exact hNext a
  | error fault => exact h.error

theorem Resolved.map {answer : Except Fault α} (h : Resolved answer) (f : α → β) :
    Resolved (answer.map f) := by
  cases answer with
  | ok a => exact resolved_ok _
  | error fault => exact h.error

namespace Evaluator

/-- Whether the evaluator has a value for each of the names. -/
def Resolves (ev : Evaluator) (identifiers : List String) : Prop :=
  ∀ identifier ∈ identifiers, ∃ v, ev.variableValue? identifier = some v

variable {ev : Evaluator}

theorem Resolves.left {xs ys : List String} (h : ev.Resolves (xs ++ ys)) : ev.Resolves xs :=
  fun _ hx => h _ (List.mem_append_left ys hx)

theorem Resolves.right {xs ys : List String} (h : ev.Resolves (xs ++ ys)) : ev.Resolves ys :=
  fun _ hy => h _ (List.mem_append_right xs hy)

theorem resolved_unknownFunction (name : String) :
    Resolved (.error (.unknownFunction name) : Except Fault α) := nofun

/-- Calling a function is no place for a missing variable. -/
theorem resolved_call (origin : Option String) (name : String) (head : Option Value)
    (args : List Value) :
    Resolved ((ev.call? origin name head args).getD (.error (.unknownFunction name))) := by
  cases hCall : ev.call? origin name head args with
  | none => exact resolved_unknownFunction name
  | some answer => exact ev.resolved_of_call? hCall

/-! ## Expressions -/

mutual

theorem resolved_argument (origin : Option String) (e : Expr) (h : ev.Resolves e.bareNames) :
    Resolved (ev.argument origin e) := by
  match e with
  | .string content =>
    rw [argument]
    exact resolved_ok _
  | .number n =>
    rw [argument]
    exact resolved_ok _
  | .call name args =>
    rw [argument_call]
    rw [Expr.bareNames] at h
    exact (resolved_arguments origin args h).bind (resolved_call origin name none)
  | .name identifier =>
    obtain ⟨v, hValue⟩ := h identifier (by simp [Expr.bareNames])
    rw [argument, hValue]
    exact resolved_ok v

theorem resolved_arguments (origin : Option String) (es : List Expr)
    (h : ev.Resolves (Expr.bareNamesOfAll es)) : Resolved (ev.arguments origin es) := by
  match es with
  | [] =>
    rw [arguments]
    exact resolved_ok _
  | e :: es =>
    rw [arguments_cons]
    rw [Expr.bareNamesOfAll] at h
    exact (resolved_argument origin e h.left).bind fun v =>
      (resolved_arguments origin es h.right).map (v :: ·)

end

theorem resolved_headValue (e : Expr) (h : ev.Resolves e.bareNames) :
    Resolved (ev.headValue e) := by
  cases e with
  | name identifier =>
    obtain ⟨v, hValue⟩ := h identifier (by simp [Expr.bareNames])
    rw [headValue, hValue]
    exact resolved_ok _
  | string content => exact (resolved_argument none _ h).map (·, none)
  | number n => exact (resolved_argument none _ h).map (·, none)
  | call name args => exact (resolved_argument none _ h).map (·, none)

/-- A bare name as a filter that is neither function nor variable is an unknown function. -/
theorem resolved_filterValue (origin : Option String) (head : Value) (e : Expr)
    (h : ev.Resolves e.filterNames) : Resolved (ev.filterValue origin head e) := by
  cases e with
  | string content => exact resolved_ok _
  | number n => exact resolved_ok _
  | call name args =>
    rw [filterValue_call]
    exact (resolved_arguments origin args h).bind (resolved_call origin name (some head))
  | name identifier =>
    rw [filterValue]
    cases hCall : ev.call? origin identifier (some head) [] with
    | some answer => exact ev.resolved_of_call? hCall
    | none =>
      cases ev.variableValue? identifier with
      | some v => exact resolved_ok v
      | none => exact resolved_unknownFunction identifier

/-! ## Blocks and templates -/

theorem resolved_runFilters (origin : Option String) (v : Value) (es : List Expr)
    (h : ev.Resolves (es.flatMap Expr.filterNames)) : Resolved (ev.runFilters origin v es) := by
  induction es generalizing v with
  | nil => exact resolved_ok v
  | cons e es ih =>
    rw [List.flatMap_cons] at h
    rw [runFilters_cons]
    exact (resolved_filterValue origin v e h.left).bind fun v => ih v h.right

theorem resolved_blockValue (b : Block) (h : ev.Resolves b.bareNames) :
    Resolved (ev.blockValue b) := by
  obtain ⟨optional, chain⟩ := b
  cases chain with
  | nil => exact resolved_ok _
  | cons first filters =>
    rw [blockValue_cons]
    refine (resolved_headValue first h.left).bind fun p => ?_
    split
    · exact resolved_ok _
    · exact resolved_runFilters p.2 p.1 filters h.right

/-- A template whose bare names all have values is never refused for a variable. -/
theorem resolved_nodesText (nodes : List Node) (h : ev.Resolves (bareNames nodes)) :
    Resolved (ev.nodesText nodes) := by
  induction nodes with
  | nil => exact resolved_ok _
  | cons n ns ih =>
    rw [bareNames, List.flatMap_cons] at h
    rw [nodesText_cons]
    have hText : Resolved (ev.nodeText n) := by
      cases n with
      | raw text => exact resolved_ok text
      | block b => exact (resolved_blockValue b h.left).map _
    exact hText.bind fun s => (ih h.right).map (s ++ ·)

theorem resolved_process {template : String}
    (h : ∀ nodes, parse template = .ok nodes → ev.Resolves (bareNames nodes)) :
    Resolved (ev.process template) := by
  rw [process_eq]
  cases hParse : parse template with
  | error fault => exact Resolved.error (hParse ▸ resolved_parse template)
  | ok nodes => exact resolved_nodesText nodes (h nodes hParse)

end Evaluator

end Shelfmark.Template
