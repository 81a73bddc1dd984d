import Shelfmark.Template.Evaluation

/-!
# Strict and lenient evaluators

Strictness is asked for in one place, where a name is neither variable nor function: a
strict evaluator complains and a lenient one goes on with nothing. What the lenient one
does from there on has no counterpart in the strict run, which has ended. So two runs of
one template are compared by `Relaxes`: the lenient run never complains about a variable,
and it answers as the strict run does unless that one complained. The relation is kept by
doing one thing after another, `Relaxes.bind`, and the evaluator is built from such steps.

## Main results

* `Evaluator.relaxes_nodesText` — the runs of the pieces of a template are so related.
* `Evaluator.process_lenient_eq_strict_iff` — strictness only matters for a template that
  names a variable which nothing resolves.
-/

namespace Shelfmark.Template

variable {α β : Type}

/-! ## Two answers -/

/-- Whether an answer is no complaint about a variable that nothing resolves. -/
def Resolved (answer : Except Fault α) : Prop :=
  ∀ name, answer ≠ .error (.unresolvedVariable name)

/-- How the answers of a strict and of a lenient evaluator are related: the lenient one
never complains about a variable, and where the strict one does not either, the two are
the same. -/
def Relaxes (strict lenient : Except Fault α) : Prop :=
  Resolved lenient ∧ (Resolved strict → lenient = strict)

theorem resolved_ok (a : α) : Resolved (.ok a : Except Fault α) := nofun

/-- A fault that is no complaint about a variable is none as an answer of another type. -/
theorem Resolved.error {fault : Fault} (h : Resolved (.error fault : Except Fault α)) :
    Resolved (.error fault : Except Fault β) := by
  rintro name ⟨⟩
  exact h name rfl

theorem Relaxes.refl {answer : Except Fault α} (h : Resolved answer) : Relaxes answer answer :=
  ⟨h, fun _ => rfl⟩

/-- What follows on two related answers may be related answer by answer. -/
theorem Relaxes.bind {strict lenient : Except Fault α} {f g : α → Except Fault β}
    (h : Relaxes strict lenient) (hNext : ∀ a, Relaxes (f a) (g a)) :
    Relaxes (strict.bind f) (lenient.bind g) := by
  obtain ⟨hLenient, hSame⟩ := h
  by_cases hStrict : Resolved strict
  · rw [hSame hStrict]
    cases strict with
    | ok a => exact hNext a
    | error fault => exact Relaxes.refl hStrict.error
  · -- the strict run ends with a complaint, and nothing is asked but that the other has none
    have hBound : Resolved (lenient.bind g) := by
      cases lenient with
      | ok a => exact (hNext a).1
      | error fault => exact hLenient.error
    refine ⟨hBound, fun hResolved => absurd ?_ hStrict⟩
    cases strict with
    | ok a => exact resolved_ok a
    | error fault => exact Resolved.error hResolved

theorem Relaxes.map {strict lenient : Except Fault α} (h : Relaxes strict lenient) (f : α → β) :
    Relaxes (strict.map f) (lenient.map f) := by
  have hBind : ∀ answer : Except Fault α, answer.map f = answer.bind fun a => .ok (f a) := by
    intro answer
    cases answer <;> rfl
  rw [hBind, hBind]
  exact h.bind fun a => Relaxes.refl (resolved_ok (f a))

/-! ## What strictness does not touch -/

namespace Evaluator

/-- The evaluator with its strictness set. -/
def withStrict (ev : Evaluator) (strict : Bool) : Evaluator := { ev with strict := strict }

variable (ev : Evaluator)

@[simp] theorem call?_withStrict (strict : Bool) : (ev.withStrict strict).call? = ev.call? := rfl

@[simp] theorem variableValue?_withStrict (strict : Bool) :
    (ev.withStrict strict).variableValue? = ev.variableValue? := rfl

/-- A call that fails is an evaluation that fails, never a missing variable. -/
theorem resolved_of_call? {origin : Option String} {name : String} {head : Option Value}
    {args : List Value} {answer : Except Fault Value}
    (h : ev.call? origin name head args = some answer) : Resolved answer := by
  obtain ⟨function, -, rfl⟩ := Option.map_eq_some_iff.1 h
  split <;> nofun

/-- A call answers alike in both, and where there is none to make the rest decides. -/
theorem relaxes_call {strict lenient : Except Fault Value} (h : Relaxes strict lenient)
    (origin : Option String) (name : String) (head : Option Value) (args : List Value) :
    Relaxes ((ev.call? origin name head args).getD strict)
      ((ev.call? origin name head args).getD lenient) := by
  cases hCall : ev.call? origin name head args with
  | none => exact h
  | some answer => exact Relaxes.refl (ev.resolved_of_call? hCall)

theorem relaxes_unknownFunction (name : String) :
    Relaxes (.error (.unknownFunction name) : Except Fault α) (.error (.unknownFunction name)) :=
  Relaxes.refl nofun

/-- The one place where the two differ. -/
theorem relaxes_unresolved (identifier : String) :
    Relaxes ((ev.withStrict true).unresolved identifier)
      ((ev.withStrict false).unresolved identifier) :=
  ⟨resolved_ok _, fun h => absurd rfl (h identifier)⟩

/-! ## Expressions -/

mutual

theorem relaxes_argument (origin : Option String) (e : Expr) :
    Relaxes ((ev.withStrict true).argument origin e)
      ((ev.withStrict false).argument origin e) := by
  match e with
  | .string content =>
      rw [argument, argument]
      exact Relaxes.refl (resolved_ok _)
  | .number n =>
      rw [argument, argument]
      exact Relaxes.refl (resolved_ok _)
  | .call name args =>
      rw [argument_call, argument_call]
      exact (relaxes_arguments origin args).bind fun values =>
        ev.relaxes_call (relaxes_unknownFunction name) origin name none values
  | .name identifier =>
      rw [argument, argument, variableValue?_withStrict, variableValue?_withStrict]
      cases ev.variableValue? identifier with
      | some v => exact Relaxes.refl (resolved_ok v)
      | none => exact ev.relaxes_call (ev.relaxes_unresolved identifier) origin identifier none []

theorem relaxes_arguments (origin : Option String) (es : List Expr) :
    Relaxes ((ev.withStrict true).arguments origin es)
      ((ev.withStrict false).arguments origin es) := by
  match es with
  | [] =>
      rw [arguments, arguments]
      exact Relaxes.refl (resolved_ok _)
  | e :: es =>
      rw [arguments_cons, arguments_cons]
      exact (relaxes_argument origin e).bind fun v => (relaxes_arguments origin es).map (v :: ·)

end

theorem relaxes_headValue (e : Expr) :
    Relaxes ((ev.withStrict true).headValue e) ((ev.withStrict false).headValue e) := by
  cases e with
  | name identifier =>
      rw [headValue, headValue, variableValue?_withStrict, variableValue?_withStrict]
      cases ev.variableValue? identifier with
      | some v => exact Relaxes.refl (resolved_ok _)
      | none =>
          exact (ev.relaxes_call (ev.relaxes_unresolved identifier) none identifier none []).map
            (·, none)
  | string content => exact (ev.relaxes_argument none (.string content)).map (·, none)
  | number n => exact (ev.relaxes_argument none (.number n)).map (·, none)
  | call name args => exact (ev.relaxes_argument none (.call name args)).map (·, none)

theorem relaxes_filterValue (origin : Option String) (head : Value) (e : Expr) :
    Relaxes ((ev.withStrict true).filterValue origin head e)
      ((ev.withStrict false).filterValue origin head e) := by
  cases e with
  | string content => exact Relaxes.refl (resolved_ok _)
  | number n => exact Relaxes.refl (resolved_ok _)
  | call name args =>
      rw [filterValue_call, filterValue_call]
      exact (ev.relaxes_arguments origin args).bind fun values =>
        ev.relaxes_call (relaxes_unknownFunction name) origin name (some head) values
  | name identifier =>
      -- a filter is no place for a missing variable: both evaluators do the very same
      rw [filterValue, filterValue, call?_withStrict, call?_withStrict,
        variableValue?_withStrict, variableValue?_withStrict]
      cases hCall : ev.call? origin identifier (some head) [] with
      | some answer => exact Relaxes.refl (ev.resolved_of_call? hCall)
      | none =>
          cases ev.variableValue? identifier with
          | some v => exact Relaxes.refl (resolved_ok v)
          | none => exact relaxes_unknownFunction identifier

/-! ## Blocks and templates -/

theorem relaxes_runFilters (origin : Option String) (v : Value) (es : List Expr) :
    Relaxes ((ev.withStrict true).runFilters origin v es)
      ((ev.withStrict false).runFilters origin v es) := by
  induction es generalizing v with
  | nil => exact Relaxes.refl (resolved_ok v)
  | cons e es ih =>
      rw [runFilters_cons, runFilters_cons]
      exact (ev.relaxes_filterValue origin v e).bind ih

theorem relaxes_blockValue (b : Block) :
    Relaxes ((ev.withStrict true).blockValue b) ((ev.withStrict false).blockValue b) := by
  obtain ⟨optional, chain⟩ := b
  cases chain with
  | nil => exact Relaxes.refl (resolved_ok _)
  | cons first filters =>
      rw [blockValue_cons, blockValue_cons]
      refine (ev.relaxes_headValue first).bind fun p => ?_
      split
      · exact Relaxes.refl (resolved_ok _)
      · exact ev.relaxes_runFilters p.2 p.1 filters

theorem relaxes_nodeText (n : Node) :
    Relaxes ((ev.withStrict true).nodeText n) ((ev.withStrict false).nodeText n) := by
  cases n with
  | raw text => exact Relaxes.refl (resolved_ok text)
  | block b => exact (ev.relaxes_blockValue b).map _

theorem relaxes_nodesText (nodes : List Node) :
    Relaxes ((ev.withStrict true).nodesText nodes) ((ev.withStrict false).nodesText nodes) := by
  induction nodes with
  | nil => exact Relaxes.refl (resolved_ok _)
  | cons n ns ih =>
      rw [nodesText_cons, nodesText_cons]
      exact (ev.relaxes_nodeText n).bind fun s => ih.map (s ++ ·)

/-- A text that is no template is refused for its form. -/
theorem resolved_parse (template : String) : Resolved (parse template) := by
  intro name h
  unfold parse tokenize at h
  split at h
  · rename_i hTokens
    split at hTokens
    · cases hTokens
    · cases hTokens
      cases h
  · split at h <;> cases h

theorem relaxes_process (template : String) :
    Relaxes ((ev.withStrict true).process template) ((ev.withStrict false).process template) := by
  rw [process_eq, process_eq]
  exact (Relaxes.refl (resolved_parse template)).bind ev.relaxes_nodesText

/-- **Strictness only matters for unresolved variables.** Of two evaluators that differ in
nothing but strictness, the lenient one gives what the strict one gives, text or fault, just
when the strict one does not complain about a variable, and it never does so itself. -/
theorem process_lenient_eq_strict_iff (template : String) :
    ((ev.withStrict false).process template = (ev.withStrict true).process template ↔
        ∀ name, (ev.withStrict true).process template ≠ .error (.unresolvedVariable name)) ∧
      ∀ name, (ev.withStrict false).process template ≠ .error (.unresolvedVariable name) := by
  obtain ⟨hLenient, hSame⟩ := ev.relaxes_process template
  refine ⟨⟨fun hEq => ?_, hSame⟩, hLenient⟩
  rw [← hEq]
  exact hLenient

end Evaluator

end Shelfmark.Template
