import Mathlib.Data.List.Forall2
import Shelfmark.Proofs.Text.Lowering
import Shelfmark.Template.Evaluation

/-!
# Names in another case

The case of names does not count, but what is a name depends on what it is looked up as. As a
variable the part in front of `#` is lowered and what follows is handed on as it stands; as a
function all of it is lowered. A bare name may be looked up as both, in an order that depends on
where it stands. So two bare names mean the same if they are the same variable name, and then
they are the same function name too: a capital sigma in front of `#` is lowered to its final form
whether the name ends there or goes on. And they mean the same if they are no more than the same
function name, as long as that is what they are looked up as.

Which of the two a name is can only be told with an evaluator, so `Evaluator.Respells` is about
one. What two runs answer is compared by `Alike`, which does not see the case of the names in
faults and is kept by doing one thing after another.

## Main results

* `Evaluator.lowercase_eq_of_splitSpecifier` — a variable name is a function name.
* `Evaluator.process_respelled` — templates in which names are spelled differently give the same
  text, whatever the spelling under which functions were registered.
-/

namespace Shelfmark.Template

open Shelfmark.Text

variable {α β γ δ : Type}

/-! ## Faults that name the same -/

/-- The fault with the name that it reports in lower case. -/
def Fault.lowered : Fault → Fault
  | .unresolvedVariable name => .unresolvedVariable (lowercase name)
  | .unknownFunction name => .unknownFunction (lowercase name)
  | .evaluation function origin cause => .evaluation function (origin.map lowercase) cause
  | fault => fault

/-- Whether two answers are both values, related by `same`, or both faults that differ only in
the case of a name. -/
inductive Alike (same : α → β → Prop) : Except Fault α → Except Fault β → Prop where
  | ok {a : α} {b : β} (h : same a b) : Alike same (.ok a) (.ok b)
  | error {x y : Fault} (h : x.lowered = y.lowered) : Alike same (.error x) (.error y)

namespace Alike

theorem refl (answer : Except Fault α) : Alike Eq answer answer := by
  cases answer with
  | ok a => exact .ok rfl
  | error fault => exact .error rfl

/-- What follows on two answers is alike if it is for values that are related. -/
theorem bind {same : α → β → Prop} {same' : γ → δ → Prop} {x : Except Fault α}
    {y : Except Fault β} {f : α → Except Fault γ} {g : β → Except Fault δ} (h : Alike same x y)
    (hNext : ∀ a b, same a b → Alike same' (f a) (g b)) : Alike same' (x.bind f) (y.bind g) := by
  cases h with
  | ok hSame => exact hNext _ _ hSame
  | error hFault => exact .error hFault

theorem map {same : α → β → Prop} {same' : γ → δ → Prop} {x : Except Fault α}
    {y : Except Fault β} {f : α → γ} {g : β → δ} (h : Alike same x y)
    (hNext : ∀ a b, same a b → same' (f a) (g b)) : Alike same' (x.map f) (y.map g) := by
  cases h with
  | ok hSame => exact .ok (hNext _ _ hSame)
  | error hFault => exact .error hFault

/-- Values that are equal and faults that differ in the case of a name: just this is seen if
all faults are lowered. -/
theorem mapError_eq {x y : Except Fault α} (h : Alike Eq x y) :
    x.mapError Fault.lowered = y.mapError Fault.lowered := by
  cases h with
  | ok hSame =>
    cases hSame
    rfl
  | error hFault => exact congrArg Except.error hFault

end Alike

namespace Evaluator

/-! ## Variable names and function names -/

/-- A name in lower case is that of its variable, and what follows in lower case. -/
theorem lowercase_eq_splitSpecifier (identifier : String) :
    lowercase identifier = (splitSpecifier identifier).1 ++
      (splitSpecifier identifier).2.elim "" fun specifier => "#" ++ lowercase specifier := by
  have hParts := List.takeWhile_append_dropWhile (p := (· != '#')) (l := identifier.toList)
  have hFirst := List.head?_dropWhile_not (· != '#') identifier.toList
  unfold splitSpecifier
  dsimp only
  generalize hName : identifier.toList.takeWhile (· != '#') = name at hParts ⊢
  cases hRest : identifier.toList.dropWhile (· != '#') with
  | nil =>
    rw [hRest, List.append_nil] at hParts
    simp [lowercase, hParts]
  | cons c specifier =>
    rw [hRest] at hParts hFirst
    obtain rfl : c = '#' := by simpa using hFirst
    rw [lowercase, ← hParts, lowerFrom_mark]
    simp [lowercase]

/-- The same variable name is the same function name. -/
theorem lowercase_eq_of_splitSpecifier {a b : String} (h : splitSpecifier a = splitSpecifier b) :
    lowercase a = lowercase b := by
  rw [lowercase_eq_splitSpecifier a, lowercase_eq_splitSpecifier b, h]

/-! ## Templates that spell names differently -/

variable (ev : Evaluator)

mutual

/-- Whether two expressions into which no value flows differ only in the case of names. There a
bare name is a function only if it is no variable. -/
inductive Respells : Expr → Expr → Prop where
  | string (content : String) : Respells (.string content) (.string content)
  | number (n : Int64) : Respells (.number n) (.number n)
  | call {f g : String} {as bs : List Expr} (hName : lowercase f = lowercase g)
      (hArgs : RespellsAll as bs) : Respells (.call f as) (.call g bs)
  | sameVariable {a b : String} (h : splitSpecifier a = splitSpecifier b) :
      Respells (.name a) (.name b)
  | sameFunction {a b : String} (h : lowercase a = lowercase b) (ha : ev.variableValue? a = none)
      (hb : ev.variableValue? b = none) : Respells (.name a) (.name b)

/-- Whether the expressions of two lists differ, one by one, only in the case of names. -/
inductive RespellsAll : List Expr → List Expr → Prop where
  | nil : RespellsAll [] []
  | cons {a b : Expr} {as bs : List Expr} (hHead : Respells a b) (hRest : RespellsAll as bs) :
      RespellsAll (a :: as) (b :: bs)

end

/-- Whether two filters differ only in the case of names. There a bare name is a function if
there is one, and what is no variable either is taken for one that is not known. -/
inductive RespellsFilter : Expr → Expr → Prop where
  | string (content : String) : RespellsFilter (.string content) (.string content)
  | number (n : Int64) : RespellsFilter (.number n) (.number n)
  | call {f g : String} {as bs : List Expr} (hName : lowercase f = lowercase g)
      (hArgs : ev.RespellsAll as bs) : RespellsFilter (.call f as) (.call g bs)
  | sameVariable {a b : String} (h : splitSpecifier a = splitSpecifier b) :
      RespellsFilter (.name a) (.name b)
  | sameFunction {a b : String} (h : lowercase a = lowercase b)
      (hFound : (ev.function? (lowercase a)).isSome) : RespellsFilter (.name a) (.name b)
  | notVariable {a b : String} (h : lowercase a = lowercase b) (ha : ev.variableValue? a = none)
      (hb : ev.variableValue? b = none) : RespellsFilter (.name a) (.name b)

/-- Whether two chains differ only in the case of names. -/
inductive RespellsChain : List Expr → List Expr → Prop where
  | nil : RespellsChain [] []
  | cons {a b : Expr} {as bs : List Expr} (hFirst : ev.Respells a b)
      (hFilters : List.Forall₂ ev.RespellsFilter as bs) : RespellsChain (a :: as) (b :: bs)

/-- Whether two pieces of templates differ only in the case of names. -/
inductive RespellsNode : Node → Node → Prop where
  | raw (text : String) : RespellsNode (.raw text) (.raw text)
  | block (optional : Bool) {as bs : List Expr} (h : ev.RespellsChain as bs) :
      RespellsNode (.block ⟨optional, as⟩) (.block ⟨optional, bs⟩)

variable {ev}

/-! ## Names -/

theorem variableValue?_respelled {a b : String} (h : splitSpecifier a = splitSpecifier b) :
    ev.variableValue? a = ev.variableValue? b := by
  unfold variableValue?
  rw [h]

/-- A function is found by its name in lower case, and faults have that name. -/
theorem alike_call {f g : String} (h : lowercase f = lowercase g) {origin origin' : Option String}
    (hOrigin : origin.map lowercase = origin'.map lowercase) {x y : Except Fault Value}
    (hNone : ev.function? (lowercase f) = none → Alike Eq x y) (head : Option Value)
    (args : List Value) :
    Alike Eq ((ev.call? origin f head args).getD x) ((ev.call? origin' g head args).getD y) := by
  unfold call?
  rw [← h]
  dsimp only
  cases hFound : ev.function? (lowercase f) with
  | none => exact hNone hFound
  | some function =>
    dsimp only [Option.map_some, Option.getD_some]
    cases function head args with
    | ok v => exact .ok rfl
    | error cause => exact .error (by simp only [Fault.lowered, hOrigin])

theorem alike_unknownFunction {a b : String} (h : lowercase a = lowercase b) :
    Alike Eq (.error (.unknownFunction a) : Except Fault α) (.error (.unknownFunction b)) :=
  .error (by simp only [Fault.lowered, h])

theorem alike_unresolved {a b : String} (h : lowercase a = lowercase b) :
    Alike Eq (ev.unresolved a) (ev.unresolved b) := by
  unfold unresolved
  split
  · exact .error (by simp only [Fault.lowered, h])
  · exact .ok rfl

/-- Bare names that are the same function name and give the same as variables. -/
theorem alike_bareName {a b : String} (h : lowercase a = lowercase b)
    (hValue : ev.variableValue? a = ev.variableValue? b) {origin origin' : Option String}
    (hOrigin : origin.map lowercase = origin'.map lowercase) :
    Alike Eq (ev.argument origin (.name a)) (ev.argument origin' (.name b)) := by
  rw [argument, argument, ← hValue]
  cases ev.variableValue? a with
  | some v => exact .ok rfl
  | none => exact alike_call h hOrigin (fun _ => alike_unresolved h) none []

/-- As filters they need to give the same as variables only if there is no such function. -/
theorem alike_namedFilter {a b : String} (h : lowercase a = lowercase b)
    {origin origin' : Option String} (hOrigin : origin.map lowercase = origin'.map lowercase)
    (hValue : ev.variableValue? a = ev.variableValue? b ∨ (ev.function? (lowercase a)).isSome)
    (head : Value) :
    Alike Eq (ev.filterValue origin head (.name a)) (ev.filterValue origin' head (.name b)) := by
  have hFilter : ∀ origin name, ev.filterValue origin head (.name name) =
      (ev.call? origin name (some head) []).getD
        ((ev.variableValue? name).elim (.error (.unknownFunction name)) .ok) := by
    intro origin name
    rw [filterValue]
    cases ev.call? origin name (some head) [] with
    | some answer => rfl
    | none => cases ev.variableValue? name <;> rfl
  rw [hFilter, hFilter]
  refine alike_call h hOrigin (fun hNone => ?_) (some head) []
  rw [hValue.resolve_right (by rw [hNone]; decide)]
  cases ev.variableValue? b with
  | some v => exact .ok rfl
  | none => exact alike_unknownFunction h

/-! ## Expressions -/

/-- Bare names where no value flows in are the same function name and the same as variables. -/
theorem Respells.names {a b : String} (h : ev.Respells (.name a) (.name b)) :
    lowercase a = lowercase b ∧ ev.variableValue? a = ev.variableValue? b := by
  cases h with
  | sameVariable h => exact ⟨lowercase_eq_of_splitSpecifier h, variableValue?_respelled h⟩
  | sameFunction h ha hb => exact ⟨h, ha.trans hb.symm⟩

mutual

theorem argument_respelled {origin origin' : Option String}
    (hOrigin : origin.map lowercase = origin'.map lowercase) {e e' : Expr}
    (h : ev.Respells e e') : Alike Eq (ev.argument origin e) (ev.argument origin' e') := by
  match e, e', h with
  | _, _, .string content =>
    rw [argument, argument]
    exact .ok rfl
  | _, _, .number n =>
    rw [argument, argument]
    exact .ok rfl
  | .call f as, .call g bs, .call hName hArgs =>
    rw [argument_call, argument_call]
    refine (arguments_respelled hOrigin hArgs).bind ?_
    rintro values _ rfl
    exact alike_call hName hOrigin (fun _ => alike_unknownFunction hName) none values
  | .name a, .name b, h => exact alike_bareName h.names.1 h.names.2 hOrigin

theorem arguments_respelled {origin origin' : Option String}
    (hOrigin : origin.map lowercase = origin'.map lowercase) {es es' : List Expr}
    (h : ev.RespellsAll es es') : Alike Eq (ev.arguments origin es) (ev.arguments origin' es') := by
  match es, es', h with
  | _, _, .nil =>
    rw [arguments, arguments]
    exact .ok rfl
  | e :: es, e' :: es', .cons hHead hRest =>
    rw [arguments_cons, arguments_cons]
    refine (argument_respelled hOrigin hHead).bind ?_
    rintro v _ rfl
    refine (arguments_respelled hOrigin hRest).map ?_
    rintro values _ rfl
    rfl

end

/-- In front of a chain the variable is remembered as it is spelled. -/
theorem headValue_respelled {e e' : Expr} (h : ev.Respells e e') :
    Alike (fun p q => p.1 = q.1 ∧ p.2.map lowercase = q.2.map lowercase) (ev.headValue e)
      (ev.headValue e') := by
  have hUnnamed : Alike (fun p q => p.1 = q.1 ∧ p.2.map lowercase = q.2.map lowercase)
      ((ev.argument none e).map (·, none)) ((ev.argument none e').map (·, none)) :=
    (argument_respelled rfl h).map fun _ _ hSame => ⟨hSame, rfl⟩
  match e, e', h with
  | _, _, .string content => exact hUnnamed
  | _, _, .number n => exact hUnnamed
  | _, _, .call hName hArgs => exact hUnnamed
  | .name a, .name b, h =>
    obtain ⟨hName, hValue⟩ := h.names
    rw [headValue, headValue, ← hValue]
    cases ev.variableValue? a with
    | some v => exact .ok ⟨rfl, by simp only [Option.map_some, hName]⟩
    | none =>
      exact (alike_call hName rfl (fun _ => alike_unresolved hName) none []).map
        fun _ _ hSame => ⟨hSame, rfl⟩

/-! ## Filters -/

theorem filterValue_respelled {origin origin' : Option String}
    (hOrigin : origin.map lowercase = origin'.map lowercase) (head : Value) {e e' : Expr}
    (h : ev.RespellsFilter e e') :
    Alike Eq (ev.filterValue origin head e) (ev.filterValue origin' head e') := by
  cases h with
  | string content => exact .ok rfl
  | number n => exact .ok rfl
  | call hName hArgs =>
    rw [filterValue_call, filterValue_call]
    refine (arguments_respelled hOrigin hArgs).bind ?_
    rintro values _ rfl
    exact alike_call hName hOrigin (fun _ => alike_unknownFunction hName) (some head) values
  | sameVariable h =>
    exact alike_namedFilter (lowercase_eq_of_splitSpecifier h) hOrigin
      (.inl (variableValue?_respelled h)) head
  | sameFunction h hFound => exact alike_namedFilter h hOrigin (.inr hFound) head
  | notVariable h ha hb => exact alike_namedFilter h hOrigin (.inl (ha.trans hb.symm)) head

theorem runFilters_respelled {origin origin' : Option String}
    (hOrigin : origin.map lowercase = origin'.map lowercase) {es es' : List Expr}
    (h : List.Forall₂ ev.RespellsFilter es es') (v : Value) :
    Alike Eq (ev.runFilters origin v es) (ev.runFilters origin' v es') := by
  induction h generalizing v with
  | nil => exact .ok rfl
  | cons hHead _ ih =>
    rw [runFilters_cons, runFilters_cons]
    refine (filterValue_respelled hOrigin v hHead).bind ?_
    rintro v _ rfl
    exact ih v

/-! ## Templates -/

theorem blockValue_respelled (optional : Bool) {es es' : List Expr} (h : ev.RespellsChain es es') :
    Alike Eq (ev.blockValue ⟨optional, es⟩) (ev.blockValue ⟨optional, es'⟩) := by
  cases h with
  | nil => exact .ok rfl
  | cons hFirst hFilters =>
    rw [blockValue_cons, blockValue_cons]
    refine (headValue_respelled hFirst).bind ?_
    rintro ⟨v, origin⟩ ⟨_, origin'⟩ ⟨rfl, hOrigin⟩
    dsimp only
    split
    · exact .ok rfl
    · exact runFilters_respelled hOrigin hFilters v

theorem nodesText_respelled {ns ns' : List Node} (h : List.Forall₂ ev.RespellsNode ns ns') :
    Alike Eq (ev.nodesText ns) (ev.nodesText ns') := by
  induction h with
  | nil => exact .ok rfl
  | cons hHead _ ih =>
    have hText : ∀ {n n'}, ev.RespellsNode n n' → Alike Eq (ev.nodeText n) (ev.nodeText n') := by
      rintro _ _ (text | ⟨optional, hChain⟩)
      · exact .ok rfl
      · exact (blockValue_respelled optional hChain).map fun _ _ hSame => by rw [hSame]
    rw [nodesText_cons, nodesText_cons]
    refine (hText hHead).bind ?_
    rintro s _ rfl
    refine ih.map ?_
    rintro u _ rfl
    rfl

/-! ## Registered functions -/

/-- The evaluator with functions registered one after another. -/
def register (ev : Evaluator) (functions : List (String × Function)) : Evaluator :=
  functions.foldl (fun ev p => ev.addFunction p.1 p.2) ev

/-- Nothing is left of the spelling under which a function was registered. -/
theorem register_respelled (ev : Evaluator) {functions functions' : List (String × Function)}
    (h : List.Forall₂ (fun p q => lowercase p.1 = lowercase q.1 ∧ p.2 = q.2) functions functions') :
    ev.register functions = ev.register functions' := by
  induction h generalizing ev with
  | nil => rfl
  | cons hHead _ ih =>
    have hAdd : ∀ {p q : String × Function}, lowercase p.1 = lowercase q.1 ∧ p.2 = q.2 →
        ev.addFunction p.1 p.2 = ev.addFunction q.1 q.2 := by
      rintro p q ⟨hName, hFunction⟩
      rw [addFunction, addFunction, hName, hFunction]
    rw [register, register, List.foldl_cons, List.foldl_cons, hAdd hHead]
    exact ih _

/-- **The case of names does not count.** Templates that differ only in the case of names give
the same text, or the same fault up to the case of the name in it; and it makes no difference if
the functions were registered under names in another case. -/
theorem process_respelled (ev : Evaluator) {functions functions' : List (String × Function)}
    (hNames : List.Forall₂ (fun p q => lowercase p.1 = lowercase q.1 ∧ p.2 = q.2)
      functions functions')
    {template template' : String} {nodes nodes' : List Node}
    (hParse : parse template = .ok nodes) (hParse' : parse template' = .ok nodes')
    (h : List.Forall₂ (ev.register functions).RespellsNode nodes nodes') :
    ((ev.register functions).process template).mapError Fault.lowered =
      ((ev.register functions').process template').mapError Fault.lowered := by
  rw [← ev.register_respelled hNames, process_eq, process_eq, hParse, hParse']
  exact (nodesText_respelled h).mapError_eq

/-- A title with what was asked of it, and a function that calls it out. -/
private def titleEvaluator : Evaluator where
  resolvers := [fun name specifier =>
    if name = "title" then some (.text ("it" ++ specifier.getD "")) else none]
  strict := true

private def exclaim : Function := fun head _ =>
  .ok (.text ((head.map Value.display).getD "" ++ "!"))

/-- A variable keeps the case behind `#`, a function does not, and a fault tells a name as the
template spells it. -/
theorem process_respelled_exclaim :
    ((titleEvaluator.register [("CALL#out", exclaim)]).process "\x7bTitle#Sort | Call#Out\x7d" =
        .ok "itSort!" ∧
      (titleEvaluator.register [("call#OUT", exclaim)]).process "\x7btITLE#Sort | cALL#oUT\x7d" =
        .ok "itSort!") ∧
    (titleEvaluator.register [("CALL#out", exclaim)]).process "\x7bCall#Out(Label)\x7d" =
        .error (.unresolvedVariable "Label") ∧
      ((titleEvaluator.register [("call#OUT", exclaim)]).process "\x7bcall#out(LABEL)\x7d").mapError
        Fault.lowered = .error (.unresolvedVariable "label") := by
  have hNames : List.Forall₂
      (fun p q : String × Function => lowercase p.1 = lowercase q.1 ∧ p.2 = q.2)
      [("CALL#out", exclaim)] [("call#OUT", exclaim)] := .cons ⟨by decide +kernel, rfl⟩ .nil
  have hText : (titleEvaluator.register [("CALL#out", exclaim)]).process
      "\x7bTitle#Sort | Call#Out\x7d" = .ok "itSort!" := by decide +kernel
  have hFault : (titleEvaluator.register [("CALL#out", exclaim)]).process
      "\x7bCall#Out(Label)\x7d" = .error (.unresolvedVariable "Label") := by decide +kernel
  have hFound : ((titleEvaluator.register [("CALL#out", exclaim)]).function?
      (lowercase "Call#Out")).isSome := by decide +kernel
  have hTitle : parse "\x7bTitle#Sort | Call#Out\x7d" =
      .ok [.block ⟨false, [.name "Title#Sort", .name "Call#Out"]⟩] := by decide +kernel
  have hTitle' : parse "\x7btITLE#Sort | cALL#oUT\x7d" =
      .ok [.block ⟨false, [.name "tITLE#Sort", .name "cALL#oUT"]⟩] := by decide +kernel
  have hTexts := titleEvaluator.process_respelled hNames hTitle hTitle'
    (.cons (.block false (.cons (.sameVariable (by decide +kernel))
      (.cons (.sameFunction (by decide +kernel) hFound) .nil))) .nil)
  have hLabel : parse "\x7bCall#Out(Label)\x7d" =
      .ok [.block ⟨false, [.call "Call#Out" [.name "Label"]]⟩] := by decide +kernel
  have hLabel' : parse "\x7bcall#out(LABEL)\x7d" =
      .ok [.block ⟨false, [.call "call#out" [.name "LABEL"]]⟩] := by decide +kernel
  have hFaults := titleEvaluator.process_respelled hNames hLabel hLabel'
    (.cons (.block false (.cons (.call (by decide +kernel)
      (.cons (.sameVariable (by decide +kernel)) .nil)) .nil)) .nil)
  rw [hText] at hTexts
  rw [hFault] at hFaults
  refine ⟨⟨hText, ?_⟩, hFault, hFaults.symm.trans (by decide +kernel)⟩
  cases hOther : (titleEvaluator.register [("call#OUT", exclaim)]).process
      "\x7btITLE#Sort | cALL#oUT\x7d" with
  | ok text =>
    rw [hOther] at hTexts
    cases hTexts
    rfl
  | error fault =>
    rw [hOther] at hTexts
    cases hTexts

end Evaluator

end Shelfmark.Template
