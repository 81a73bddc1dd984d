import Shelfmark.Template.Fault

/-!
# Evaluating a label

An evaluator knows where variables come from, which functions were registered
beside the stock ones, and the conventions for showing values. Names count
without regard to case: the part of an identifier before `#` names the variable,
what follows is handed to its source as it stands.

A bare name in front of a chain or among arguments is a variable first and a
function second; as a filter it is a function first. A variable that nothing
resolves is empty, or an error when the evaluator is strict.
-/

namespace Shelfmark.Template

open Shelfmark.Text
open Shelfmark.Calendar

/-- A source of variables: from a lower-case name and what followed `#` to a value. -/
abbrev Resolver := String → Option String → Option Value

/-- A registered function: from the value so far, if used as a filter, and the
arguments to a result. -/
abbrev Function := Option Value → List Value → FunctionResult

/-- The sources and conventions by which templates are evaluated. Of two functions
registered under one name the last counts. -/
structure Evaluator where
  resolvers : List Resolver
  functions : List (String × Function) := []
  strict : Bool := false
  listSeparator : String := defaultListSeparator
  dateFormat : String := defaultDateFormat
  clock : Moment := Moment.epoch

namespace Evaluator

/-- Adds a source, to be asked after those before it. -/
def addResolver (ev : Evaluator) (resolver : Resolver) : Evaluator :=
  { ev with resolvers := ev.resolvers ++ [resolver] }

/-- Registers a function; it shadows stock functions and earlier ones of its name. -/
def addFunction (ev : Evaluator) (name : String) (function : Function) : Evaluator :=
  { ev with functions := (lowercase name, function) :: ev.functions }

/-- The name of a variable in lower case, and what follows the first `#`. -/
def splitSpecifier (identifier : String) : String × Option String :=
  let cs := identifier.toList
  let name := lowercase (String.ofList (cs.takeWhile (· != '#')))
  match cs.dropWhile (· != '#') with
  | [] => (name, none)
  | _ :: specifier => (name, some (String.ofList specifier))

/-- The first value among those that the sources give; a null is passed over. -/
def firstValue (resolvers : List Resolver) (name : String) (specifier : Option String) :
    Option Value :=
  resolvers.findSome? fun resolver =>
    match resolver name specifier with
    | some v => if v.isNull then none else some v
    | none => none

/-- The value of a variable. -/
def variableValue? (ev : Evaluator) (identifier : String) : Option Value :=
  let (name, specifier) := splitSpecifier identifier
  firstValue ev.resolvers name specifier

/-- The value of a name that is neither variable nor function. -/
def unresolved (ev : Evaluator) (identifier : String) : Except Fault Value :=
  if ev.strict then .error (.unresolvedVariable identifier) else .ok .null

/-- The function with a name, in lower case. -/
def function? (ev : Evaluator) (key : String) : Option Function :=
  match ev.functions.lookup key with
  | some function => some function
  | none =>
      (Builtin.ofName? key).map fun b => fun head args => b.call ev.clock (withHead head args)

/-- The result of a call, or `none` when no function has the name. Errors name the
variable that the block started from. -/
def call? (ev : Evaluator) (origin : Option String) (name : String) (head : Option Value)
    (args : List Value) : Option (Except Fault Value) :=
  let key := lowercase name
  (ev.function? key).map fun function =>
    match function head args with
    | .ok v => .ok v
    | .error cause => .error (.evaluation key origin cause)

mutual

/-- The value of an expression into which no value flows. -/
def argument (ev : Evaluator) (origin : Option String) : Expr → Except Fault Value
  | .string content => .ok (.text content)
  | .number n => .ok (.ofInt64 n)
  | .call name args =>
      match ev.arguments origin args with
      | .error fault => .error fault
      | .ok values => (ev.call? origin name none values).getD (.error (.unknownFunction name))
  | .name identifier =>
      match ev.variableValue? identifier with
      | some v => .ok v
      | none => (ev.call? origin identifier none []).getD (ev.unresolved identifier)

/-- The values of arguments, from left to right. -/
def arguments (ev : Evaluator) (origin : Option String) : List Expr → Except Fault (List Value)
  | [] => .ok []
  | e :: es =>
      match ev.argument origin e with
      | .error fault => .error fault
      | .ok v => (ev.arguments origin es).map (v :: ·)

end

/-- The value of the first expression of a block, and the variable it started from. -/
def headValue (ev : Evaluator) : Expr → Except Fault (Value × Option String)
  | .name identifier =>
      match ev.variableValue? identifier with
      | some v => .ok (v, some identifier)
      | none =>
          ((ev.call? none identifier none []).getD (ev.unresolved identifier)).map (·, none)
  | e => (ev.argument none e).map (·, none)

/-- The value of a filter that `head` runs through. -/
def filterValue (ev : Evaluator) (origin : Option String) (head : Value) :
    Expr → Except Fault Value
  | .call name args =>
      match ev.arguments origin args with
      | .error fault => .error fault
      | .ok values =>
          (ev.call? origin name (some head) values).getD (.error (.unknownFunction name))
  | .name identifier =>
      match ev.call? origin identifier (some head) [] with
      | some result => result
      | none =>
          match ev.variableValue? identifier with
          | some v => .ok v
          | none => .error (.unknownFunction identifier)
  | .string content => .ok (.text content)
  | .number n => .ok (.ofInt64 n)

/-- The value after running through filters. -/
def runFilters (ev : Evaluator) (origin : Option String) : Value → List Expr → Except Fault Value
  | v, [] => .ok v
  | v, e :: es =>
      match ev.filterValue origin v e with
      | .error fault => .error fault
      | .ok v => ev.runFilters origin v es

/-- The value of a block. An optional block whose first expression is empty runs
through no filters. -/
def blockValue (ev : Evaluator) (b : Block) : Except Fault Value :=
  match b.chain with
  | [] => .ok .null
  | first :: filters =>
      match ev.headValue first with
      | .error fault => .error fault
      | .ok (v, origin) =>
          if b.optional && v.isEmpty then .ok .null else ev.runFilters origin v filters

/-- The text of a piece of a template. -/
def nodeText (ev : Evaluator) : Node → Except Fault String
  | .raw text => .ok text
  | .block b => (ev.blockValue b).map (Value.render ev.listSeparator ev.dateFormat)

/-- The text of the pieces of a template, from left to right. -/
def nodesText (ev : Evaluator) : List Node → Except Fault String
  | [] => .ok ""
  | n :: ns =>
      match ev.nodeText n with
      | .error fault => .error fault
      | .ok s => (ev.nodesText ns).map (s ++ ·)

/-- The text that a template gives. -/
def process (ev : Evaluator) (template : String) : Except Fault String :=
  match parse template with
  | .error fault => .error fault
  | .ok nodes => ev.nodesText nodes

/-! ## One thing after another -/

variable (ev : Evaluator)

/-- Arguments are evaluated before the function that takes them is called. -/
theorem argument_call (origin : Option String) (name : String) (args : List Expr) :
    ev.argument origin (.call name args) =
      (ev.arguments origin args).bind fun values =>
        (ev.call? origin name none values).getD (.error (.unknownFunction name)) := by
  rw [argument]
  cases ev.arguments origin args <;> rfl

/-- Arguments are evaluated from left to right. -/
theorem arguments_cons (origin : Option String) (e : Expr) (es : List Expr) :
    ev.arguments origin (e :: es) =
      (ev.argument origin e).bind fun v => (ev.arguments origin es).map (v :: ·) := by
  rw [arguments]
  cases ev.argument origin e <;> rfl

/-- The arguments of a filter are evaluated before it is called. -/
theorem filterValue_call (origin : Option String) (head : Value) (name : String)
    (args : List Expr) :
    ev.filterValue origin head (.call name args) =
      (ev.arguments origin args).bind fun values =>
        (ev.call? origin name (some head) values).getD (.error (.unknownFunction name)) := by
  rw [filterValue]
  cases ev.arguments origin args <;> rfl

/-- Filters are run from left to right. -/
theorem runFilters_cons (origin : Option String) (v : Value) (e : Expr) (es : List Expr) :
    ev.runFilters origin v (e :: es) =
      (ev.filterValue origin v e).bind fun v => ev.runFilters origin v es := by
  rw [runFilters]
  cases ev.filterValue origin v e <;> rfl

/-- The first expression of a block decides whether the filters are run. -/
theorem blockValue_cons (optional : Bool) (first : Expr) (filters : List Expr) :
    ev.blockValue ⟨optional, first :: filters⟩ =
      (ev.headValue first).bind fun p =>
        if optional && p.1.isEmpty then .ok .null else ev.runFilters p.2 p.1 filters := by
  unfold blockValue
  dsimp only
  cases ev.headValue first <;> rfl

/-- Pieces are evaluated from left to right. -/
theorem nodesText_cons (n : Node) (ns : List Node) :
    ev.nodesText (n :: ns) = (ev.nodeText n).bind fun s => (ev.nodesText ns).map (s ++ ·) := by
  rw [nodesText]
  cases ev.nodeText n <;> rfl

theorem nodesText_append (ms ns : List Node) :
    ev.nodesText (ms ++ ns) =
      (ev.nodesText ms).bind fun s => (ev.nodesText ns).map (s ++ ·) := by
  induction ms with
  | nil =>
      show ev.nodesText ns = (ev.nodesText ns).map ("" ++ ·)
      cases ev.nodesText ns with
      | error fault => rfl
      | ok s => simp [Except.map]
  | cons n ms ih =>
      rw [List.cons_append, nodesText_cons, nodesText_cons, ih]
      cases ev.nodeText n with
      | error fault => rfl
      | ok s =>
          cases ev.nodesText ms with
          | error fault => rfl
          | ok u => cases ev.nodesText ns <;> simp [Except.bind, Except.map, String.append_assoc]

theorem process_eq (template : String) :
    ev.process template = (parse template).bind ev.nodesText := by
  rw [process]
  cases parse template <;> rfl

end Evaluator

end Shelfmark.Template
