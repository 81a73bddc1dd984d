import Shelfmark.Template.Builtin
import Shelfmark.Template.Grammar

/-!
# What can go wrong with a label

A template may have no tokens, no tree, or no value. The first two are faults of
the text alone and carry a place in it.
-/

namespace Shelfmark.Template

/-- Why a template gives no text. -/
inductive Fault where
  | lexical (cause : LexicalCause) (offset : Nat)
  | grammar (cause : SyntaxCause) (offset : Nat)
  | unresolvedVariable (name : String)
  | unknownFunction (name : String)
  | evaluation (function : String) («variable» : Option String) (cause : FunctionFault)
  deriving DecidableEq, Repr

/-- Whether the fault lies in the text of the template. -/
def Fault.isSyntactic : Fault → Bool
  | lexical _ _ => true
  | grammar _ _ => true
  | _ => false

/-- The wording of a fault. -/
def Fault.message : Fault → String
  | lexical cause offset => "Lexical error at offset " ++ Nat.repr offset ++ ": " ++ cause.message
  | grammar cause offset => "Syntax error at offset " ++ Nat.repr offset ++ ": " ++ cause.message
  | unresolvedVariable name => "Unresolved variable '" ++ name ++ "'"
  | unknownFunction name => "Unknown function '" ++ name ++ "'"
  | evaluation function none cause =>
      "Error calling '" ++ function ++ "': " ++ cause.message
  | evaluation function (some name) cause =>
      "Error calling '" ++ function ++ "' on variable '" ++ name ++ "': " ++ cause.message

/-- The tokens of a template. -/
def tokenize (source : String) : Except Fault (List Lexeme) :=
  match lexemes source with
  | .ok ls => .ok ls
  | .error fault => .error (.lexical fault.cause fault.offset)

/-- The tree of a template. -/
def parse (source : String) : Except Fault (List Node) :=
  match tokenize source with
  | .error fault => .error fault
  | .ok ls =>
      match nodesOf ls with
      | .ok nodes => .ok nodes
      | .error fault => .error (.grammar fault.cause (placeOf source.utf8ByteSize fault.rest))

/-- Whether a text is a template. -/
def isValid (source : String) : Bool := (parse source).isOk

end Shelfmark.Template
