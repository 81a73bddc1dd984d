import Shelfmark.Template.Node

/-!
# Reading the tree of a template

The grammar, over tokens:

    template  := (raw text | block)*
    block     := '{' '?'? expr ('|' expr)* '}'
    expr      := string | number | name ('(' arguments? ')')?
    arguments := expr (',' expr)*

Each function reads one phrase and hands back the tokens behind it. An error
keeps the tokens from the one that cannot go on, so its place is that of the
first of them, or the end of the source when none is left.
-/

namespace Shelfmark.Template

open Shelfmark.Text

/-- Why tokens are not a template. -/
inductive SyntaxCause where
  | unmatchedBrace
  | unexpected (value : String)
  | emptyBlock
  | unterminatedBlock
  | filterExpected
  | filterOrEndExpected
  | numberOutOfRange (digits : String)
  | argumentEndExpected (function : String)
  | greaterReserved
  | expressionExpected
  | nestedBrace
  deriving DecidableEq, Repr

/-- The wording of a cause. -/
def SyntaxCause.message : SyntaxCause → String
  | unmatchedBrace => "'\x7d' without a matching '\x7b'"
  | unexpected value => "unexpected '" ++ value ++ "'"
  | emptyBlock => "empty block"
  | unterminatedBlock => "unterminated block"
  | filterExpected => "expected an expression after '|'"
  | filterOrEndExpected => "expected '|' or '\x7d'"
  | numberOutOfRange digits => "number '" ++ digits ++ "' is out of range"
  | argumentEndExpected function => "expected ',' or ')' in call to '" ++ function ++ "'"
  | greaterReserved => "'>' is reserved"
  | expressionExpected => "expected an expression"
  | nestedBrace => "unexpected '\x7b' inside a block"

/-- A cause, and the tokens from the one at fault. -/
structure SyntaxFault where
  cause : SyntaxCause
  rest : List Lexeme
  deriving DecidableEq, Repr

/-- The place of the first lexeme, or the end of the source. -/
def placeOf (sourceEnd : Nat) : List Lexeme → Nat
  | [] => sourceEnd
  | l :: _ => l.offset

/-- The first token, if there is one. -/
def firstToken? (ls : List Lexeme) : Option Token := ls.head?.map Lexeme.token

mutual

/-- Reads an expression. Each level of nesting takes tokens, so the fuel never
runs out when it exceeds their number. -/
def readExpr : Nat → List Lexeme → Except SyntaxFault (Expr × List Lexeme)
  | 0, ls => .error ⟨.unterminatedBlock, ls⟩
  | _ + 1, [] => .error ⟨.unterminatedBlock, []⟩
  | fuel + 1, l :: ls =>
      match l.token with
      | .string content => .ok (.string content, ls)
      | .number digits =>
          match readInt64? digits.toList with
          | some n => .ok (.number n, ls)
          | none => .error ⟨.numberOutOfRange digits, l :: ls⟩
      | .identifier name =>
          if firstToken? ls = some .openParen then
            if firstToken? ls.tail = some .closeParen then .ok (.call name [], ls.tail.tail)
            else (readArguments fuel name ls.tail).map fun (args, ls) => (.call name args, ls)
          else .ok (.name name, ls)
      | .greater => .error ⟨.greaterReserved, l :: ls⟩
      | .closeBrace => .error ⟨.expressionExpected, l :: ls⟩
      | .openBrace => .error ⟨.nestedBrace, l :: ls⟩
      | token => .error ⟨.unexpected token.value, l :: ls⟩

/-- Reads the arguments of a call up to its closing parenthesis. -/
def readArguments : Nat → String → List Lexeme → Except SyntaxFault (List Expr × List Lexeme)
  | 0, _, ls => .error ⟨.unterminatedBlock, ls⟩
  | fuel + 1, function, ls =>
      match readExpr fuel ls with
      | .error fault => .error fault
      | .ok (e, ls) =>
          if firstToken? ls = some .comma then
            (readArguments fuel function ls.tail).map fun (es, ls) => (e :: es, ls)
          else if firstToken? ls = some .closeParen then .ok ([e], ls.tail)
          else .error ⟨.argumentEndExpected function, ls⟩

end

/-- Reads an expression with as much fuel as it can use. -/
def readExpression (ls : List Lexeme) : Except SyntaxFault (Expr × List Lexeme) :=
  readExpr (ls.length + 1) ls

/-- Reads the filters of a block up to its closing brace. -/
def readFilters : Nat → List Lexeme → Except SyntaxFault (List Expr × List Lexeme)
  | 0, ls => .error ⟨.unterminatedBlock, ls⟩
  | fuel + 1, ls =>
      match firstToken? ls with
      | none => .error ⟨.unterminatedBlock, ls⟩
      | some .closeBrace => .ok ([], ls.tail)
      | some .pipe =>
          let after := ls.tail
          if after.isEmpty || firstToken? after = some .closeBrace || firstToken? after = some .pipe
          then .error ⟨.filterExpected, after⟩
          else
            match readExpression after with
            | .error fault => .error fault
            | .ok (e, ls) => (readFilters fuel ls).map fun (es, ls) => (e :: es, ls)
      | some _ => .error ⟨.filterOrEndExpected, ls⟩

/-- Reads a block behind its opening brace. -/
def readBlock (ls : List Lexeme) : Except SyntaxFault (Block × List Lexeme) :=
  let optional := firstToken? ls = some .question
  let ls := if optional then ls.tail else ls
  if firstToken? ls = some .closeBrace then .error ⟨.emptyBlock, ls⟩
  else
    match readExpression ls with
    | .error fault => .error fault
    | .ok (e, ls) =>
        (readFilters (ls.length + 1) ls).map fun (es, ls) => (⟨optional, e :: es⟩, ls)

/-- Reads the pieces of a template. -/
def readNodes : Nat → List Lexeme → Except SyntaxFault (List Node)
  | _, [] => .ok []
  | 0, l :: ls => .error ⟨.unterminatedBlock, l :: ls⟩
  | fuel + 1, l :: ls =>
      match l.token with
      | .rawText text => (readNodes fuel ls).map (.raw text :: ·)
      | .openBrace =>
          match readBlock ls with
          | .error fault => .error fault
          | .ok (b, ls) => (readNodes fuel ls).map (.block b :: ·)
      | .closeBrace => .error ⟨.unmatchedBrace, l :: ls⟩
      | token => .error ⟨.unexpected token.value, l :: ls⟩

/-- The tree of a token sequence. -/
def nodesOf (ls : List Lexeme) : Except SyntaxFault (List Node) := readNodes ls.length ls

end Shelfmark.Template
