import Shelfmark.Text.Digits
import Shelfmark.Template.Token

/-!
# The tree of a label template

A template is a sequence of raw text and blocks. A block is a chain: its first
expression yields a value, the others are filters that the value runs through.

Every tree has a written form. Reading it back gives the tree again as long as
raw text, names and chains are such as can be written down at all; string
contents are free, since they are escaped.
-/

namespace Shelfmark.Template

open Shelfmark.Text

/-- An expression. A bare name is a variable or a function without arguments;
which of the two is decided when it is evaluated. -/
inductive Expr where
  | string (content : String)
  | number (value : Int64)
  | call (function : String) (arguments : List Expr)
  | name (identifier : String)
  deriving Repr, Inhabited

/-- A chain of expressions. An optional block shows nothing when its first
expression is empty. -/
structure Block where
  optional : Bool
  chain : List Expr
  deriving Repr

/-- A piece of a template. -/
inductive Node where
  | raw (text : String)
  | block (block : Block)
  deriving Repr

/-! ## Equality -/

mutual

/-- Decides whether two expressions are equal. -/
def Expr.decEq : (a b : Expr) → Decidable (a = b)
  | .string s, .string t =>
      if h : s = t then isTrue (by rw [h]) else isFalse (fun e => h (Expr.string.inj e))
  | .number m, .number n =>
      if h : m = n then isTrue (by rw [h]) else isFalse (fun e => h (Expr.number.inj e))
  | .name s, .name t =>
      if h : s = t then isTrue (by rw [h]) else isFalse (fun e => h (Expr.name.inj e))
  | .call f as, .call g bs =>
      if h : f = g then
        match Expr.decEqList as bs with
        | isTrue h' => isTrue (by rw [h, h'])
        | isFalse h' => isFalse (fun e => h' (Expr.call.inj e).2)
      else isFalse (fun e => h (Expr.call.inj e).1)
  | .string _, .number _ => isFalse nofun
  | .string _, .call _ _ => isFalse nofun
  | .string _, .name _ => isFalse nofun
  | .number _, .string _ => isFalse nofun
  | .number _, .call _ _ => isFalse nofun
  | .number _, .name _ => isFalse nofun
  | .call _ _, .string _ => isFalse nofun
  | .call _ _, .number _ => isFalse nofun
  | .call _ _, .name _ => isFalse nofun
  | .name _, .string _ => isFalse nofun
  | .name _, .number _ => isFalse nofun
  | .name _, .call _ _ => isFalse nofun

/-- Decides whether two lists of expressions are equal. -/
def Expr.decEqList : (as bs : List Expr) → Decidable (as = bs)
  | [], [] => isTrue rfl
  | [], _ :: _ => isFalse nofun
  | _ :: _, [] => isFalse nofun
  | a :: as, b :: bs =>
      match Expr.decEq a b, Expr.decEqList as bs with
      | isTrue h, isTrue h' => isTrue (by rw [h, h'])
      | isFalse h, _ => isFalse (fun e => h (List.cons.inj e).1)
      | _, isFalse h' => isFalse (fun e => h' (List.cons.inj e).2)

end

instance : DecidableEq Expr := Expr.decEq

deriving instance DecidableEq for Block

deriving instance DecidableEq for Node

/-! ## Written form -/

/-- A character inside a quoted string. -/
def escapeChar (c : Char) : List Char :=
  if c = '\\' then ['\\', '\\']
  else if c = '\'' then ['\\', '\'']
  else if c = '\n' then ['\\', 'n']
  else if c = '\r' then ['\\', 'r']
  else if c = '\t' then ['\\', 't']
  else if c = '\x08' then ['\\', 'b']
  else [c]

/-- A quoted string. -/
def quotedChars (content : String) : List Char :=
  '\'' :: content.toList.flatMap escapeChar ++ ['\'']

mutual

/-- The written form of an expression. -/
def Expr.chars : Expr → List Char
  | .string content => quotedChars content
  | .number value => intDigits value.toInt
  | .call function arguments =>
      function.toList ++ '(' :: Expr.argumentChars arguments ++ [')']
  | .name identifier => identifier.toList

/-- The written form of arguments, with a comma and a blank between them. -/
def Expr.argumentChars : List Expr → List Char
  | [] => []
  | [e] => e.chars
  | e :: es => e.chars ++ ',' :: ' ' :: Expr.argumentChars es

end

/-- The written form of a chain, with bars between its expressions. -/
def chainChars : List Expr → List Char
  | [] => []
  | [e] => e.chars
  | e :: es => e.chars ++ '|' :: chainChars es

/-- The written form of a block. -/
def Block.chars (b : Block) : List Char :=
  '\x7b' :: (if b.optional then ['?'] else []) ++ chainChars b.chain ++ ['\x7d']

/-- The written form of a piece of a template. -/
def Node.chars : Node → List Char
  | .raw text => text.toList
  | .block b => b.chars

/-- The template with the given pieces. -/
def print (nodes : List Node) : String := String.ofList (nodes.flatMap Node.chars)

end Shelfmark.Template
