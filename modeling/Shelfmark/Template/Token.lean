import Shelfmark.Text.Alphabetic
import Shelfmark.Text.Blank
import Shelfmark.Text.Size

/-!
# Tokens of a label template

A template is text with blocks in braces. Outside a block, everything up to the
next brace is one token and nothing is skipped. Inside a block, blanks separate
names, numbers, quoted strings and punctuation.

Every token is taken together with its spelling, and it is the longest one that
starts where it starts: the spellings and the blanks of the blocks make up the
source. A quoted string whose end is missing, or a number with letters behind
it, is still taken as one lexeme, so that the error points at its start.
-/

namespace Shelfmark.Template

open Shelfmark.Text

/-- A token: raw text, a name, the content of a string, the digits of a number,
or punctuation. -/
inductive Token where
  | rawText (text : String)
  | openBrace
  | closeBrace
  | pipe
  | openParen
  | closeParen
  | comma
  | question
  | greater
  | identifier (name : String)
  | string (content : String)
  | number (digits : String)
  deriving DecidableEq, Repr

/-- A token with its spelling and the place where it starts, in bytes. -/
structure Lexeme where
  token : Token
  spelling : List Char
  offset : Nat
  deriving DecidableEq, Repr

/-- Why a text has no tokens. -/
inductive LexicalCause where
  | unexpectedCharacter (c : Char)
  | unterminatedString
  | invalidEscape (c : Char)
  | digitIdentifier
  deriving DecidableEq, Repr

/-- A cause and the place of the lexeme at fault. -/
structure LexicalFault where
  cause : LexicalCause
  offset : Nat
  deriving DecidableEq, Repr

/-- The wording of a cause. -/
def LexicalCause.message : LexicalCause → String
  | unexpectedCharacter c => "unexpected character '" ++ c.toString ++ "'"
  | unterminatedString => "unterminated string"
  | invalidEscape c => "invalid escape sequence '\\" ++ c.toString ++ "'"
  | digitIdentifier => "identifier cannot start with a digit"

/-- What a token stands for: its text, its digits, or its punctuation mark. -/
def Token.value : Token → String
  | rawText text => text
  | openBrace => "\x7b"
  | closeBrace => "\x7d"
  | pipe => "|"
  | openParen => "("
  | closeParen => ")"
  | comma => ","
  | question => "?"
  | greater => ">"
  | identifier name => name
  | string content => content
  | number digits => digits

/-! ## Names and numbers -/

/-- Characters that a name may start with. -/
def isNameStart (c : Char) : Bool := isAlphabetic c || c = '_' || c = '.' || c = '#'

/-- Characters that a name may go on with. -/
def isNamePart (c : Char) : Bool := isNameStart c || c.isDigit

/-- A number from its spelling: a leading plus sign is dropped, and nothing but
digits may follow the sign. -/
def numberToken (spelling : List Char) : Except LexicalCause Token :=
  let digits := if spelling.head? = some '+' then spelling.tail else spelling
  let unsigned := if digits.head? = some '-' then digits.tail else digits
  if unsigned.all Char.isDigit then .ok (.number (String.ofList digits))
  else .error .digitIdentifier

/-! ## Quoted strings -/

/-- The part of a quoted string behind its opening quote: up to the closing
quote, or as far as it goes. A backslash takes the next character with it, but
never a line break. -/
def stringTail (quote : Char) : List Char → List Char
  | [] => []
  | ['\\'] => ['\\']
  | '\\' :: d :: cs => if d = '\n' then ['\\'] else '\\' :: d :: stringTail quote cs
  | c :: cs => if c = quote then [c] else c :: stringTail quote cs

/-- The character that an escape stands for. -/
def escaped? (c : Char) : Option Char :=
  match c with
  | '\\' => some '\\'
  | '\'' => some '\''
  | '"' => some '"'
  | 'n' => some '\n'
  | 'r' => some '\r'
  | 't' => some '\t'
  | 'b' => some '\x08'
  | _ => none

/-- The content of a quoted string, from the part behind its opening quote. -/
def unescape (quote : Char) : List Char → Except LexicalCause (List Char)
  | [] => .error .unterminatedString
  | ['\\'] => .error .unterminatedString
  | '\\' :: d :: cs =>
      match escaped? d with
      | some e => (unescape quote cs).map (e :: ·)
      | none => .error (.invalidEscape d)
  | c :: cs => if c = quote then .ok [] else (unescape quote cs).map (c :: ·)

/-! ## Lexemes -/

/-- The punctuation of a block. -/
def punctuation? (c : Char) : Option Token :=
  match c with
  | '\x7b' => some .openBrace
  | '\x7d' => some .closeBrace
  | '|' => some .pipe
  | '(' => some .openParen
  | ')' => some .closeParen
  | ',' => some .comma
  | '?' => some .question
  | '>' => some .greater
  | _ => none

/-- Whether a number starts with `c`, which `cs` follows. -/
def startsNumber (c : Char) (cs : List Char) : Bool :=
  c.isDigit || ((c = '-' || c = '+') && (cs.head?.map Char.isDigit).getD false)

/-- The token that starts with `c` inside a block, with the rest of its spelling. -/
def blockToken (c : Char) (cs : List Char) : Except LexicalCause (Token × List Char) :=
  match punctuation? c with
  | some token => .ok (token, [])
  | none =>
      if isNameStart c then
        let tail := cs.takeWhile isNamePart
        .ok (.identifier (String.ofList (c :: tail)), tail)
      else if startsNumber c cs then
        let tail := cs.takeWhile isNamePart
        (numberToken (c :: tail)).map fun token => (token, tail)
      else if c = '\'' || c = '"' then
        let tail := stringTail c cs
        (unescape c tail).map fun content => (.string (String.ofList content), tail)
      else .error (.unexpectedCharacter c)

/-- Whether a character ends raw text. -/
def isBrace (c : Char) : Bool := c = '\x7b' || c = '\x7d'

/-- The token that starts with `c` outside a block, with the rest of its spelling. -/
def textToken (c : Char) (cs : List Char) : Token × List Char :=
  if c = '\x7b' then (.openBrace, [])
  else if c = '\x7d' then (.closeBrace, [])
  else
    let tail := cs.takeWhile (!isBrace ·)
    (.rawText (String.ofList (c :: tail)), tail)

/-- The token that starts with `c`, with the rest of its spelling. -/
def tokenAt (inBlock : Bool) (c : Char) (cs : List Char) : Except LexicalCause (Token × List Char) :=
  if inBlock then blockToken c cs else .ok (textToken c cs)

/-- Whether the text behind a token belongs to a block. -/
def entersBlock (inBlock : Bool) (token : Token) : Bool :=
  if inBlock then token != .closeBrace else token == .openBrace

/-- The lexemes of a text that starts at `offset`, inside a block or outside. -/
def lexemesFrom (inBlock : Bool) (offset : Nat) : List Char → Except LexicalFault (List Lexeme)
  | [] => .ok []
  | c :: cs =>
      if inBlock && isBlank c then lexemesFrom inBlock (offset + c.utf8Size) cs
      else
        match tokenAt inBlock c cs with
        | .error cause => .error ⟨cause, offset⟩
        | .ok (token, tail) =>
            (lexemesFrom (entersBlock inBlock token) (offset + byteLength (c :: tail))
              (cs.drop tail.length)).map (⟨token, c :: tail, offset⟩ :: ·)
termination_by cs => cs.length
decreasing_by all_goals (simp only [List.length_cons, List.length_drop]; omega)

/-- The lexemes of a template. -/
def lexemes (source : String) : Except LexicalFault (List Lexeme) :=
  lexemesFrom false 0 source.toList

end Shelfmark.Template
