import Mathlib.Data.List.Induction
import Shelfmark.Proofs.Template.Lexing
import Shelfmark.Template.Fault

/-!
# The layout of a text

Nothing of a text is lost when it is split into tokens. The text is a row of stretches,
each of them the spelling of a lexeme or a blank, and a blank stands nowhere but in a block.
The value of a token is its spelling, but for two kinds: a string stands for what its
spelling escapes, and a number may have lost a plus sign.

The reader goes from one mode into the other at the braces. `inBlockAfter` is the mode
that tokens lead to, and `Laid` says of a row of stretches that it can be read from a place
in a mode; it is what the reader keeps true from stretch to stretch. Whatever is said of
one stretch in the middle comes from `laid_append`, by which the rest of the row is laid
from the place and in the mode that the stretches before it lead to.

A block need not be closed for its text to have tokens; that is for the grammar to
complain about. So behind an opening brace that nothing closes, blanks may stand up to the
end of the text.

## Main results

* `exists_laid` — the reader lays out the text.
* `lexemes_lose_nothing` — what that says of the lexemes, of blanks and of values.
* `blanks_not_always_enclosed` — a block with a blank need not be closed.
-/

namespace Shelfmark.Template

open Shelfmark.Text

/-! ## Inside and outside of blocks -/

/-- Whether the text behind tokens belongs to a block, when that in front of them does. -/
def inBlockAfter (inBlock : Bool) (tokens : List Token) : Bool :=
  tokens.foldl entersBlock inBlock

@[simp] theorem inBlockAfter_nil (inBlock : Bool) : inBlockAfter inBlock [] = inBlock := rfl

@[simp] theorem inBlockAfter_cons (inBlock : Bool) (t : Token) (ts : List Token) :
    inBlockAfter inBlock (t :: ts) = inBlockAfter (entersBlock inBlock t) ts := rfl

@[simp] theorem inBlockAfter_append (inBlock : Bool) (ts us : List Token) :
    inBlockAfter inBlock (ts ++ us) = inBlockAfter (inBlockAfter inBlock ts) us :=
  List.foldl_append

/-- Whether tokens leave a block open: an opening brace outside of the blocks has no closing
brace behind it. -/
def LeavesOpen (tokens : List Token) : Prop :=
  ∃ outer inner, tokens = outer ++ .openBrace :: inner ∧
    inBlockAfter false outer = false ∧ .closeBrace ∉ inner

/-- The mode that a text ends in is that of a block just where a block is left open. -/
theorem inBlockAfter_eq_true_iff {tokens : List Token} :
    inBlockAfter false tokens = true ↔ LeavesOpen tokens := by
  constructor
  · intro h
    induction tokens using List.reverseRecOn with
    | nil => cases h
    | append_singleton tokens t ih =>
        rw [inBlockAfter_append] at h
        cases hMode : inBlockAfter false tokens with
        | false =>
            have hOpen : t = .openBrace := by simpa [hMode, entersBlock] using h
            exact ⟨tokens, [], by rw [hOpen], hMode, by simp⟩
        | true =>
            have hKept : t ≠ .closeBrace := by simpa [hMode, entersBlock] using h
            obtain ⟨outer, inner, rfl, hOuter, hInner⟩ := ih hMode
            refine ⟨outer, inner ++ [t], by simp, hOuter, ?_⟩
            simp [hInner, hKept.symm]
  · rintro ⟨outer, inner, rfl, hOuter, hInner⟩
    rw [inBlockAfter_append, hOuter]
    show inBlockAfter true inner = true
    clear hOuter
    induction inner with
    | nil => rfl
    | cons t inner ih =>
        have hKept : t ≠ .closeBrace := fun hClose => hInner (by simp [hClose])
        have hStep : entersBlock true t = true := by simpa [entersBlock] using hKept
        rw [inBlockAfter_cons, hStep]
        exact ih fun hMem => hInner (List.mem_cons_of_mem t hMem)

/-! ## Spellings -/

/-- The contents of a quoted string and what they stand for: an escape stands for one
character, and every other character for itself. -/
inductive Escapes (quote : Char) : List Char → List Char → Prop where
  | nil : Escapes quote [] []
  | plain {c : Char} {body content : List Char} (hQuote : c ≠ quote) (hPlain : c ≠ '\\')
      (h : Escapes quote body content) : Escapes quote (c :: body) (c :: content)
  | escape {d e : Char} {body content : List Char} (hEscape : escaped? d = some e)
      (h : Escapes quote body content) : Escapes quote ('\\' :: d :: body) (e :: content)

/-- Whether a token is spelled in a way: a string between two quotes, a number perhaps with a
plus sign more, and every other token by its value. -/
def Token.SpelledBy (spelling : List Char) : Token → Prop
  | .string content => ∃ quote body, (quote = '\'' ∨ quote = '"') ∧
      spelling = quote :: body ++ [quote] ∧ Escapes quote body content.toList
  | .number digits =>
      digits.toList = if spelling.head? = some '+' then spelling.tail else spelling
  | token => spelling = token.value.toList

/-- Whether a token can stand in a block, or outside. Braces can stand anywhere. -/
def Token.StandsIn (inBlock : Bool) : Token → Prop
  | .rawText _ => inBlock = false
  | .openBrace => True
  | .closeBrace => True
  | _ => inBlock = true

variable {inBlock : Bool} {c : Char} {cs tail : List Char} {t : Token} {offset : Nat}
  {ls : List Lexeme}

theorem stringTail_prefix_self (quote : Char) (cs : List Char) : stringTail quote cs <+: cs := by
  fun_induction stringTail quote cs with
  | case1 => exact List.prefix_rfl
  | case2 => exact List.prefix_rfl
  | case3 cs => exact ⟨_, rfl⟩
  | case4 d cs _ ih =>
      obtain ⟨rest, hRest⟩ := ih
      exact ⟨rest, by simp [hRest]⟩
  | case5 cs => exact ⟨cs, rfl⟩
  | case6 c cs _ _ _ ih =>
      obtain ⟨rest, hRest⟩ := ih
      exact ⟨rest, by simp [hRest]⟩

/-- A string that can be read ends with its quote. -/
theorem escapes_of_unescape {quote : Char} (hQuote : quote ≠ '\\') {content : List Char}
    (h : unescape quote (stringTail quote cs) = .ok content) :
    ∃ body, stringTail quote cs = body ++ [quote] ∧ Escapes quote body content := by
  fun_induction stringTail quote cs generalizing content with
  | case1 => cases h
  | case2 => cases h
  | case3 cs => cases h
  | case4 d cs hBreak ih =>
      rw [unescape] at h
      · split at h
        · rename_i e hEscape
          obtain ⟨rest, hRest, rfl⟩ := exists_of_map_ok h
          obtain ⟨body, hTail, hBody⟩ := ih hRest
          exact ⟨'\\' :: d :: body, by simp [hTail], .escape hEscape hBody⟩
        · cases h
  | case5 cs =>
      have hContent : content = [] := by simpa [unescape, hQuote, eq_comm] using h
      subst hContent
      exact ⟨[], rfl, .nil⟩
  | case6 c cs hAlone hEscape hOther ih =>
      have hPlain : c ≠ '\\' := by
        intro hSlash
        cases cs with
        | nil => exact hAlone hSlash rfl
        | cons d cs => exact hEscape d cs hSlash rfl
      rw [unescape, if_neg hOther] at h
      · obtain ⟨rest, hRest, rfl⟩ := exists_of_map_ok h
        obtain ⟨body, hTail, hBody⟩ := ih hRest
        exact ⟨c :: body, by simp [hTail], .plain hOther hPlain hBody⟩
      · exact fun hSlash _ => hPlain hSlash
      · exact fun _ _ hSlash _ => hPlain hSlash

/-- The spelling of a token is there to be read, and the token stands for it. -/
theorem blockToken_spelled (h : blockToken c cs = .ok (t, tail)) :
    tail <+: cs ∧ t.StandsIn true ∧ t.SpelledBy (c :: tail) := by
  unfold blockToken at h
  split at h
  case h_1 punctuation hToken =>
    cases h
    refine ⟨List.nil_prefix, ?_⟩
    unfold punctuation? at hToken
    split at hToken <;> cases hToken <;> simp [Token.StandsIn, Token.SpelledBy, Token.value]
  case h_2 =>
    split at h
    · cases h
      exact ⟨List.takeWhile_prefix _, rfl, String.toList_ofList.symm⟩
    · split at h
      · obtain ⟨token, hNumber, hPair⟩ := exists_of_map_ok h
        cases hPair
        refine ⟨List.takeWhile_prefix _, ?_⟩
        unfold numberToken at hNumber
        extract_lets digits unsigned at hNumber
        split at hNumber
        · cases hNumber
          exact ⟨rfl, String.toList_ofList⟩
        · cases hNumber
      · split at h
        case isTrue hQuote =>
          obtain ⟨content, hContent, hPair⟩ := exists_of_map_ok h
          cases hPair
          have hQuote : c = '\'' ∨ c = '"' := by simpa using hQuote
          have hPlain : c ≠ '\\' := by
            rcases hQuote with rfl | rfl <;> decide
          obtain ⟨body, hTail, hBody⟩ := escapes_of_unescape hPlain hContent
          refine ⟨stringTail_prefix_self c cs, rfl, c, body, hQuote, ?_, ?_⟩
          · rw [hTail, List.cons_append]
          · rwa [String.toList_ofList]
        case isFalse => cases h

theorem textToken_spelled (h : textToken c cs = (t, tail)) :
    tail <+: cs ∧ t.StandsIn false ∧ t.SpelledBy (c :: tail) := by
  unfold textToken at h
  split at h
  · rename_i hOpen
    cases h
    exact ⟨List.nil_prefix, trivial, by simp [Token.SpelledBy, Token.value, hOpen]⟩
  · split at h
    · rename_i hClose
      cases h
      exact ⟨List.nil_prefix, trivial, by simp [Token.SpelledBy, Token.value, hClose]⟩
    · cases h
      exact ⟨List.takeWhile_prefix _, rfl, String.toList_ofList.symm⟩

theorem tokenAt_spelled (h : tokenAt inBlock c cs = .ok (t, tail)) :
    tail <+: cs ∧ t.StandsIn inBlock ∧ t.SpelledBy (c :: tail) := by
  cases inBlock with
  | true => exact blockToken_spelled h
  | false => exact textToken_spelled (Except.ok.inj h)

/-! ## Stretches -/

/-- A stretch of a text: a lexeme, or a blank in front of one. -/
inductive Stretch where
  | lexeme (l : Lexeme)
  | blank (c : Char)
  deriving DecidableEq

namespace Stretch

/-- The characters of a stretch. -/
def chars : Stretch → List Char
  | lexeme l => l.spelling
  | blank c => [c]

/-- The lexeme of a stretch, if it is one. -/
def lexeme? : Stretch → Option Lexeme
  | lexeme l => some l
  | blank _ => none

end Stretch

/-- The text of stretches. -/
def textOf (stretches : List Stretch) : List Char := stretches.flatMap Stretch.chars

/-- The lexemes among stretches. -/
def lexemesOf (stretches : List Stretch) : List Lexeme := stretches.filterMap Stretch.lexeme?

/-- The tokens among stretches. -/
def tokensOf (stretches : List Stretch) : List Token := (lexemesOf stretches).map Lexeme.token

@[simp] theorem textOf_lexeme (l : Lexeme) (rest : List Stretch) :
    textOf (.lexeme l :: rest) = l.spelling ++ textOf rest := rfl

@[simp] theorem textOf_blank (c : Char) (rest : List Stretch) :
    textOf (.blank c :: rest) = c :: textOf rest := rfl

@[simp] theorem lexemesOf_lexeme (l : Lexeme) (rest : List Stretch) :
    lexemesOf (.lexeme l :: rest) = l :: lexemesOf rest := rfl

@[simp] theorem lexemesOf_blank (c : Char) (rest : List Stretch) :
    lexemesOf (.blank c :: rest) = lexemesOf rest := rfl

@[simp] theorem tokensOf_lexeme (l : Lexeme) (rest : List Stretch) :
    tokensOf (.lexeme l :: rest) = l.token :: tokensOf rest := rfl

@[simp] theorem tokensOf_blank (c : Char) (rest : List Stretch) :
    tokensOf (.blank c :: rest) = tokensOf rest := rfl

/-- A lexeme as the reader makes it at a place, in a block or outside. -/
structure Lexeme.Sits (l : Lexeme) (inBlock : Bool) (offset : Nat) : Prop where
  place : l.offset = offset
  nonempty : l.spelling ≠ []
  side : l.token.StandsIn inBlock
  spelled : l.token.SpelledBy l.spelling

/-- Stretches that can be read one after another from a place on. -/
def Laid (inBlock : Bool) (offset : Nat) : List Stretch → Prop
  | [] => True
  | .lexeme l :: rest => l.Sits inBlock offset ∧
      Laid (entersBlock inBlock l.token) (offset + byteLength l.spelling) rest
  | .blank c :: rest => (inBlock = true ∧ isBlank c = true) ∧
      Laid inBlock (offset + c.utf8Size) rest

/-- **The reader lays out the text.** -/
theorem exists_laid (h : lexemesFrom inBlock offset cs = .ok ls) :
    ∃ stretches, Laid inBlock offset stretches ∧ lexemesOf stretches = ls ∧
      textOf stretches = cs := by
  fun_induction lexemesFrom inBlock offset cs generalizing ls with
  | case1 =>
      cases h
      exact ⟨[], trivial, rfl, rfl⟩
  | case2 inBlock offset c cs hSkip ih =>
      obtain ⟨stretches, hLaid, hLexemes, hText⟩ := ih h
      have hBlank : inBlock = true ∧ isBlank c = true := by simpa using hSkip
      exact ⟨.blank c :: stretches, ⟨hBlank, hLaid⟩, hLexemes, by rw [textOf_blank, hText]⟩
  | case3 => cases h
  | case4 inBlock offset c cs hSkip t tail hToken ih =>
      obtain ⟨rest, hRest, rfl⟩ := exists_of_map_ok h
      obtain ⟨stretches, hLaid, hLexemes, hText⟩ := ih hRest
      obtain ⟨hPrefix, hSide, hSpelled⟩ := tokenAt_spelled hToken
      refine ⟨.lexeme ⟨t, c :: tail, offset⟩ :: stretches, ⟨?_, hLaid⟩, ?_, ?_⟩
      · exact ⟨rfl, by simp, hSide, hSpelled⟩
      · rw [lexemesOf_lexeme, hLexemes]
      · rw [textOf_lexeme, hText, List.cons_append, List.prefix_iff_eq_append.1 hPrefix]

/-! ## One stretch among others -/

variable {before after stretches : List Stretch} {l : Lexeme}

/-- What comes later is laid from where, and in the mode that, the stretches before it lead
to. -/
theorem laid_append :
    Laid inBlock offset (before ++ after) ↔ Laid inBlock offset before ∧
      Laid (inBlockAfter inBlock (tokensOf before)) (offset + byteLength (textOf before)) after := by
  induction before generalizing inBlock offset with
  | nil => simp [Laid, tokensOf, lexemesOf, textOf]
  | cons s before ih =>
      cases s with
      | lexeme l =>
          rw [List.cons_append, Laid, Laid, ih]
          simp only [tokensOf_lexeme, textOf_lexeme, inBlockAfter_cons, byteLength_append,
            and_assoc, Nat.add_assoc]
      | blank c =>
          rw [List.cons_append, Laid, Laid, ih]
          simp only [tokensOf_blank, textOf_blank, byteLength_cons, and_assoc, Nat.add_assoc]

theorem byteLength_pos (h : cs ≠ []) : 0 < byteLength cs := by
  cases cs with
  | nil => exact absurd rfl h
  | cons c cs =>
      have hSize := c.utf8Size_pos
      rw [byteLength_cons]
      omega

/-- Lexemes start where they are laid, one behind the other. -/
theorem Laid.offsets (h : Laid inBlock offset stretches) :
    (∀ l ∈ lexemesOf stretches, offset ≤ l.offset) ∧
      ((lexemesOf stretches).map Lexeme.offset).Pairwise (· < ·) := by
  induction stretches generalizing inBlock offset with
  | nil => simp [lexemesOf]
  | cons s stretches ih =>
      cases s with
      | blank c =>
          obtain ⟨hFrom, hPairwise⟩ := ih h.2
          refine ⟨fun l hl => ?_, hPairwise⟩
          have hLater := hFrom l hl
          omega
      | lexeme l =>
          obtain ⟨hSits, hRest⟩ := h
          obtain ⟨hFrom, hPairwise⟩ := ih hRest
          have hPlace := hSits.place
          have hLength := byteLength_pos hSits.nonempty
          have hLater : ∀ m ∈ lexemesOf stretches, l.offset < m.offset := by
            intro m hm
            have := hFrom m hm
            omega
          rw [lexemesOf_lexeme]
          constructor
          · intro m hm
            rcases List.mem_cons.1 hm with rfl | hm
            · omega
            · have := hLater m hm
              omega
          · rw [List.map_cons, List.pairwise_cons]
            refine ⟨?_, hPairwise⟩
            intro place hMem
            obtain ⟨m, hm, rfl⟩ := List.mem_map.1 hMem
            exact hLater m hm

theorem exists_stretch_of_mem (h : l ∈ lexemesOf stretches) :
    ∃ before after, stretches = before ++ .lexeme l :: after := by
  obtain ⟨s, hMem, hLexeme⟩ := List.mem_filterMap.1 h
  obtain ⟨before, after, rfl⟩ := List.append_of_mem hMem
  cases s with
  | lexeme m =>
      cases hLexeme
      exact ⟨before, after, rfl⟩
  | blank c => cases hLexeme

/-! ## Nothing is lost -/

/-- A lexeme in its place behind other stretches: it starts where they end, its token stands
for its spelling, and it is in a block unless it is raw text or a brace. -/
structure Lexeme.Fits (l : Lexeme) (before : List Stretch) : Prop where
  place : l.offset = byteLength (textOf before)
  spelled : l.token.SpelledBy l.spelling
  inside : l.token.isText = false → l.token ≠ .openBrace → l.token ≠ .closeBrace →
    LeavesOpen (tokensOf before)

/-- A text as a row of lexemes, each in its place, and of blanks in open blocks. -/
structure Layout (source : String) (ls : List Lexeme) (stretches : List Stretch) : Prop where
  lexemes : lexemesOf stretches = ls
  text : textOf stretches = source.toList
  lexeme : ∀ before l after, stretches = before ++ .lexeme l :: after → l.Fits before
  blank : ∀ before c after, stretches = before ++ .blank c :: after →
    isBlank c = true ∧ LeavesOpen (tokensOf before)

theorem Lexeme.Sits.fits (h : l.Sits (inBlockAfter false (tokensOf before))
    (byteLength (textOf before))) : l.Fits before where
  place := h.place
  spelled := h.spelled
  inside hText hOpen hClose := by
    rw [← inBlockAfter_eq_true_iff]
    have hSide := h.side
    revert hText hOpen hClose hSide
    cases l.token <;> simp [Token.isText, Token.StandsIn]

theorem lexemesFrom_of_tokenize {source : String} (h : tokenize source = .ok ls) :
    lexemesFrom false 0 source.toList = .ok ls := by
  unfold tokenize lexemes at h
  split at h
  · rename_i hRun
    cases h
    exact hRun
  · cases h

theorem exists_layout {source : String} (h : tokenize source = .ok ls) :
    ∃ stretches, Laid false 0 stretches ∧ Layout source ls stretches := by
  obtain ⟨stretches, hLaid, hLexemes, hText⟩ := exists_laid (lexemesFrom_of_tokenize h)
  refine ⟨stretches, hLaid, hLexemes, hText, ?_, ?_⟩
  · rintro before l after rfl
    obtain ⟨-, hSits, -⟩ := laid_append.1 hLaid
    rw [Nat.zero_add] at hSits
    exact hSits.fits
  · rintro before c after rfl
    obtain ⟨-, ⟨hOpen, hBlank⟩, -⟩ := laid_append.1 hLaid
    exact ⟨hBlank, inBlockAfter_eq_true_iff.1 hOpen⟩

/-- **Splitting a text into tokens loses nothing.** Lexemes start one behind the other; with
the blanks of the blocks between them, their spellings make up the text, each from the place
where its lexeme starts; strings and numbers apart, tokens have their spelling as value. Raw
text is what stands in the text at its place, has no brace in it and no raw text beside it,
and only raw text and braces stand outside of the blocks. -/
theorem lexemes_lose_nothing {source : String} (h : tokenize source = .ok ls) :
    (ls.map Lexeme.offset).Pairwise (· < ·) ∧
      (∃ stretches, Layout source ls stretches) ∧
      (∀ l ∈ ls, ∀ text, l.token = .rawText text → IsPlainText text ∧
        ∃ front rest, source.toList = front ++ text.toList ++ rest ∧
          l.offset = byteLength front) ∧
      NoAdjacentText (ls.map Lexeme.token) := by
  obtain ⟨stretches, hLaid, hLayout⟩ := exists_layout h
  have hLexemes := lexemesFrom_of_tokenize h
  refine ⟨?_, ⟨stretches, hLayout⟩, ?_, noAdjacentText_of_lexemesFrom hLexemes⟩
  · rw [← hLayout.lexemes]
    exact hLaid.offsets.2
  · intro l hl text hText
    have hPlain := wellFormed_of_lexemesFrom hLexemes l hl
    rw [hText] at hPlain
    refine ⟨hPlain, ?_⟩
    obtain ⟨before, after, hStretches⟩ := exists_stretch_of_mem (hLayout.lexemes ▸ hl)
    have hFits := hLayout.lexeme before l after hStretches
    have hSpelled := hFits.spelled
    rw [hText] at hSpelled
    refine ⟨textOf before, textOf after, ?_, hFits.place⟩
    rw [← hLayout.text, hStretches]
    simp [textOf, Stretch.chars, show l.spelling = text.toList from hSpelled]

/-- A template with all that makes spellings and values differ: blanks, a plus sign, an
escape, and characters of several bytes. -/
def laidLexemes : List Lexeme :=
  [⟨.rawText "é: ", ['é', ':', ' '], 0⟩, ⟨.openBrace, ['\x7b'], 4⟩,
    ⟨.identifier "ü", ['ü'], 6⟩, ⟨.pipe, ['|'], 8⟩, ⟨.number "7", ['+', '7'], 10⟩,
    ⟨.string "\"", ['"', '\\', '"', '"'], 13⟩, ⟨.closeBrace, ['\x7d'], 18⟩]

theorem lexemes_lose_nothing_sample :
    tokenize "é: \x7b ü| +7 \"\\\"\" \x7d" = .ok laidLexemes ∧
      (laidLexemes.map Lexeme.offset).Pairwise (· < ·) ∧
      ∃ stretches, Layout "é: \x7b ü| +7 \"\\\"\" \x7d" laidLexemes stretches := by
  have hTokens : tokenize "é: \x7b ü| +7 \"\\\"\" \x7d" = .ok laidLexemes := by
    decide +kernel
  obtain ⟨hOffsets, hLayout, -, -⟩ := lexemes_lose_nothing hTokens
  exact ⟨hTokens, hOffsets, hLayout⟩

/-- A block that a blank stands in need not be closed: this text has tokens, and its blank
has no closing brace behind it. -/
theorem blanks_not_always_enclosed :
    tokenize "\x7b " = .ok [⟨.openBrace, ['\x7b'], 0⟩] ∧
      ¬ ∃ stretches, Layout "\x7b " [⟨.openBrace, ['\x7b'], 0⟩] stretches ∧
        ∀ before c after, stretches = before ++ .blank c :: after →
          .closeBrace ∈ tokensOf after := by
  refine ⟨by decide +kernel, ?_⟩
  rintro ⟨stretches, ⟨hLexemes, hText, -, -⟩, hClosed⟩
  cases stretches with
  | nil => cases hText
  | cons first rest =>
      cases first with
      | blank c =>
          have hClose := hClosed [] c rest rfl
          rw [lexemesOf_blank] at hLexemes
          simp [tokensOf, hLexemes] at hClose
      | lexeme l =>
          rw [lexemesOf_lexeme] at hLexemes
          obtain ⟨rfl, hNone⟩ := List.cons.inj hLexemes
          -- the blank is all that is left of the text, and there is no token behind it
          cases rest with
          | nil => cases hText
          | cons second rest =>
              cases second with
              | lexeme m => cases hNone
              | blank c =>
                  have hClose := hClosed [.lexeme ⟨.openBrace, ['\x7b'], 0⟩] c rest rfl
                  rw [lexemesOf_blank] at hNone
                  simp [tokensOf, hNone] at hClose

end Shelfmark.Template
