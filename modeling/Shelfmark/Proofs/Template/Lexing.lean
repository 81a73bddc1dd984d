import Mathlib.Data.List.Chain
import Shelfmark.Proofs.Answers
import Shelfmark.Proofs.Text.Normal
import Shelfmark.Template.Token

/-!
# The tokens of a text

What the token reader does to a text, said twice. `Lexes` puts a text together from
its front: the tokens of a spelling with a text behind it are the token spelled there
and the tokens of that text. `Token.WellFormed` and `NoAdjacentText` take it apart:
they say which token sequences can come out at all.

Both need that the classes of characters inside a block do not overlap, so that the
first character of a spelling decides what is read.
-/

namespace Shelfmark.Template

open Shelfmark.Text

/-! ## Classes of characters -/

/-- A character that a name may start with: a letter, or one of three marks. -/
def NameLetter (c : Char) : Prop := isAlphabetic c = true ∨ c = '_' ∨ c = '.' ∨ c = '#'

/-- A name: a letter or mark, then letters, marks and digits. -/
def IsName (name : String) : Prop :=
  ∃ c cs, name.toList = c :: cs ∧ NameLetter c ∧ ∀ d ∈ cs, NameLetter d ∨ d.isDigit = true

/-- Text that can stand outside the blocks: it is there, and no block starts or ends in
it. -/
def IsPlainText (text : String) : Prop :=
  text ≠ "" ∧ '\x7b' ∉ text.toList ∧ '\x7d' ∉ text.toList

theorem isNameStart_iff {c : Char} : isNameStart c = true ↔ NameLetter c := by
  simp [isNameStart, NameLetter, or_assoc]

theorem isNamePart_iff {c : Char} : isNamePart c = true ↔ NameLetter c ∨ c.isDigit = true := by
  simp [isNamePart, isNameStart_iff]

private theorem alphabetic_apart_blank :
    (alphabeticRanges.all fun r => blankRanges.all fun s => r.2.blt s.1 || s.2.blt r.1) = true := by
  decide +kernel

theorem isBlank_of_nameLetter {c : Char} (h : NameLetter c) : isBlank c = false := by
  rcases h with h | rfl | rfl | rfl
  · rw [Bool.eq_false_iff]
    intro hBlank
    obtain ⟨r, hr, hrFirst, hrLast⟩ := exists_range_of_inRanges h
    obtain ⟨s, hs, hsFirst, hsLast⟩ := exists_blankRange hBlank
    have hApart := List.all_eq_true.1 (List.all_eq_true.1 alphabetic_apart_blank r hr) s hs
    simp only [Bool.or_eq_true, Nat.blt_eq] at hApart
    omega
  · decide
  · decide
  · decide

theorem punctuation?_of_nameLetter {c : Char} (h : NameLetter c) : punctuation? c = none := by
  rw [← isNameStart_iff] at h
  unfold punctuation?
  split <;> first | rfl | exact absurd h (by decide)

/-- A digit starts neither a name nor punctuation, and it is no blank. -/
theorem classes_of_isDigit {c : Char} (h : c.isDigit = true) :
    isNameStart c = false ∧ isBlank c = false ∧ punctuation? c = none := by
  have hBounds : 48 ≤ c.toNat ∧ c.toNat ≤ 57 := by
    simpa [Char.isDigit, UInt32.le_iff_toNat_le] using h
  refine ⟨?_, ?_, ?_⟩
  · have hLetter : isAlphabetic c = false := by
      unfold isAlphabetic alphabeticRanges inRanges
      exact if_pos (by omega)
    have hMarks : c ≠ '_' ∧ c ≠ '.' ∧ c ≠ '#' := by
      refine ⟨?_, ?_, ?_⟩ <;> (rintro rfl; revert h; decide)
    simp [isNameStart, hLetter, hMarks]
  · refine Bool.eq_false_iff.2 fun hBlank => ?_
    simp only [isBlank, Bool.or_eq_true, Bool.and_eq_true, decide_eq_true_eq, beq_iff_eq] at hBlank
    omega
  · unfold punctuation?
    split <;> first | rfl | exact absurd h (by decide)

/-! ## Runs of a class -/

/-- A text that does not go on with a character of the class. -/
def Stops (p : Char → Bool) (rest : List Char) : Prop := ∀ c ∈ rest.head?, p c = false

theorem takeWhile_append_of_stops {p : Char → Bool} {cs rest : List Char}
    (hAll : ∀ c ∈ cs, p c = true) (hStop : Stops p rest) : (cs ++ rest).takeWhile p = cs := by
  rw [List.takeWhile_append_of_pos hAll]
  cases rest with
  | nil => simp
  | cons c rest => simp [hStop c rfl]

theorem stops_drop_takeWhile (p : Char → Bool) (cs : List Char) :
    Stops p (cs.drop (cs.takeWhile p).length) := by
  induction cs with
  | nil => nofun
  | cons c cs ih =>
      cases hHead : p c with
      | true => simpa [hHead] using ih
      | false => simp [Stops, hHead]

/-! ## Tokens that can come out -/

/-- A token that can come out: names are names, and raw text is plain. -/
def Token.WellFormed : Token → Prop
  | .rawText text => IsPlainText text
  | .identifier name => IsName name
  | _ => True

/-- Whether a token is raw text. -/
def Token.isText : Token → Bool
  | .rawText _ => true
  | _ => false

/-- A sequence in which no two pieces of raw text stand side by side. -/
def NoAdjacentText (tokens : List Token) : Prop :=
  tokens.IsChain fun t u => ¬ (t.isText = true ∧ u.isText = true)

variable {inBlock : Bool} {c : Char} {cs tail rest : List Char} {t : Token} {tokens : List Token}
  {offset : Nat} {ls : List Lexeme}

theorem punctuation?_eq_some (h : punctuation? c = some t) :
    (isBlank c = false ∧ isNamePart c = false) ∧ t.WellFormed ∧ t.isText = false := by
  unfold punctuation? at h
  split at h <;> cases h <;> exact ⟨by decide, trivial, rfl⟩

theorem numberToken_eq_ok (h : numberToken cs = .ok t) : ∃ digits, t = .number digits := by
  unfold numberToken at h
  extract_lets digits unsigned at h
  split at h
  · cases h
    exact ⟨_, rfl⟩
  · cases h

theorem blockToken_eq_ok (h : blockToken c cs = .ok (t, tail)) :
    t.WellFormed ∧ t.isText = false := by
  unfold blockToken at h
  split at h
  case h_1 punctuation hToken =>
    cases h
    exact (punctuation?_eq_some hToken).2
  case h_2 =>
    split at h
    case isTrue hFirst =>
      cases h
      refine ⟨⟨c, _, String.toList_ofList, isNameStart_iff.1 hFirst, fun d hd => ?_⟩, rfl⟩
      exact isNamePart_iff.1 (List.mem_takeWhile_imp hd)
    case isFalse =>
      split at h
      · obtain ⟨token, hNumber, hPair⟩ := exists_of_map_ok h
        cases hPair
        obtain ⟨digits, rfl⟩ := numberToken_eq_ok hNumber
        exact ⟨trivial, rfl⟩
      · split at h
        · obtain ⟨content, -, hPair⟩ := exists_of_map_ok h
          cases hPair
          exact ⟨trivial, rfl⟩
        · cases h

theorem textToken_eq (h : textToken c cs = (t, tail)) :
    t.WellFormed ∧ (t.isText = true → isBrace c = false ∧ tail = cs.takeWhile (!isBrace ·)) := by
  unfold textToken at h
  split at h
  · cases h
    exact ⟨trivial, nofun⟩
  · split at h
    · cases h
      exact ⟨trivial, nofun⟩
    · rename_i hOpen hClose
      cases h
      refine ⟨⟨by simp, ?_⟩, fun _ => ⟨by simp [isBrace, hOpen, hClose], rfl⟩⟩
      have hPlain : ∀ d ∈ cs.takeWhile (!isBrace ·), d ≠ '\x7b' ∧ d ≠ '\x7d' := fun d hd => by
        simpa [isBrace] using List.mem_takeWhile_imp hd
      simp only [String.toList_ofList, List.mem_cons, not_or]
      exact ⟨⟨Ne.symm hOpen, fun hd => (hPlain _ hd).1 rfl⟩,
        Ne.symm hClose, fun hd => (hPlain _ hd).2 rfl⟩

theorem tokenAt_wellFormed (h : tokenAt inBlock c cs = .ok (t, tail)) : t.WellFormed := by
  unfold tokenAt at h
  split at h
  · exact (blockToken_eq_ok h).1
  · exact (textToken_eq (Except.ok.inj h)).1

/-- Raw text comes from outside the blocks and reaches up to the next brace. -/
theorem tokenAt_isText (h : tokenAt inBlock c cs = .ok (t, tail)) (hText : t.isText = true) :
    inBlock = false ∧ isBrace c = false ∧ tail = cs.takeWhile (!isBrace ·) := by
  unfold tokenAt at h
  split at h
  · rw [(blockToken_eq_ok h).2] at hText
    cases hText
  · rename_i hBlock
    exact ⟨by simpa using hBlock, (textToken_eq (Except.ok.inj h)).2 hText⟩

theorem wellFormed_of_lexemesFrom (h : lexemesFrom inBlock offset cs = .ok ls) :
    ∀ l ∈ ls, l.token.WellFormed := by
  fun_induction lexemesFrom inBlock offset cs generalizing ls with
  | case1 =>
      cases h
      simp
  | case2 inBlock offset c cs hSkip ih => exact ih h
  | case3 => cases h
  | case4 inBlock offset c cs hSkip t tail hToken ih =>
      obtain ⟨rest, hRest, rfl⟩ := exists_of_map_ok h
      intro l hl
      rcases List.mem_cons.1 hl with rfl | hl
      · exact tokenAt_wellFormed hToken
      · exact ih hRest l hl

/-- Raw text in front comes from a text outside the blocks that starts with no brace. -/
theorem stops_of_lexemesFrom {l : Lexeme} (h : lexemesFrom inBlock offset cs = .ok (l :: ls))
    (hText : l.token.isText = true) : inBlock = false ∧ ∃ c ∈ cs.head?, isBrace c = false := by
  fun_induction lexemesFrom inBlock offset cs with
  | case1 => cases h
  | case2 inBlock offset c cs hSkip ih =>
      have hBlock := (ih h).1
      simp [hBlock] at hSkip
  | case3 => cases h
  | case4 inBlock offset c cs hSkip t tail hToken ih =>
      obtain ⟨rest, hRest, hPair⟩ := exists_of_map_ok h
      cases hPair
      obtain ⟨hBlock, hBrace, -⟩ := tokenAt_isText hToken hText
      exact ⟨hBlock, c, rfl, hBrace⟩

theorem noAdjacentText_of_lexemesFrom (h : lexemesFrom inBlock offset cs = .ok ls) :
    NoAdjacentText (ls.map Lexeme.token) := by
  fun_induction lexemesFrom inBlock offset cs generalizing ls with
  | case1 =>
      cases h
      exact List.isChain_nil
  | case2 inBlock offset c cs hSkip ih => exact ih h
  | case3 => cases h
  | case4 inBlock offset c cs hSkip t tail hToken ih =>
      obtain ⟨rest, hRest, rfl⟩ := exists_of_map_ok h
      refine List.isChain_cons.2 ⟨?_, ih hRest⟩
      rintro u hu ⟨hText, hNext⟩
      obtain ⟨hBlock, -, rfl⟩ := tokenAt_isText hToken hText
      cases rest with
      | nil => cases hu
      | cons l rest =>
          cases hu
          -- The text before `l` is as long as it can be, so a brace stands where `l` starts.
          obtain ⟨-, d, hd, hPlain⟩ := stops_of_lexemesFrom hRest hNext
          have hBrace := stops_drop_takeWhile (!isBrace ·) cs d hd
          simp [hPlain] at hBrace

/-! ## Putting a text together -/

/-- The tokens of a text, inside a block or outside, wherever the text starts. -/
def Lexes (inBlock : Bool) (cs : List Char) (tokens : List Token) : Prop :=
  ∀ offset, ∃ ls, lexemesFrom inBlock offset cs = .ok ls ∧ ls.map Lexeme.token = tokens

namespace Lexes

theorem nil (inBlock : Bool) : Lexes inBlock [] [] := fun offset =>
  ⟨[], by simp [lexemesFrom], rfl⟩

theorem blank (hBlank : isBlank c = true) (hRest : Lexes true cs tokens) :
    Lexes true (c :: cs) tokens := fun offset => by
  obtain ⟨ls, hRun, hTokens⟩ := hRest (offset + c.utf8Size)
  exact ⟨ls, by simp [lexemesFrom, hBlank, hRun], hTokens⟩

/-- A token in front of a text, spelled with `c` and `tail`. -/
theorem cons (tail : List Char) (hBlank : inBlock = true → isBlank c = false)
    (hToken : tokenAt inBlock c (tail ++ rest) = .ok (t, tail))
    (hRest : Lexes (entersBlock inBlock t) rest tokens) :
    Lexes inBlock (c :: tail ++ rest) (t :: tokens) := fun offset => by
  obtain ⟨ls, hRun, rfl⟩ := hRest (offset + byteLength (c :: tail))
  have hSkip : (inBlock && isBlank c) = false := by
    cases inBlock with
    | false => rfl
    | true => exact hBlank rfl
  refine ⟨⟨t, c :: tail, offset⟩ :: ls, ?_, rfl⟩
  rw [List.cons_append, lexemesFrom, if_neg (by simp [hSkip]), hToken]
  simp only [List.drop_left, hRun]
  rfl

theorem punctuation (hToken : punctuation? c = some t)
    (hRest : Lexes (entersBlock true t) rest tokens) : Lexes true (c :: rest) (t :: tokens) :=
  Lexes.cons [] (fun _ => (punctuation?_eq_some hToken).1.1)
    (by simp [tokenAt, blockToken, hToken]) hRest

theorem name {name : String} (hName : IsName name) (hStop : Stops isNamePart rest)
    (hRest : Lexes true rest tokens) :
    Lexes true (name.toList ++ rest) (.identifier name :: tokens) := by
  obtain ⟨c, cs, hSpelled, hFirst, hParts⟩ := hName
  have hTail : (cs ++ rest).takeWhile isNamePart = cs :=
    takeWhile_append_of_stops (fun d hd => isNamePart_iff.2 (hParts d hd)) hStop
  rw [hSpelled]
  refine Lexes.cons _ (fun _ => isBlank_of_nameLetter hFirst) ?_ hRest
  simp [tokenAt, blockToken, punctuation?_of_nameLetter hFirst, isNameStart_iff.2 hFirst, hTail,
    ← hSpelled]

/-- Digits, with a minus sign in front if need be. -/
theorem number {c : Char} {ds : List Char} (hFirst : c.isDigit = true ∨ c = '-' ∧ ds ≠ [])
    (hDigits : ∀ d ∈ ds, d.isDigit = true) (hStop : Stops isNamePart rest)
    (hRest : Lexes true rest tokens) :
    Lexes true (c :: ds ++ rest) (.number (String.ofList (c :: ds)) :: tokens) := by
  have hTail : (ds ++ rest).takeWhile isNamePart = ds :=
    takeWhile_append_of_stops (fun d hd => isNamePart_iff.2 (Or.inr (hDigits d hd))) hStop
  obtain ⟨hName, hBlank, hPunctuation⟩ :
      isNameStart c = false ∧ isBlank c = false ∧ punctuation? c = none := by
    rcases hFirst with hDigit | ⟨rfl, -⟩
    · exact classes_of_isDigit hDigit
    · decide
  have hStarts : startsNumber c (ds ++ rest) = true := by
    rcases hFirst with hDigit | ⟨rfl, hNonempty⟩
    · simp [startsNumber, hDigit]
    · obtain ⟨d, ds, rfl⟩ := List.exists_cons_of_ne_nil hNonempty
      simp [startsNumber, hDigits d (by simp)]
  have hToken : numberToken (c :: ds) = .ok (.number (String.ofList (c :: ds))) := by
    have hAll : ds.all Char.isDigit = true := List.all_eq_true.2 hDigits
    rcases hFirst with hDigit | ⟨rfl, -⟩
    · have hNoSign : c ≠ '+' ∧ c ≠ '-' := by constructor <;> (rintro rfl; revert hDigit; decide)
      simp [numberToken, hNoSign, hDigit, hAll]
    · simp [numberToken, hAll]
  refine Lexes.cons _ (fun _ => hBlank) ?_ hRest
  simp [tokenAt, blockToken, hPunctuation, hName, hStarts, hTail, hToken, Except.map]

theorem openBrace (hRest : Lexes true rest tokens) :
    Lexes false ('\x7b' :: rest) (.openBrace :: tokens) :=
  Lexes.cons [] nofun rfl hRest

theorem plainText {text : String} (hText : IsPlainText text) (hStop : Stops (!isBrace ·) rest)
    (hRest : Lexes false rest tokens) :
    Lexes false (text.toList ++ rest) (.rawText text :: tokens) := by
  obtain ⟨hNonempty, hOpen, hClose⟩ := hText
  obtain ⟨c, cs, hSpelled⟩ := List.exists_cons_of_ne_nil (mt String.toList_eq_nil_iff.1 hNonempty)
  have hPlain : ∀ d ∈ c :: cs, d ≠ '\x7b' ∧ d ≠ '\x7d' := by
    intro d hd
    rw [← hSpelled] at hd
    exact ⟨fun h => hOpen (h ▸ hd), fun h => hClose (h ▸ hd)⟩
  have hTail : (cs ++ rest).takeWhile (!isBrace ·) = cs := by
    refine takeWhile_append_of_stops (fun d hd => ?_) hStop
    simp [isBrace, hPlain d (List.mem_cons_of_mem c hd)]
  rw [hSpelled]
  refine Lexes.cons _ nofun ?_ hRest
  simp [tokenAt, textToken, hPlain c List.mem_cons_self, hTail, ← hSpelled]

end Lexes

end Shelfmark.Template
