import Shelfmark.Proofs.Template.Seam

/-!
# A text up to its first bad lexeme

Where a text has no tokens, its fault has a place: that of the first lexeme that cannot be
read. The text before it has tokens, and they leave a block open, since nothing goes wrong
outside of the blocks.

Reading takes the longest lexeme, so it looks at what stands behind one. With the text cut
off at the fault, each lexeme before it must still be read as it was. A run of a class of
characters has ended before the cut, and so has a string, which ends with its quote. A sign
starts a number because of the digit behind it, and that digit belongs to the lexeme.

## Main results

* `lexical_fault_place` — the place of a lexical fault and the text before it.
-/

namespace Shelfmark.Template

open Shelfmark.Text

variable {inBlock : Bool} {c : Char} {cs tail kept cut : List Char} {t : Token} {offset : Nat}
  {fault : LexicalFault}

/-! ## A token with less text behind it -/

/-- A run that is a whole text in front of others is so in front of fewer. -/
theorem takeWhile_of_cut {p : Char → Bool} (h : (tail ++ (kept ++ cut)).takeWhile p = tail) :
    (tail ++ kept).takeWhile p = tail := by
  have hAll : ∀ d ∈ tail, p d = true := fun d hd => List.mem_takeWhile_imp (h ▸ hd)
  refine takeWhile_append_of_stops hAll fun d hd => ?_
  have hStop := stops_drop_takeWhile p (tail ++ (kept ++ cut))
  rw [h, List.drop_left] at hStop
  refine hStop d ?_
  cases kept with
  | nil => cases hd
  | cons e kept => exact hd

/-- Whether a number starts is decided by the characters that belong to it. -/
theorem startsNumber_takeWhile (c : Char) (cs : List Char) :
    startsNumber c (cs.takeWhile isNamePart) = startsNumber c cs := by
  cases cs with
  | nil => rfl
  | cons d cs =>
      by_cases hPart : isNamePart d = true
      · simp [startsNumber, hPart]
      · have hDigit : d.isDigit = false := by
          rw [isNamePart_iff, not_or] at hPart
          simpa using hPart.2
        simp [startsNumber, hPart, hDigit]

theorem blockToken_of_cut (h : blockToken c (tail ++ (kept ++ cut)) = .ok (t, tail)) :
    blockToken c (tail ++ kept) = .ok (t, tail) := by
  unfold blockToken at h ⊢
  cases hPunctuation : punctuation? c with
  | some punctuation =>
      rw [hPunctuation] at h
      exact h
  | none =>
      rw [hPunctuation] at h
      dsimp only at h ⊢
      by_cases hName : isNameStart c = true
      · rw [if_pos hName] at h ⊢
        have hRun : (tail ++ (kept ++ cut)).takeWhile isNamePart = tail :=
          congrArg Prod.snd (Except.ok.inj h)
        rw [hRun] at h
        rw [takeWhile_of_cut hRun, h]
      · rw [if_neg hName] at h ⊢
        by_cases hNumber : startsNumber c (tail ++ (kept ++ cut)) = true
        · rw [if_pos hNumber] at h
          obtain ⟨token, hToken, hPair⟩ := exists_of_map_ok h
          have hRun : (tail ++ (kept ++ cut)).takeWhile isNamePart = tail :=
            congrArg Prod.snd hPair
          have hStarts : startsNumber c (tail ++ kept) = true := by
            rw [← startsNumber_takeWhile, takeWhile_of_cut hRun, ← hRun, startsNumber_takeWhile]
            exact hNumber
          rw [if_pos hStarts, takeWhile_of_cut hRun]
          rwa [hRun] at h
        · rw [if_neg hNumber] at h
          by_cases hQuote : c = '\'' ∨ c = '"'
          · have hPlain : c ≠ '\\' := by rcases hQuote with rfl | rfl <;> decide
            have hQuoted : (decide (c = '\'') || decide (c = '"')) = true := by simpa using hQuote
            rw [if_pos hQuoted] at h
            rw [startsNumber_of_quote hQuote, if_neg (by simp), if_pos hQuoted]
            obtain ⟨content, hContent, hPair⟩ := exists_of_map_ok h
            have hTail : stringTail c (tail ++ (kept ++ cut)) = tail := congrArg Prod.snd hPair
            obtain ⟨body, hEnd, hBody⟩ := escapes_of_unescape hPlain hContent
            rw [hTail] at hEnd
            have hSame : stringTail c (tail ++ kept) = tail := by
              rw [hEnd, List.append_assoc, List.singleton_append]
              exact stringTail_of_escapes hPlain hBody
            rw [hTail] at h
            rwa [hSame]
          · rw [if_neg (by simpa using hQuote)] at h
            cases h

theorem textToken_of_cut (h : textToken c (tail ++ (kept ++ cut)) = (t, tail)) :
    textToken c (tail ++ kept) = (t, tail) := by
  unfold textToken at h ⊢
  by_cases hOpen : c = '\x7b'
  · rw [if_pos hOpen] at h ⊢
    exact h
  · rw [if_neg hOpen] at h ⊢
    by_cases hClose : c = '\x7d'
    · rw [if_pos hClose] at h ⊢
      exact h
    · rw [if_neg hClose] at h ⊢
      have hRun : (tail ++ (kept ++ cut)).takeWhile (!isBrace ·) = tail := congrArg Prod.snd h
      rw [hRun] at h
      rw [takeWhile_of_cut hRun, h]

/-- **A token is read the same with less text behind it.** -/
theorem tokenAt_of_cut (h : tokenAt inBlock c (tail ++ (kept ++ cut)) = .ok (t, tail)) :
    tokenAt inBlock c (tail ++ kept) = .ok (t, tail) := by
  cases inBlock with
  | true => exact blockToken_of_cut h
  | false => exact congrArg Except.ok (textToken_of_cut (Except.ok.inj h))

/-! ## The text before a fault -/

/-- Nothing goes wrong outside of the blocks. -/
theorem inBlock_of_tokenAt_error {cause : LexicalCause} (h : tokenAt inBlock c cs = .error cause) :
    inBlock = true ∧ blockToken c cs = .error cause := by
  cases inBlock with
  | true => exact ⟨rfl, h⟩
  | false => cases h

/-- A fault comes from a lexeme in a block; the text before it has tokens, and they lead into
that block. -/
theorem exists_lexes_before_fault (h : lexemesFrom inBlock offset cs = .error fault) :
    ∃ front c rest tokens, cs = front ++ c :: rest ∧ fault.offset = offset + byteLength front ∧
      Lexes inBlock front tokens ∧ inBlockAfter inBlock tokens = true ∧ isBlank c = false ∧
      blockToken c rest = .error fault.cause := by
  fun_induction lexemesFrom inBlock offset cs with
  | case1 => cases h
  | case2 inBlock offset c cs hSkip ih =>
      obtain ⟨front, d, rest, tokens, rfl, hPlace, hLexes, hFault⟩ := ih h
      obtain ⟨rfl, hBlank⟩ : inBlock = true ∧ isBlank c = true := by simpa using hSkip
      refine ⟨c :: front, d, rest, tokens, rfl, ?_, hLexes.blank hBlank, hFault⟩
      rw [hPlace, byteLength_cons, Nat.add_assoc]
  | case3 inBlock offset c cs hSkip cause hToken =>
      cases h
      obtain ⟨rfl, hFault⟩ := inBlock_of_tokenAt_error hToken
      exact ⟨[], c, cs, [], rfl, rfl, Lexes.nil true, rfl, by simpa using hSkip, hFault⟩
  | case4 inBlock offset c cs hSkip t tail hToken ih =>
      obtain ⟨front, d, rest, tokens, hBehind, hPlace, hLexes, hMode, hFault⟩ :=
        ih (error_of_map_error h)
      have hText : cs = tail ++ (front ++ d :: rest) := by
        rw [← hBehind]
        exact (List.prefix_iff_eq_append.1 (tokenAt_spelled hToken).1).symm
      have hBlank : inBlock = true → isBlank c = false := by
        rintro rfl
        simpa using hSkip
      rw [hText] at hToken
      refine ⟨c :: tail ++ front, d, rest, t :: tokens, by simp [hText], ?_,
        Lexes.cons tail hBlank (tokenAt_of_cut hToken) hLexes, hMode, hFault⟩
      rw [hPlace, byteLength_append, Nat.add_assoc]

theorem tokenize_of_lexes {cs : List Char} {tokens : List Token} (h : Lexes false cs tokens) :
    ∃ ls, tokenize (String.ofList cs) = .ok ls ∧ ls.map Lexeme.token = tokens := by
  obtain ⟨ls, hRun, hTokens⟩ := h 0
  refine ⟨ls, ?_, hTokens⟩
  simp [tokenize, lexemes, hRun]

/-- The bytes of a text are those of its characters. -/
theorem utf8ByteSize_ofList (cs : List Char) : (String.ofList cs).utf8ByteSize = byteLength cs := by
  induction cs with
  | nil => rfl
  | cons c cs ih =>
      have hFirst : (String.ofList [c]).utf8ByteSize = c.utf8Size := by
        rw [← String.size_toByteArray, String.toByteArray_ofList, List.utf8Encode_singleton,
          List.size_toByteArray, String.length_utf8EncodeChar]
      rw [← List.singleton_append, String.ofList_append, String.utf8ByteSize_append, hFirst, ih]
      rfl

/-- **A lexical fault has the place of the first bad lexeme.** A text without tokens is cut in
two by the place of its fault, and neither part is empty. The front has tokens, which leave a
block open, and what is wrong is the lexeme that the rest starts with. -/
theorem lexical_fault_place {source : String} {fault : Fault} (h : tokenize source = .error fault) :
    ∃ cause front rest ls, fault = .lexical cause front.utf8ByteSize ∧ source = front ++ rest ∧
      front ≠ "" ∧ rest ≠ "" ∧ tokenize front = .ok ls ∧ LeavesOpen (ls.map Lexeme.token) ∧
      ∃ c cs, rest.toList = c :: cs ∧ isBlank c = false ∧ blockToken c cs = .error cause := by
  unfold tokenize lexemes at h
  split at h
  · cases h
  · rename_i lexical hRun
    cases h
    obtain ⟨front, c, cs, tokens, hText, hPlace, hLexes, hMode, hBlank, hFault⟩ :=
      exists_lexes_before_fault hRun
    obtain ⟨ls, hTokens, rfl⟩ := tokenize_of_lexes hLexes
    have hOpen := inBlockAfter_eq_true_iff.1 hMode
    refine ⟨lexical.cause, String.ofList front, String.ofList (c :: cs), ls, ?_, ?_, ?_, by simp,
      hTokens, hOpen, c, cs, String.toList_ofList, hBlank, hFault⟩
    · rw [hPlace, Nat.zero_add, utf8ByteSize_ofList]
    · rw [← String.ofList_append, ← hText, String.ofList_toList]
    · intro hEmpty
      have hNone : tokenize "" = .ok [] := by simp [tokenize, lexemes, lexemesFrom]
      rw [hEmpty, hNone] at hTokens
      cases hTokens
      obtain ⟨outer, inner, hSplit, -⟩ := hOpen
      simp at hSplit

/-- An escape that there is not, behind characters of several bytes. -/
theorem lexical_fault_place_sample :
    tokenize "é\x7bü|'a\\q'\x7d" = .error (.lexical (.invalidEscape 'q') 6) ∧
      ∃ cause front rest ls,
        Fault.lexical (.invalidEscape 'q') 6 = .lexical cause front.utf8ByteSize ∧
        "é\x7bü|'a\\q'\x7d" = front ++ rest ∧ front ≠ "" ∧ rest ≠ "" ∧
        tokenize front = .ok ls ∧ LeavesOpen (ls.map Lexeme.token) ∧
        ∃ c cs, rest.toList = c :: cs ∧ isBlank c = false ∧ blockToken c cs = .error cause := by
  have hFault : tokenize "é\x7bü|'a\\q'\x7d" = .error (.lexical (.invalidEscape 'q') 6) := by
    decide +kernel
  exact ⟨hFault, lexical_fault_place hFault⟩

end Shelfmark.Template
