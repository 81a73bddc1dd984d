import Shelfmark.Proofs.Template.RoundTrip
import Shelfmark.Proofs.Template.Seam
import Shelfmark.Proofs.Template.Unambiguity
import Shelfmark.Template.Evaluation

/-!
# One template behind another

A template is a text that has a tree. It ends outside of its blocks, so a text behind it has
the tokens that it has alone, and since no phrase goes on behind its block, it has the tree
that it has alone. Raw text that runs together gives the same text as the two pieces would.
So templates can be put behind each other: the whole is a template if the second part is, it
gives what the parts give, and it fails as the first part that fails.

## Main results

* `parse_append` — the tree of a text behind a template.
* `templates_compose` — validity and output of one template behind another.
-/

namespace Shelfmark.Template

open Shelfmark.Text

/-! ## Pieces at the seam -/

/-- A piece in front of others. Raw text runs together with raw text. -/
def Node.before : Node → List Node → List Node
  | .raw text, .raw other :: ns => .raw (text ++ other) :: ns
  | n, ns => n :: ns

/-- Pieces in front of others. -/
def joinNodes (ms ns : List Node) : List Node := ms.foldr Node.before ns

@[simp] theorem joinNodes_nil (ns : List Node) : joinNodes [] ns = ns := rfl

@[simp] theorem joinNodes_cons (m : Node) (ms ns : List Node) :
    joinNodes (m :: ms) ns = m.before (joinNodes ms ns) := rfl

variable {t : Token} {ts us tokens : List Token} {nodes ns ks : List Node} {e : Expr}
  {es : List Expr} {b : Block}

theorem Node.before_of_head {n : Node} {ns : List Node} (h : ∀ m ∈ ns.head?, m.isRaw = false) :
    n.before ns = n :: ns := by
  unfold Node.before
  split
  · cases h _ rfl
  · rfl

/-! ## A tree behind another -/

/-- Tokens without raw text among them. -/
def NoText (tokens : List Token) : Prop := ∀ t ∈ tokens, t.isText = false

@[simp] theorem noText_nil : NoText [] := nofun

@[simp] theorem noText_cons : NoText (t :: ts) ↔ t.isText = false ∧ NoText ts :=
  List.forall_mem_cons

@[simp] theorem noText_append : NoText (ts ++ us) ↔ NoText ts ∧ NoText us :=
  List.forall_mem_append

/-- Tokens without raw text stay as they are. -/
theorem joinTokens_append_of_noText (h : NoText tokens) :
    joinTokens (tokens ++ ts) us = tokens ++ joinTokens ts us := by
  induction tokens with
  | nil => rfl
  | cons t tokens ih =>
      obtain ⟨hHead, hRest⟩ := noText_cons.1 h
      rw [List.cons_append, joinTokens_cons, ih hRest, Token.before_of_isText_eq_false hHead]
      rfl

theorem DerivesBlock.exists_concat (h : DerivesBlock tokens b) :
    ∃ inner, tokens = inner ++ [.closeBrace] := by
  cases h <;> exact ⟨_, rfl⟩

theorem inBlockAfter_concat_closeBrace (inBlock : Bool) (ts : List Token) :
    inBlockAfter inBlock (ts ++ [.closeBrace]) = false := by
  rw [inBlockAfter_append]
  cases inBlockAfter inBlock ts <;> rfl

/-- A template ends outside of its blocks. -/
theorem DerivesTemplate.ends_outside (h : DerivesTemplate tokens nodes) :
    inBlockAfter false tokens = false := by
  induction h with
  | nil => rfl
  | raw _ ih => exact ih
  | block hBlock _ ih =>
      obtain ⟨inner, rfl⟩ := hBlock.exists_concat
      rwa [inBlockAfter_append, inBlockAfter_concat_closeBrace]

mutual

theorem DerivesExpr.noText {tokens : List Token} {e : Expr} (h : DerivesExpr tokens e) :
    NoText tokens := by
  match h with
  | .string => simp [Token.isText]
  | .number _ => simp [Token.isText]
  | .name => simp [Token.isText]
  | .callEmpty => simp [Token.isText]
  | .call hArguments => simpa [Token.isText] using hArguments.noText

theorem DerivesArguments.noText {tokens : List Token} {es : List Expr}
    (h : DerivesArguments tokens es) : NoText tokens := by
  match h with
  | .last hExpr => exact hExpr.noText
  | .cons hExpr hRest => simpa [Token.isText] using ⟨hExpr.noText, hRest.noText⟩

end

theorem DerivesFilters.noText (h : DerivesFilters tokens es) : NoText tokens := by
  induction h with
  | nil => exact noText_nil
  | cons hExpr _ ih => simpa [Token.isText] using ⟨hExpr.noText, ih⟩

/-- There is no raw text in a block. -/
theorem DerivesBlock.noText (h : DerivesBlock tokens b) : NoText tokens := by
  cases h with
  | plain hExpr hFilters => simpa [Token.isText] using ⟨hExpr.noText, hFilters.noText⟩
  | optional hExpr hFilters => simpa [Token.isText] using ⟨hExpr.noText, hFilters.noText⟩

/-- What stands behind a block is read on its own. -/
theorem derivesTemplate_block_append (h : DerivesBlock tokens b) :
    DerivesTemplate (tokens ++ us) ks ↔ ∃ ns, DerivesTemplate us ns ∧ ks = .block b :: ns := by
  constructor
  · intro hWhole
    obtain ⟨d, rfl, -, rfl⟩ := h.exists_derivation
    generalize hAll : d.tokens ++ us = all at hWhole
    cases hWhole with
    | nil => simp [BlockDerivation.tokens] at hAll
    | raw hRest => simp [BlockDerivation.tokens] at hAll
    | block hBlock hRest =>
        obtain ⟨other, rfl, -, rfl⟩ := hBlock.exists_derivation
        obtain ⟨rfl, rfl⟩ := BlockDerivation.eq_of_append hAll
        exact ⟨_, hRest, rfl⟩
  · rintro ⟨ns, hRest, rfl⟩
    exact .block h hRest

theorem derivesTemplate_rawText_cons {text : String} :
    DerivesTemplate (.rawText text :: us) ks ↔
      ∃ ns, DerivesTemplate us ns ∧ ks = .raw text :: ns := by
  constructor
  · intro hWhole
    generalize hAll : Token.rawText text :: us = all at hWhole
    cases hWhole with
    | nil => cases hAll
    | raw hRest =>
        cases hAll
        exact ⟨_, hRest, rfl⟩
    | block hBlock hRest => cases hBlock <;> simp at hAll
  · rintro ⟨ns, hRest, rfl⟩
    exact .raw hRest

theorem Token.exists_rawText_or_head (us : List Token) :
    (∃ other rest, us = .rawText other :: rest) ∨ ∀ u ∈ us.head?, u.isText = false := by
  cases us with
  | nil => exact Or.inr nofun
  | cons u rest =>
      cases u with
      | rawText other => exact Or.inl ⟨other, rest, rfl⟩
      | _ => exact Or.inr (by simp [Token.isText])

/-- Raw text in front becomes a piece in front, and runs together with raw text alike. -/
theorem derivesTemplate_before {text : String} :
    DerivesTemplate (Token.before (.rawText text) us) ks ↔
      ∃ ns, DerivesTemplate us ns ∧ ks = Node.before (.raw text) ns := by
  rcases Token.exists_rawText_or_head us with ⟨other, rest, rfl⟩ | hHead
  · show DerivesTemplate (.rawText (text ++ other) :: rest) ks ↔ _
    simp [derivesTemplate_rawText_cons, Node.before]
  · rw [Token.before_of_head hHead, derivesTemplate_rawText_cons]
    refine exists_congr fun ns => and_congr_right fun hRest => ?_
    have hNodes : ∀ m ∈ ns.head?, m.isRaw = false := by
      intro m hm
      by_contra hRaw
      obtain ⟨rest, rfl⟩ := List.head?_eq_some_iff.1 hm
      obtain ⟨t, ht, hText⟩ := hRest.isText_head (by simpa using hRaw)
      rw [hHead t ht] at hText
      cases hText
    rw [Node.before_of_head hNodes]

/-- **A tree behind another.** -/
theorem derivesTemplate_join (h : DerivesTemplate ts ns) :
    DerivesTemplate (joinTokens ts us) ks ↔
      ∃ ms, DerivesTemplate us ms ∧ ks = joinNodes ns ms := by
  induction h generalizing ks with
  | nil => simp
  | @raw text ts ns _ ih =>
      rw [joinTokens_cons, derivesTemplate_before]
      simp [ih]
  | @block tokens ts b ns hBlock _ ih =>
      rw [joinTokens_append_of_noText hBlock.noText, derivesTemplate_block_append hBlock]
      simp [ih, Node.before]

/-! ## Templates behind each other -/

variable {s t : String}

theorem parse_eq_ok_iff_tokens? {source : String} {nodes : List Node} :
    parse source = .ok nodes ↔
      ∃ ts, tokens? false source.toList = some ts ∧ DerivesTemplate ts nodes := by
  rw [parse_eq_ok_iff, tokens?]
  cases lexemesFrom false 0 source.toList <;> simp [runTokens?, Except.toOption]

/-- A text behind a template is read as it is alone. -/
theorem parse_append (h : parse s = .ok ns) :
    parse (s ++ t) = .ok ks ↔ ∃ ms, parse t = .ok ms ∧ ks = joinNodes ns ms := by
  obtain ⟨ts, hTokens, hDerives⟩ := parse_eq_ok_iff_tokens?.1 h
  simp only [parse_eq_ok_iff_tokens?, String.toList_append]
  rw [tokens?_append hTokens hDerives.ends_outside]
  constructor
  · rintro ⟨_, hJoined, hWhole⟩
    obtain ⟨us, hMore, rfl⟩ := Option.map_eq_some_iff.1 hJoined
    obtain ⟨ms, hTree, rfl⟩ := (derivesTemplate_join hDerives).1 hWhole
    exact ⟨ms, ⟨us, hMore, hTree⟩, rfl⟩
  · rintro ⟨ms, ⟨us, hMore, hTree⟩, rfl⟩
    refine ⟨joinTokens ts us, by rw [hMore]; rfl, ?_⟩
    exact (derivesTemplate_join hDerives).2 ⟨ms, hTree, rfl⟩

theorem isValid_iff : isValid s = true ↔ ∃ nodes, parse s = .ok nodes := by
  unfold isValid
  cases parse s <;> simp [Except.isOk, Except.toBool]

theorem Evaluator.nodesText_before (ev : Evaluator) (n : Node) :
    ev.nodesText (n.before ns) = ev.nodesText (n :: ns) := by
  unfold Node.before
  split
  · rename_i text other ns
    simp only [nodesText_cons]
    show (ev.nodesText ns).map (text ++ other ++ ·) =
      ((ev.nodesText ns).map (other ++ ·)).map (text ++ ·)
    cases ev.nodesText ns with
    | error fault => rfl
    | ok rest => exact congrArg Except.ok (String.append_assoc ..)
  · rfl

/-- Text that runs together is the same text. -/
theorem Evaluator.nodesText_join (ev : Evaluator) (ms ns : List Node) :
    ev.nodesText (joinNodes ms ns) = ev.nodesText (ms ++ ns) := by
  induction ms with
  | nil => rfl
  | cons m ms ih =>
      rw [joinNodes_cons, nodesText_before, List.cons_append, nodesText_cons, nodesText_cons, ih]

theorem isValid_append (h : isValid s = true) (t : String) : isValid (s ++ t) = isValid t := by
  obtain ⟨ns, hParse⟩ := isValid_iff.1 h
  rw [Bool.eq_iff_iff, isValid_iff, isValid_iff]
  constructor
  · rintro ⟨ks, hWhole⟩
    obtain ⟨ms, hMore, -⟩ := (parse_append hParse).1 hWhole
    exact ⟨ms, hMore⟩
  · rintro ⟨ms, hMore⟩
    exact ⟨_, (parse_append hParse).2 ⟨ms, hMore, rfl⟩⟩

theorem Evaluator.process_append (ev : Evaluator) (hs : isValid s = true) (ht : isValid t = true) :
    ev.process (s ++ t) = (ev.process s).bind fun a => (ev.process t).map (a ++ ·) := by
  obtain ⟨ns, hFirst⟩ := isValid_iff.1 hs
  obtain ⟨ms, hSecond⟩ := isValid_iff.1 ht
  have hWhole := (parse_append hFirst).2 ⟨ms, hSecond, rfl⟩
  rw [process_eq, process_eq, process_eq, hFirst, hSecond, hWhole]
  exact (ev.nodesText_join ns ms).trans (ev.nodesText_append ns ms)

theorem isValid_and_process_of_plain {u : String} (hPlain : ∀ c ∈ u.toList, isBrace c = false) :
    isValid u = true ∧ ∀ ev : Evaluator, ev.process u = .ok u := by
  obtain ⟨nodes, hParse, hText⟩ :
      ∃ nodes, parse u = .ok nodes ∧ ∀ ev : Evaluator, ev.nodesText nodes = .ok u := by
    cases hChars : u.toList with
    | nil =>
        obtain rfl := String.toList_eq_nil_iff.1 hChars
        exact ⟨[], parse_eq_ok_iff_tokens?.2 ⟨[], tokens?_nil, .nil⟩, fun _ => rfl⟩
    | cons c cs =>
        rw [hChars] at hPlain
        refine ⟨[.raw u], parse_eq_ok_iff_tokens?.2 ⟨[.rawText u], ?_, .raw .nil⟩, fun ev => ?_⟩
        · rw [hChars, tokens?_allPlain hPlain, ← hChars, String.ofList_toList]
        · show Except.ok (u ++ "") = .ok u
          rw [String.append_empty]
  refine ⟨isValid_iff.2 ⟨nodes, hParse⟩, fun ev => ?_⟩
  rw [Evaluator.process_eq, hParse]
  exact hText ev

/-- **Templates compose.** Behind a template, a text makes a template just when it is one.
Then the whole gives the text of the first part and that of the second; it fails as the first
part does, or else as the second. Text without braces gives itself wherever it stands. -/
theorem templates_compose (hs : isValid s = true) :
    (∀ t, isValid (s ++ t) = isValid t) ∧
      (∀ (ev : Evaluator) t, isValid t = true →
        ev.process (s ++ t) = (ev.process s).bind fun a => (ev.process t).map (a ++ ·)) ∧
      ∀ (ev : Evaluator) u t, '\x7b' ∉ u.toList → '\x7d' ∉ u.toList → isValid t = true →
        ev.process u = .ok u ∧ ev.process (s ++ u ++ t) =
          (ev.process s).bind fun a => (ev.process t).map (a ++ u ++ ·) := by
  refine ⟨isValid_append hs, fun ev t ht => ev.process_append hs ht, ?_⟩
  intro ev u t hOpen hClose ht
  have hPlain : ∀ c ∈ u.toList, isBrace c = false := by
    intro c hc
    have hNotOpen : c ≠ '\x7b' := fun h => hOpen (h ▸ hc)
    have hNotClose : c ≠ '\x7d' := fun h => hClose (h ▸ hc)
    simp [isBrace, hNotOpen, hNotClose]
  obtain ⟨hu, hText⟩ := isValid_and_process_of_plain hPlain
  have hBoth : isValid (s ++ u) = true := (isValid_append hs u).trans hu
  refine ⟨hText ev, ?_⟩
  rw [ev.process_append hBoth ht, ev.process_append hs hu, hText ev]
  cases ev.process s <;> rfl

/-- A strict evaluator that knows one variable. -/
def titleOnly : Evaluator where
  resolvers := [fun name _ => if name = "title" then some (.text "It") else none]
  strict := true

/-- Behind a template with a brace in quotes: an open block, a template, and a template that
fails with raw text in front of it. -/
theorem templates_compose_sample :
    isValid "\x7btitle | wrap('\x7b@\x7d')\x7d " = true ∧
      isValid ("\x7btitle | wrap('\x7b@\x7d')\x7d " ++ "or \x7b") = false ∧
      titleOnly.process ("\x7btitle | wrap('\x7b@\x7d')\x7d " ++ "or \x7btitle\x7d") =
        .ok "\x7bIt\x7d or It" ∧
      titleOnly.process ("\x7btitle | wrap('\x7b@\x7d')\x7d " ++ "or " ++ "\x7bname\x7d") =
        .error (.unresolvedVariable "name") := by
  have hFirst : isValid "\x7btitle | wrap('\x7b@\x7d')\x7d " = true := by decide +kernel
  obtain ⟨hValid, hProcess, hPlain⟩ := templates_compose hFirst
  have hText : titleOnly.process "\x7btitle | wrap('\x7b@\x7d')\x7d " = .ok "\x7bIt\x7d " := by
    decide +kernel
  have hMore : titleOnly.process "or \x7btitle\x7d" = .ok "or It" := by decide +kernel
  have hFault : titleOnly.process "\x7bname\x7d" = .error (.unresolvedVariable "name") := by
    decide +kernel
  refine ⟨hFirst, ?_, ?_, ?_⟩
  · rw [hValid]
    decide +kernel
  · rw [hProcess titleOnly _ (by decide +kernel), hText, hMore]
    rfl
  · have hSeam := (hPlain titleOnly "or " "\x7bname\x7d" (by decide) (by decide)
      (by decide +kernel)).2
    rw [hSeam, hText, hFault]
    rfl

end Shelfmark.Template
