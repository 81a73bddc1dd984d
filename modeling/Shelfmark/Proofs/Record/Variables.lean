import Mathlib.Algebra.Group.Nat.Defs
import Shelfmark.Proofs.Template.Resolution
import Shelfmark.Proofs.Template.RoundTrip
import Shelfmark.Proofs.Text.Lowering
import Shelfmark.Record.Variables

/-!
# The variables of a resource

Everything that a resource may lack stands for empty text, not for nothing, as nothing counts as
unresolved. So a name that is known has a value whatever the resource lacks. What a name may look
like is said here by its text alone: up to case one of the names below, and behind `#` anything
if the variable is one value, but an index if it is a list.

An identifier is looked up by the part in front of its first `#`, and its case is put aside. Both
are done by text operations that know nothing of names, so that there is something to prove: that
no other character is lowered to `#` or takes it away, and that what is lowered to a name of small
letters is made of letters, so that it can be written in a template at all.

## Main results

* `Amalgam.IsKnown.exists_value` — a known identifier has a value.
* `Amalgam.process_known` — templates of known identifiers are never refused for a variable, and
  an indexed list gives its item.
-/

namespace Shelfmark

open Shelfmark.Text
open Shelfmark.Template

/-! ## Identifiers -/

namespace Template

/-- A mark stays in a text that is lowered. -/
theorem ne_mark_of_lowercase {name : String} (h : '#' ∉ (lowercase name).toList) :
    ∀ c ∈ name.toList, (c != '#') = true := by
  intro c hc
  refine bne_iff_ne.2 fun hMark => h ?_
  obtain ⟨before, after, hParts⟩ := List.append_of_mem (hMark ▸ hc)
  rw [toList_lowercase, hParts, lowerFrom_mark]
  simp

theorem splitSpecifier_plain {name : String} (h : '#' ∉ (lowercase name).toList) :
    Evaluator.splitSpecifier name = (lowercase name, none) := by
  have hAll := List.takeWhile_append_dropWhile (p := (· != '#')) (l := name.toList)
  have hRest := List.dropWhile_eq_nil_iff.2 (ne_mark_of_lowercase h)
  rw [hRest, List.append_nil] at hAll
  simp only [Evaluator.splitSpecifier, hRest, hAll, String.ofList_toList]

theorem splitSpecifier_specified {name : String} (h : '#' ∉ (lowercase name).toList)
    (specifier : String) :
    Evaluator.splitSpecifier (name ++ "#" ++ specifier) = (lowercase name, some specifier) := by
  have hParts : (name ++ "#" ++ specifier).toList = name.toList ++ '#' :: specifier.toList := by
    simp
  have hFront : (name.toList ++ '#' :: specifier.toList).takeWhile (· != '#') = name.toList := by
    rw [List.takeWhile_append_of_pos (ne_mark_of_lowercase h)]
    simp
  have hRest : (name.toList ++ '#' :: specifier.toList).dropWhile (· != '#') =
      '#' :: specifier.toList := by
    rw [List.dropWhile_append_of_pos (ne_mark_of_lowercase h)]
    simp
  simp only [Evaluator.splitSpecifier, hParts, hFront, hRest, String.ofList_toList]

end Template

/-! ## Variables -/

/-- A decimal index that fits a word of 64 bits. -/
structure IsIndex (index : String) : Prop where
  nonempty : index ≠ ""
  isDigit : ∀ c ∈ index.toList, c.isDigit = true
  fits : Nat.ofDigitChars 10 index.toList 0 < 2 ^ 64

theorem IsIndex.readUnsigned? {index : String} (h : IsIndex index) :
    readUnsigned? index.toList = some (Nat.ofDigitChars 10 index.toList 0) := by
  have hNonempty : index.toList.isEmpty = false := by simpa using h.nonempty
  have hAll : index.toList.all Char.isDigit = true := List.all_eq_true.2 h.isDigit
  have hRead : readNat? index.toList = some (Nat.ofDigitChars 10 index.toList 0) := by
    simp only [readNat?, hNonempty, hAll]
    rfl
  unfold Text.readUnsigned?
  split
  · rename_i ds hPlus
    exact absurd (h.isDigit '+' (by rw [hPlus]; simp)) (by decide)
  · exact hRead

namespace Amalgam

/-- The variables that are one value, with or without a specifier. -/
def scalarVariables : List String :=
  ["title", "titlesort", "uuid", "publisher", "desc", "rating", "publish_date", "add_date",
    "last_modify_date", "author", "series", "series_index"]

/-- The variables that are lists and take an index. -/
def listVariables : List String :=
  ["authors", "editors", "translators", "tags", "categories", "languages", "formats"]

/-- Whether an identifier names, up to case, a variable of a resource. -/
inductive IsKnown : String → Prop where
  | plain {name : String} (h : lowercase name ∈ scalarVariables ++ listVariables) : IsKnown name
  | specified {name : String} (specifier : String) (h : lowercase name ∈ scalarVariables) :
      IsKnown (name ++ "#" ++ specifier)
  | indexed {name index : String} (h : lowercase name ∈ listVariables) (hIndex : IsIndex index) :
      IsKnown (name ++ "#" ++ index)

variable (a : Amalgam)

theorem mark_notMem_of_variable {name : String} (h : name ∈ scalarVariables ++ listVariables) :
    '#' ∉ name.toList := by
  revert name
  decide

/-- A value that may be absent is never nothing, as long as the present ones are not. -/
theorem isNull_known {α : Type} (value : Option α) {f : α → Value}
    (h : ∀ x, (f x).isNull = false) : (known (value.map f)).isNull = false := by
  cases value with
  | none => rfl
  | some x => exact h x

theorem isNull_publishDate (date : PublishDate) : date.toValue.isNull = false := by
  cases date <;> rfl

theorem isNull_ratingVariable (rating : Option Int64) (specifier : Option String) :
    (ratingVariable rating specifier).isNull = false := by
  unfold ratingVariable
  split <;> rfl

/-- A variable that is one value has a value, whatever the resource lacks. -/
theorem exists_scalar {name : String} (h : name ∈ scalarVariables) (specifier : Option String) :
    ∃ v, a.resolve name specifier = some v ∧ v.isNull = false := by
  simp only [scalarVariables, List.mem_cons, List.not_mem_nil, or_false] at h
  rcases h with rfl | rfl | rfl | rfl | rfl | rfl | rfl | rfl | rfl | rfl | rfl | rfl
  · exact ⟨_, rfl, rfl⟩
  · exact ⟨_, rfl, rfl⟩
  · exact ⟨_, rfl, rfl⟩
  · exact ⟨_, rfl, rfl⟩
  · exact ⟨_, rfl, rfl⟩
  · exact ⟨_, rfl, isNull_ratingVariable _ _⟩
  · exact ⟨_, rfl, isNull_known _ isNull_publishDate⟩
  · exact ⟨_, rfl, rfl⟩
  · exact ⟨_, rfl, rfl⟩
  · exact ⟨_, rfl, isNull_known _ fun _ => rfl⟩
  · exact ⟨_, rfl, isNull_known _ fun _ => rfl⟩
  · exact ⟨_, rfl, isNull_known _ fun _ => rfl⟩

/-- A list is the same list whatever the index. -/
theorem exists_list {name : String} (h : name ∈ listVariables) :
    ∃ texts, ∀ specifier, a.resolve name specifier = listVariable texts specifier := by
  simp only [listVariables, List.mem_cons, List.not_mem_nil, or_false] at h
  rcases h with rfl | rfl | rfl | rfl | rfl | rfl | rfl <;> exact ⟨_, fun _ => rfl⟩

/-! ## Looking variables up -/

variable {a} {ev : Evaluator} {others : List Resolver} (hFirst : ev.resolvers = a.resolve :: others)
include hFirst

/-- The first source that has a value gives it. -/
theorem variableValue?_of_resolve {identifier name : String} {specifier : Option String} {v : Value}
    (hParts : Evaluator.splitSpecifier identifier = (name, specifier))
    (hValue : a.resolve name specifier = some v) (hNull : v.isNull = false) :
    ev.variableValue? identifier = some v := by
  simp [Evaluator.variableValue?, Evaluator.firstValue, hParts, hFirst, hValue, hNull]

theorem exists_listValue {name : String} (h : lowercase name ∈ listVariables) :
    ∃ texts, ev.variableValue? name = some (.ofTexts texts) ∧
      ∀ index, IsIndex index → ev.variableValue? (name ++ "#" ++ index) =
        some (.text ((texts[Nat.ofDigitChars 10 index.toList 0]?).getD "")) := by
  obtain ⟨texts, hTexts⟩ := exists_list a h
  have hMark := mark_notMem_of_variable (List.mem_append_right _ h)
  refine ⟨texts, ?_, fun index hIndex => ?_⟩
  · exact variableValue?_of_resolve hFirst (splitSpecifier_plain hMark) (hTexts none) rfl
  · refine variableValue?_of_resolve hFirst (splitSpecifier_specified hMark index) ?_ rfl
    have hFits : Nat.ofDigitChars 10 index.toList 0 < UInt64.size := hIndex.fits
    rw [hTexts, listVariable, hIndex.readUnsigned?]
    dsimp only
    rw [if_pos hFits]
    cases texts[Nat.ofDigitChars 10 index.toList 0]? <;> rfl

/-- A known identifier has a value. -/
theorem IsKnown.exists_value {identifier : String} (h : IsKnown identifier) :
    ∃ v, ev.variableValue? identifier = some v := by
  cases h with
  | plain h =>
    have hMark := mark_notMem_of_variable h
    rcases List.mem_append.1 h with hScalar | hList
    · obtain ⟨v, hValue, hNull⟩ := exists_scalar a hScalar none
      exact ⟨v, variableValue?_of_resolve hFirst (splitSpecifier_plain hMark) hValue hNull⟩
    · obtain ⟨texts, hValue, -⟩ := exists_listValue hFirst hList
      exact ⟨_, hValue⟩
  | specified specifier h =>
    have hMark := mark_notMem_of_variable (List.mem_append_left _ h)
    obtain ⟨v, hValue, hNull⟩ := exists_scalar a h (some specifier)
    have hParts := splitSpecifier_specified hMark specifier
    exact ⟨v, variableValue?_of_resolve hFirst hParts hValue hNull⟩
  | indexed h hIndex =>
    obtain ⟨texts, -, hItem⟩ := exists_listValue hFirst h
    exact ⟨_, hItem _ hIndex⟩

omit hFirst

/-! ## Templates -/

/-- A name in braces is a template that shows the value of a variable. -/
theorem process_braces {identifier : String} (hName : IsName identifier) {v : Value}
    (hValue : ev.variableValue? identifier = some v) :
    ev.process ("\x7b" ++ identifier ++ "\x7d") =
      .ok (v.render ev.listSeparator ev.dateFormat) := by
  have hPrint : print [.block ⟨false, [.name identifier]⟩] = "\x7b" ++ identifier ++ "\x7d" := by
    apply String.ext
    simp [print, Node.chars, Block.chars, chainChars, Expr.chars]
  have hWellFormed : WellFormed [.block ⟨false, [.name identifier]⟩] := by
    refine ⟨List.forall_mem_singleton.2 ⟨List.cons_ne_nil _ _, ?_⟩, .singleton _⟩
    exact List.forall_mem_singleton.2 (.name hName)
  rw [← hPrint, Evaluator.process_eq, parse_print_of_wellFormed hWellFormed]
  simp [Except.bind, Except.map, Evaluator.nodesText, Evaluator.nodeText, Evaluator.blockValue,
    Evaluator.headValue, Evaluator.runFilters, hValue]

theorem renderAll_text (listSeparator dateFormat : String) (texts : List String) :
    Value.renderAll listSeparator dateFormat (texts.map .text) = texts := by
  induction texts with
  | nil => rfl
  | cons s texts ih => rw [List.map_cons, Value.renderAll, ih, Value.render]

/-- The variables that are lists are spelled with letters, so they can be written in a template
in any case and with any index. -/
theorem isName_of_listVariable {name : String} (h : lowercase name ∈ listVariables) :
    IsName name ∧ ∀ index, IsIndex index → IsName (name ++ "#" ++ index) := by
  have hSmall : ∀ key ∈ listVariables, key ≠ "" ∧
      key.toList.all (fun d => 0x61 ≤ d.toNat && d.toNat ≤ 0x7A) = true := by
    decide
  obtain ⟨hNonempty, hAll⟩ := hSmall _ h
  have hLetters : ∀ d ∈ (lowercase name).toList, 0x61 ≤ d.toNat ∧ d.toNat ≤ 0x7A := by
    simpa using hAll
  have hName : ∀ c ∈ name.toList, NameLetter c :=
    fun c hc => .inl (isAlphabetic_of_lowercase hLetters c hc)
  obtain ⟨c, cs, hChars⟩ : ∃ c cs, name.toList = c :: cs := by
    refine List.exists_cons_of_ne_nil fun hNil => hNonempty ?_
    rw [lowercase, hNil]
    rfl
  rw [hChars, List.forall_mem_cons] at hName
  refine ⟨⟨c, cs, hChars, hName.1, fun d hd => .inl (hName.2 d hd)⟩, fun index hIndex => ?_⟩
  refine ⟨c, cs ++ '#' :: index.toList, by simp [hChars], hName.1, fun d hd => ?_⟩
  rcases List.mem_append.1 hd with hd | hd
  · exact .inl (hName.2 d hd)
  · rcases List.mem_cons.1 hd with rfl | hd
    · exact .inl (.inr (.inr (.inr rfl)))
    · exact .inr (hIndex.isDigit d hd)

/-- **Known variables never fail.** An evaluator that asks a resource first, strict or not, refuses
no template for a variable whose bare names are all known; a list variable in braces shows its
items, and with an index it shows the item there, or nothing where there is none. -/
theorem process_known (hFirst : ev.resolvers = a.resolve :: others) :
    (∀ template, (∀ nodes, parse template = .ok nodes →
        ∀ identifier ∈ bareNames nodes, IsKnown identifier) →
      ∀ name, ev.process template ≠ .error (.unresolvedVariable name)) ∧
    ∀ name, lowercase name ∈ listVariables →
      ∃ texts, ev.variableValue? name = some (.ofTexts texts) ∧
        ev.process ("\x7b" ++ name ++ "\x7d") = .ok (ev.listSeparator.intercalate texts) ∧
        ∀ index, IsIndex index →
          ev.process ("\x7b" ++ (name ++ "#" ++ index) ++ "\x7d") =
            .ok ((texts[Nat.ofDigitChars 10 index.toList 0]?).getD "") := by
  refine ⟨fun template hKnown => Evaluator.resolved_process fun nodes hParse => ?_,
    fun name hName => ?_⟩
  · exact fun identifier hMem => (hKnown nodes hParse identifier hMem).exists_value hFirst
  · obtain ⟨texts, hValue, hItem⟩ := exists_listValue hFirst hName
    obtain ⟨hPlain, hIndexed⟩ := isName_of_listVariable hName
    refine ⟨texts, hValue, ?_, fun index hIndex => ?_⟩
    · rw [process_braces hPlain hValue, Value.ofTexts, Value.render, renderAll_text]
    · rw [process_braces (hIndexed index hIndex) (hItem index hIndex), Value.render]

/-- A resource with two authors that lacks everything else. -/
private def talisman : Amalgam where
  resource := ⟨"t", "The Talisman", "Talisman", none, ⟨0⟩, ⟨0⟩, none, "", ""⟩
  persons := [⟨⟨"k", "Stephen King", "King"⟩, .author⟩, ⟨⟨"s", "Peter Straub", "Straub"⟩, .author⟩]
  groups := []
  objects := []

private def talismanEvaluator : Evaluator where
  resolvers := [talisman.resolve]
  strict := true

/-- What the resource lacks is no reason for a complaint, in front of a chain or in a call. -/
theorem process_known_talisman :
    (talismanEvaluator.process "[\x7brating#Raw\x7d\x7bWrap(Tags#7, Series_Index)\x7d]" = .ok "[]" ∧
      ∀ name, talismanEvaluator.process "[\x7brating#Raw\x7d\x7bWrap(Tags#7, Series_Index)\x7d]" ≠
        .error (.unresolvedVariable name)) ∧
    talismanEvaluator.process "\x7bAUTHORS#01\x7d" = .ok "Peter Straub" ∧
      talismanEvaluator.process "\x7bAUTHORS#2\x7d" = .ok "" := by
  have hFirst : talismanEvaluator.resolvers = talisman.resolve :: [] := rfl
  obtain ⟨hNever, hLists⟩ := process_known hFirst
  obtain ⟨texts, hValue, -, hItem⟩ := hLists "AUTHORS" (by decide +kernel)
  have hTexts : talismanEvaluator.variableValue? "AUTHORS" =
      some (.ofTexts ["Stephen King", "Peter Straub"]) := by
    rfl
  obtain rfl : texts = ["Stephen King", "Peter Straub"] := by
    rw [hTexts] at hValue
    injection hValue with hValue
    injection hValue with hValue
    exact (List.map_injective_iff.2 (fun _ _ h => Value.text.inj h) hValue).symm
  have hParse : parse "[\x7brating#Raw\x7d\x7bWrap(Tags#7, Series_Index)\x7d]" =
      .ok [.raw "[", .block ⟨false, [.name "rating#Raw"]⟩,
        .block ⟨false, [.call "Wrap" [.name "Tags#7", .name "Series_Index"]]⟩, .raw "]"] := by
    decide +kernel
  have hSecond : IsIndex "01" := ⟨by decide, List.all_eq_true.1 rfl, by decide⟩
  have hThird : IsIndex "2" := ⟨by decide, List.all_eq_true.1 rfl, by decide⟩
  refine ⟨⟨by decide +kernel, hNever _ fun nodes hNodes => ?_⟩,
    hItem "01" hSecond, hItem "2" hThird⟩
  rw [hParse] at hNodes
  cases hNodes
  intro identifier hMem
  have hNames : bareNames [.raw "[", .block ⟨false, [.name "rating#Raw"]⟩,
      .block ⟨false, [.call "Wrap" [.name "Tags#7", .name "Series_Index"]]⟩, .raw "]"] =
      ["rating#Raw", "Tags#7", "Series_Index"] := by
    rfl
  rw [hNames] at hMem
  simp only [List.mem_cons, List.not_mem_nil, or_false] at hMem
  rcases hMem with rfl | rfl | rfl
  · have hRating : lowercase "rating" ∈ scalarVariables := by decide +kernel
    exact .specified "Raw" hRating
  · have hTags : lowercase "Tags" ∈ listVariables := by decide +kernel
    have hIndex : IsIndex "7" := ⟨by decide, List.all_eq_true.1 rfl, by decide⟩
    exact .indexed hTags hIndex
  · exact .plain (by decide +kernel)

end Amalgam

end Shelfmark
