import Shelfmark.Proofs.Calendar.Fields
import Shelfmark.Template.Builtin

/-!
# Date patterns made of tokens

A pattern without a percent sign is a text with tokens such as `YYYY` or `mm`. It is not laid out
as it stands: its tokens are replaced by directives, and the result is read again, as a pattern
of another language. Two things could go wrong on this way. A token could be cut out of a longer
one, `MM` out of `MMMM`; and a directive could be read together with what follows it, so that it
becomes another directive or none at all.

So what a pattern means is said without directives. `Lays` scans the pattern from left to right,
puts a part of the date in the place of the longest token, and copies every other character. It
has one outcome at most, `Lays.unique`, and reading the replaced pattern gives just this outcome.

## Main results

* `dateTokenAt?_eq_some_iff` — what is replaced is the longest token.
* `ofPadded?_directive` — a directive is read the same whatever follows it.
* `formatDate_lays` — a pattern of tokens always lays out, as it is scanned.
-/

namespace Shelfmark.Template

open Shelfmark.Text
open Shelfmark.Calendar

/-- What a token of a date pattern stands for. -/
inductive DateToken where
  | year
  | yearOfCentury
  | monthName
  | monthAbbreviation
  | paddedMonth
  | month
  | paddedDay
  | day
  | paddedHour
  | hour
  | minute
  | second
  deriving DecidableEq, Repr

namespace DateToken

/-- All tokens, the longer before the shorter. -/
def all : List DateToken :=
  [year, yearOfCentury, monthName, monthAbbreviation, paddedMonth, month, paddedDay, day,
    paddedHour, hour, minute, second]

/-- How the token is written in a pattern. -/
def spelling : DateToken → String
  | year => "YYYY"
  | yearOfCentury => "YY"
  | monthName => "MMMM"
  | monthAbbreviation => "MMM"
  | paddedMonth => "MM"
  | month => "M"
  | paddedDay => "DD"
  | day => "D"
  | paddedHour => "HH"
  | hour => "H"
  | minute => "mm"
  | second => "ss"

/-- The part of a date that the token stands for. -/
def chars (m : Moment) : DateToken → List Char
  | year => yearChars m.date.year
  | yearOfCentury => zeroPadded 2 (m.date.year % 100).toNat
  | monthName => PatternItem.nameAt PatternItem.monthNames (m.date.month - 1)
  | monthAbbreviation => (PatternItem.nameAt PatternItem.monthNames (m.date.month - 1)).take 3
  | paddedMonth => zeroPadded 2 m.date.month
  | month => natDigits m.date.month
  | paddedDay => zeroPadded 2 m.date.day
  | day => natDigits m.date.day
  | paddedHour => zeroPadded 2 m.hour
  | hour => natDigits m.hour
  | minute => zeroPadded 2 m.minute
  | second => zeroPadded 2 m.second

/-- Whether characters start with the token. -/
def StartsAt (token : DateToken) (cs : List Char) : Prop := token.spelling.toList <+: cs

/-- Whether the token is the longest that characters start with. -/
def LongestAt (token : DateToken) (cs : List Char) : Prop :=
  token.StartsAt cs ∧
    ∀ other : DateToken, other.StartsAt cs →
      other.spelling.toList.length ≤ token.spelling.toList.length

end DateToken

/-- Whether a pattern, scanned from left to right, lays out a date as a text: the longest token
becomes its part of the date, and a character with which no token starts is copied. -/
inductive Lays (m : Moment) : List Char → List Char → Prop where
  | done : Lays m [] []
  | token {token : DateToken} {cs out : List Char} (hLongest : token.LongestAt cs)
      (hRest : Lays m (cs.drop token.spelling.toList.length) out) :
      Lays m cs (token.chars m ++ out)
  | copied {c : Char} {cs out : List Char} (hNone : ∀ token : DateToken, ¬ token.StartsAt (c :: cs))
      (hRest : Lays m cs out) : Lays m (c :: cs) (c :: out)

namespace DateToken

/-! ## The longest token -/

theorem mem_all (token : DateToken) : token ∈ all := by
  cases token <;> decide

theorem spelling_ne_nil (token : DateToken) : token.spelling.toList ≠ [] := by
  cases token <;> decide

theorem spelling_injective {a b : DateToken} (h : a.spelling.toList = b.spelling.toList) :
    a = b := by
  revert h
  cases a <;> cases b <;> decide

/-- The directive that takes the place of the token. -/
def directive : DateToken → String
  | year => "%Y"
  | yearOfCentury => "%y"
  | monthName => "%B"
  | monthAbbreviation => "%b"
  | paddedMonth => "%m"
  | month => "%-m"
  | paddedDay => "%d"
  | day => "%-d"
  | paddedHour => "%H"
  | hour => "%-H"
  | minute => "%M"
  | second => "%S"

theorem dateTokens_eq : dateTokens = all.map fun token => (token.spelling, token.directive) := rfl

/-- Of two tokens that characters start with, the longer one is tried first. -/
theorem ordered : all.Pairwise fun a b =>
    a.spelling.toList.head? ≠ b.spelling.toList.head? ∨
      b.spelling.toList.length ≤ a.spelling.toList.length := by
  decide

theorem StartsAt.head? {token : DateToken} {cs : List Char} (h : token.StartsAt cs) :
    token.spelling.toList.head? = cs.head? := by
  obtain ⟨rest, rfl⟩ := h
  cases hSpelling : token.spelling.toList with
  | nil => exact absurd hSpelling token.spelling_ne_nil
  | cons c tail => rfl

/-- There is one longest token. -/
theorem LongestAt.unique {a b : DateToken} {cs : List Char} (ha : a.LongestAt cs)
    (hb : b.LongestAt cs) : a = b := by
  have hLength := Nat.le_antisymm (hb.2 a ha.1) (ha.2 b hb.1)
  have hPrefix := List.prefix_of_prefix_length_le ha.1 hb.1 (Nat.le_of_eq hLength)
  exact spelling_injective (hPrefix.eq_of_length hLength)

end DateToken

/-- What is replaced is the longest token, as the table has it before its own beginnings. -/
theorem dateTokenAt?_eq_some_iff {cs : List Char} {p : String × String} :
    dateTokenAt? cs = some p ↔
      ∃ token : DateToken, token.LongestAt cs ∧ p = (token.spelling, token.directive) := by
  have hTable : dateTokenAt? cs =
      (DateToken.all.find? fun token => token.spelling.toList.isPrefixOf cs).map
        fun token => (token.spelling, token.directive) := by
    rw [dateTokenAt?, DateToken.dateTokens_eq, List.find?_map]
    rfl
  have hFirst : ∀ token, (DateToken.all.find? fun other => other.spelling.toList.isPrefixOf cs) =
      some token → token.LongestAt cs := by
    intro token hFound
    obtain ⟨hStarts, before, after, hAll, hBefore⟩ := List.find?_eq_some_iff_append.1 hFound
    have hStarts : token.StartsAt cs := List.isPrefixOf_iff_prefix.1 hStarts
    refine ⟨hStarts, fun other hOther => ?_⟩
    have hOrdered := DateToken.ordered
    have hMember := other.mem_all
    rw [hAll] at hOrdered hMember
    rcases List.mem_append.1 hMember with hMember | hMember
    · have hNot := hBefore other hMember
      rw [List.isPrefixOf_iff_prefix.2 hOther] at hNot
      cases hNot
    · rcases List.mem_cons.1 hMember with rfl | hMember
      · exact Nat.le_refl _
      · have hPair := (List.pairwise_cons.1 (List.pairwise_append.1 hOrdered).2.1).1 other hMember
        exact hPair.resolve_left fun hHead =>
          hHead (hStarts.head?.trans hOther.head?.symm)
  constructor
  · intro h
    rw [hTable, Option.map_eq_some_iff] at h
    obtain ⟨token, hFound, rfl⟩ := h
    exact ⟨token, hFirst token hFound, rfl⟩
  · rintro ⟨token, hLongest, rfl⟩
    rw [hTable, Option.map_eq_some_iff]
    -- some token is found, and as the longest one it is this one
    have hSome : (DateToken.all.find? fun other => other.spelling.toList.isPrefixOf cs).isSome :=
      List.find?_isSome.2 ⟨token, token.mem_all, List.isPrefixOf_iff_prefix.2 hLongest.1⟩
    obtain ⟨found, hFound⟩ := Option.isSome_iff_exists.1 hSome
    exact ⟨found, hFound, by rw [(hFirst found hFound).unique hLongest]⟩

theorem dateTokenAt?_eq_none_iff {cs : List Char} :
    dateTokenAt? cs = none ↔ ∀ token : DateToken, ¬ token.StartsAt cs := by
  rw [dateTokenAt?, DateToken.dateTokens_eq, List.find?_eq_none]
  simp only [List.forall_mem_map, List.isPrefixOf_iff_prefix]
  exact ⟨fun h token => h token token.mem_all, fun h token _ => h token⟩

/-! ## One outcome -/

/-- A pattern lays out a date as one text. -/
theorem Lays.unique {m : Moment} {cs out out' : List Char} (h : Lays m cs out)
    (h' : Lays m cs out') : out = out' := by
  induction h generalizing out' with
  | done =>
    cases h' with
    | done => rfl
    | token hLongest _ =>
      exact absurd (List.prefix_nil.1 hLongest.1) (DateToken.spelling_ne_nil _)
  | token hLongest _ ih =>
    cases h' with
    | done => exact absurd (List.prefix_nil.1 hLongest.1) (DateToken.spelling_ne_nil _)
    | token hLongest' hRest' =>
      cases hLongest.unique hLongest'
      rw [ih hRest']
    | copied hNone _ => exact absurd hLongest.1 (hNone _)
  | copied hNone _ ih =>
    cases h' with
    | token hLongest _ => exact absurd hLongest.1 (hNone _)
    | copied _ hRest' => rw [ih hRest']

/-! ## Reading the replaced pattern -/

/-- Whether a pattern of directives is read as pieces, in as many steps as it has characters or
more. -/
def Reads (cs : List Char) (items : List PatternItem) : Prop :=
  ∀ fuel, cs.length ≤ fuel → PatternItem.readAll? fuel cs = some items

namespace Reads

theorem nil : Reads [] [] := by
  intro fuel _
  cases fuel <;> rfl

theorem literal {c : Char} {cs : List Char} {items : List PatternItem} (hc : c ≠ '%')
    (h : Reads cs items) : Reads (c :: cs) (.literal c :: items) := by
  intro fuel hFuel
  cases fuel with
  | zero => exact absurd hFuel (Nat.not_succ_le_zero _)
  | succ fuel =>
    rw [PatternItem.readAll?, if_neg hc, h fuel (Nat.le_of_succ_le_succ hFuel)]
    rfl

theorem directive {body cs : List Char} {items items' : List PatternItem}
    (hBody : PatternItem.ofPadded? (body ++ cs) = some (items, cs)) (h : Reads cs items') :
    Reads ('%' :: body ++ cs) (items ++ items') := by
  intro fuel hFuel
  cases fuel with
  | zero => exact absurd hFuel (Nat.not_succ_le_zero _)
  | succ fuel =>
    have hRest : cs.length ≤ fuel := by
      simp only [List.cons_append, List.length_cons, List.length_append] at hFuel
      omega
    rw [List.cons_append, PatternItem.readAll?, if_pos rfl, hBody]
    dsimp only
    rw [h fuel hRest]
    rfl

end Reads

namespace DateToken

/-- The piece of a pattern that the directive of the token is read as. -/
def item : DateToken → PatternItem
  | year => .number .year .zero
  | yearOfCentury => .number .yearOfCentury .zero
  | monthName => .text .monthName
  | monthAbbreviation => .text .monthAbbreviation
  | paddedMonth => .number .month .zero
  | month => .number .month .none
  | paddedDay => .number .day .zero
  | day => .number .day .none
  | paddedHour => .number .hour .zero
  | hour => .number .hour .none
  | minute => .number .minute .zero
  | second => .number .second .zero

/-- A directive ends with a letter, so it is read the same whatever follows it. -/
theorem ofPadded?_directive (token : DateToken) :
    ∃ body, token.directive.toList = '%' :: body ∧
      ∀ rest, PatternItem.ofPadded? (body ++ rest) = some ([token.item], rest) := by
  cases token <;> exact ⟨_, rfl, fun rest => rfl⟩

/-- The piece shows the part of the date that the token stands for. -/
theorem chars_item {m : Moment} (hNanos : m.nanos < 2000000000) (token : DateToken) :
    token.item.chars m = token.chars m := by
  have hMonth : m.date.month < 100 := by
    have := Date.month_ofDays (m.clockSeconds / 86400)
    exact Nat.lt_of_le_of_lt this.2 (by decide)
  have hDay : m.date.day < 100 :=
    Nat.lt_of_le_of_lt (Date.day_ofDays (m.clockSeconds / 86400)).2 (by decide)
  have hHour : m.hour < 100 := Nat.lt_trans m.hour_lt (by decide)
  have hYear : (m.date.year % 100).toNat < 100 := by omega
  cases token with
  | year => exact PatternItem.yearDigits_zero _
  | yearOfCentury => exact PatternItem.twoDigits_zero hYear
  | monthName => rfl
  | monthAbbreviation => rfl
  | paddedMonth => exact PatternItem.twoDigits_zero hMonth
  | month => exact PatternItem.twoDigits_none hMonth
  | paddedDay => exact PatternItem.twoDigits_zero hDay
  | day => exact PatternItem.twoDigits_none hDay
  | paddedHour => exact PatternItem.twoDigits_zero hHour
  | hour => exact PatternItem.twoDigits_none hHour
  | minute => exact PatternItem.twoDigits_zero (Nat.lt_trans m.minute_lt (by decide))
  | second =>
    exact PatternItem.twoDigits_zero (Nat.lt_of_le_of_lt (Moment.second_le hNanos) (by decide))

end DateToken

/-- The replaced pattern is read, and its pieces lay out a date as the tokens do. The induction
follows the replacement, so it passes over the characters of a token that has been replaced. -/
theorem exists_reads (m : Moment) (skip : Nat) (cs : List Char) (hPlain : '%' ∉ cs) :
    ∃ items, Reads (replaceDateTokens skip cs) items ∧
      (m.nanos < 2000000000 → Lays m (cs.drop skip) (items.flatMap (PatternItem.chars m))) := by
  induction skip, cs using replaceDateTokens.induct with
  | case1 skip =>
    rw [replaceDateTokens, List.drop_nil]
    exact ⟨[], .nil, fun _ => .done⟩
  | case2 skip c cs ih =>
    rw [replaceDateTokens, List.drop_succ_cons]
    exact ih (fun h => hPlain (.tail _ h))
  | case3 c cs spelling directive hFound ih =>
    obtain ⟨items, hReads, hLays⟩ := ih (fun h => hPlain (.tail _ h))
    obtain ⟨token, hLongest, hPair⟩ := dateTokenAt?_eq_some_iff.1 hFound
    cases hPair
    obtain ⟨body, hBody, hRead⟩ := token.ofPadded?_directive
    have hDrop : (c :: cs).drop token.spelling.toList.length =
        cs.drop (token.spelling.toList.length - 1) := by
      cases hSpelling : token.spelling.toList with
      | nil => exact absurd hSpelling token.spelling_ne_nil
      | cons _ _ => rfl
    simp only [replaceDateTokens, hFound, hBody]
    refine ⟨[token.item] ++ items, .directive (hRead _) hReads, fun hNanos => ?_⟩
    rw [List.flatMap_append, List.flatMap_singleton, token.chars_item hNanos, List.drop_zero]
    exact .token hLongest (hDrop ▸ hLays hNanos)
  | case4 c cs hNone ih =>
    obtain ⟨items, hReads, hLays⟩ := ih (fun h => hPlain (.tail _ h))
    simp only [replaceDateTokens, hNone]
    refine ⟨.literal c :: items, hReads.literal (fun h => hPlain (h ▸ .head _)), fun hNanos => ?_⟩
    exact .copied (dateTokenAt?_eq_none_iff.1 hNone) (hLays hNanos)

/-- Only a value that is a date from the start may have too many nanoseconds. -/
theorem Value.nanos_of_toMoment? {value : Value} {m : Moment} (h : value.toMoment? = some m)
    (hDate : ∀ shown, value = .date shown → shown.nanos < 2000000000) : m.nanos < 2000000000 := by
  cases value with
  | null => cases h
  | text s => exact Moment.nanos_of_readRfc3339? h
  | number x =>
    rw [Moment.nanos_of_ofSeconds? h]
    decide
  | date shown =>
    cases h
    exact hDate _ rfl
  | list items => cases h

/-- **Patterns of tokens never fail.** A date is laid out by every pattern without a percent
sign, whatever the clock shows and whatever further arguments there are, and the text is the one
that scanning the pattern from left to right gives. -/
theorem formatDate_lays (clock : Moment) {date pattern : Value} (surplus : List Value) {m : Moment}
    (hDate : date.toMoment? = some m) (hPlain : '%' ∉ pattern.display.toList) :
    ∃ text, Builtin.formatDate.call clock (date :: pattern :: surplus) = .ok (.text text) ∧
      ((∀ shown, date = .date shown → shown.nanos < 2000000000) →
        ∀ out, Lays m pattern.display.toList out ↔ out = text.toList) := by
  obtain ⟨items, hReads, hLays⟩ := exists_reads m 0 pattern.display.toList hPlain
  have hPattern : directivePattern pattern.display =
      String.ofList (replaceDateTokens 0 pattern.display.toList) := by
    rw [directivePattern, if_neg (by rwa [List.contains_iff_mem])]
  have hFormat : m.format? (directivePattern pattern.display) =
      some (String.ofList (items.flatMap (PatternItem.chars m))) := by
    rw [hPattern, Moment.format?, readPattern?, String.toList_ofList, hReads _ (Nat.le_refl _)]
    rfl
  refine ⟨String.ofList (items.flatMap (PatternItem.chars m)), ?_, fun hShown out => ?_⟩
  · simp only [Builtin.call, formatDate, dateArgument, hDate]
    dsimp only [bind, Except.bind]
    rw [hFormat]
    rfl
  · have hLays := hLays (Value.nanos_of_toMoment? hDate hShown)
    rw [String.toList_ofList]
    exact ⟨fun h => h.unique hLays, fun h => h ▸ hLays⟩

/-- Runs of one letter are cut into the longest tokens first, and the words of a pattern may
have tokens in them. -/
theorem formatDate_lays_summer :
    Builtin.formatDate.call .epoch
        [.date ⟨1709622489, 0, 0⟩, .text "MMMMM DDD, summer YYYYYY"] =
      .ok (.text "March3 055, su08er 202424") ∧
    Lays ⟨1709622489, 0, 0⟩ "MMMMM DDD, summer YYYYYY".toList
      "March3 055, su08er 202424".toList := by
  have hCall : Builtin.formatDate.call .epoch
      [.date ⟨1709622489, 0, 0⟩, .text "MMMMM DDD, summer YYYYYY"] =
        .ok (.text "March3 055, su08er 202424") := by
    rfl
  have hPlain : '%' ∉ (Value.text "MMMMM DDD, summer YYYYYY").display.toList := by
    decide +kernel
  have hDate : (Value.date ⟨1709622489, 0, 0⟩).toMoment? = some ⟨1709622489, 0, 0⟩ := rfl
  obtain ⟨text, hText, hLays⟩ := formatDate_lays .epoch [] hDate hPlain
  obtain rfl : text = "March3 055, su08er 202424" := by
    rw [hText] at hCall
    injection hCall with hCall
    injection hCall
  have hShown : ∀ shown, Value.date ⟨1709622489, 0, 0⟩ = .date shown →
      shown.nanos < 2000000000 := by
    rintro _ ⟨⟩
    decide
  exact ⟨hCall, (hLays hShown _).2 rfl⟩

end Shelfmark.Template
