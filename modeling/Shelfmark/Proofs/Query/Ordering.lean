import Shelfmark.Proofs.Query.Satisfaction
import Shelfmark.Proofs.Store.SortValue
import Shelfmark.Query.Sort

/-!
# Which record comes first

What a sort order says of two records, without a word about how records are sorted.

A property counts for a value in a record: that of a field of the record, else of the link
that led to it, else of the first row that a route reaches. It counts for nothing, which
is lowest, where the field is absent or the route reaches no row. Of two records the one
precedes that has the better value of the first property in which they differ. Where they
do not differ, the lower key decides, and between links to one record the lower number of
the link.

This leaves nothing undecided: `Hit.strictTotalOrder` says that among records that are told
apart by key and link, one of any two precedes the other.
-/

namespace Shelfmark

/-! ## What counts -/

/-- What a field of a row counts for. An absent index is stored as `-1`. -/
def SourceRow.sortValue (row : SourceRow) (f : Field) : SortValue :=
  if f.type = .index ∧ row.cell f.column = .integer (-1) then ⊥
  else (row.cell f.column).sortValue (if f.nocase then .nocase else .binary)

namespace Hit

/-- What the key of the record counts for. -/
def keyValue (hit : Hit) : SortValue :=
  (hit.target.cell hit.target.source.keyColumn).sortValue .binary

/-- What the number of the link counts for. -/
def linkValue (hit : Hit) : SortValue :=
  match hit.link with
  | some x => (x.cell "rowid").sortValue .binary
  | none => ⊥

/-- The place of a hit among those that one row is related to: the number of the link, or
the key of the record where no link is between. -/
def place (hit : Hit) : SortValue :=
  match hit.link with
  | some _ => hit.linkValue
  | none => hit.keyValue

end Hit

/-- The first hit that a route reaches from a row. -/
def Route.First (t : Tables) (r : Route) (outer : SourceRow) (hit : Hit) : Prop :=
  r.Leads t outer hit ∧ ∀ other, r.Leads t outer other → other ≠ hit → hit.place < other.place

/-- What a plain name counts for at the end of a route: what it does in the first row that
is reached. -/
inductive Route.Gives (t : Tables) (r : Route) (outer : SourceRow) (name : String) :
    SortValue → Prop where
  | first {reached : Hit} {f : Field} {row : SourceRow} (hFirst : r.First t outer reached)
      (h : reached.Shows name f row) : Gives t r outer name (row.sortValue f)
  | nothing (h : ∀ reached, ¬ r.Leads t outer reached) : Gives t r outer name ⊥

/-- What a property counts for in a hit. -/
inductive Hit.Counts (t : Tables) (hit : Hit) : String → SortValue → Prop where
  | here {name : String} {f : Field} {row : SourceRow} (h : hit.Shows name f row) :
      Counts t hit name (row.sortValue f)
  | path {route : Route} {inner : String} {v : SortValue} (hRoute : route ∈ hit.target.routes)
      (h : route.Gives t hit.target inner v) : Counts t hit (route.name ++ "#" ++ inner) v
  | usual {route : Route} {v : SortValue} (hRoute : route ∈ hit.target.routes)
      (hFar : ∀ g x, ¬ hit.Shows route.name g x)
      (h : route.Gives t hit.target route.sortProperty v) : Counts t hit route.name v

/-- What an order looks at: a property, or the order in which records were related. -/
inductive SortSubject where
  | property (name : String)
  | relation

/-- What a subject counts for in a hit. -/
def Hit.CountsFor (t : Tables) (hit : Hit) : SortSubject → SortValue → Prop
  | .property name, v => hit.Counts t name v
  | .relation, v => v = hit.place

/-! ## Precedence -/

/-- Whether a value comes before another in a direction. -/
def Direction.Less : Direction → SortValue → SortValue → Prop
  | ascending, v, w => v < w
  | descending, v, w => w < v

/-- Whether a hit precedes another in an order. -/
inductive Hit.Precedes (t : Tables) : List (SortSubject × Direction) → Hit → Hit → Prop where
  /-- The first subject decides. -/
  | value {subject : SortSubject} {direction : Direction} {rest : List (SortSubject × Direction)}
      {a b : Hit} {v w : SortValue} (ha : a.CountsFor t subject v) (hb : b.CountsFor t subject w)
      (h : direction.Less v w) : Precedes t ((subject, direction) :: rest) a b
  /-- The first subject leaves it to the others. -/
  | tie {subject : SortSubject} {direction : Direction} {rest : List (SortSubject × Direction)}
      {a b : Hit} {v : SortValue} (ha : a.CountsFor t subject v) (hb : b.CountsFor t subject v)
      (h : Precedes t rest a b) : Precedes t ((subject, direction) :: rest) a b
  | key {a b : Hit} (h : a.keyValue < b.keyValue) : Precedes t [] a b
  | link {a b : Hit} (hKey : a.keyValue = b.keyValue) (h : a.linkValue < b.linkValue) :
      Precedes t [] a b

namespace Hit

variable {t : Tables} {a b : Hit}

theorem precedes_nil_iff :
    Precedes t [] a b ↔
      a.keyValue < b.keyValue ∨ a.keyValue = b.keyValue ∧ a.linkValue < b.linkValue := by
  constructor
  · rintro (_ | _)
    · exact Or.inl ‹_›
    · exact Or.inr ⟨‹_›, ‹_›⟩
  · rintro (hKey | ⟨hSame, hLink⟩)
    · exact .key hKey
    · exact .link hSame hLink

/-- Precedence where the first subject counts for known values. -/
theorem precedes_cons_iff {subject : SortSubject} {direction : Direction}
    {rest : List (SortSubject × Direction)} {v w : SortValue}
    (ha : ∀ u, a.CountsFor t subject u ↔ u = v) (hb : ∀ u, b.CountsFor t subject u ↔ u = w) :
    Precedes t ((subject, direction) :: rest) a b ↔
      direction.Less v w ∨ v = w ∧ Precedes t rest a b := by
  constructor
  · rintro (⟨hv, hw, hLess⟩ | ⟨hv, hw, hRest⟩)
    · rw [(ha _).1 hv, (hb _).1 hw] at hLess
      exact Or.inl hLess
    · exact Or.inr ⟨((ha _).1 hv).symm.trans ((hb _).1 hw), hRest⟩
  · rintro (hLess | ⟨rfl, hRest⟩)
    · exact .value ((ha _).2 rfl) ((hb _).2 rfl) hLess
    · exact .tie ((ha _).2 rfl) ((hb _).2 rfl) hRest

end Hit

/-! ## A strict total order -/

namespace Direction

theorem Less.irrefl {direction : Direction} {v : SortValue} : ¬ direction.Less v v := by
  cases direction <;> exact lt_irrefl v

theorem Less.trans {direction : Direction} {u v w : SortValue} (h : direction.Less u v)
    (h' : direction.Less v w) : direction.Less u w := by
  cases direction with
  | ascending => exact lt_trans h h'
  | descending => exact lt_trans h' h

theorem less_trichotomy (direction : Direction) (v w : SortValue) :
    direction.Less v w ∨ v = w ∨ direction.Less w v := by
  cases direction with
  | ascending => exact lt_trichotomy v w
  | descending => exact (lt_trichotomy w v).imp_right (Or.imp_left Eq.symm)

end Direction

namespace Hit

variable {t : Tables} {subjects : List (SortSubject × Direction)} {a b c : Hit}

/-- Whether every subject of an order counts for one value in a hit. -/
def Valued (t : Tables) (subjects : List (SortSubject × Direction)) (hit : Hit) : Prop :=
  ∀ p ∈ subjects, ∃! v, hit.CountsFor t p.1 v

theorem Precedes.irrefl (ha : a.Valued t subjects) : ¬ Precedes t subjects a a := by
  induction subjects with
  | nil =>
      rintro (_ | _)
      · exact lt_irrefl _ ‹_›
      · exact lt_irrefl _ ‹_›
  | cons p rest ih =>
      obtain ⟨v, _, hUnique⟩ := ha p (by simp)
      rintro (⟨hv, hw, hLess⟩ | ⟨_, _, hRest⟩)
      · rw [hUnique _ hv, hUnique _ hw] at hLess
        exact hLess.irrefl
      · exact ih (fun q hq => ha q (by simp [hq])) hRest

theorem Precedes.trans (hb : b.Valued t subjects) (h : Precedes t subjects a b)
    (h' : Precedes t subjects b c) : Precedes t subjects a c := by
  induction subjects with
  | nil =>
      cases h with
      | key hKey =>
          cases h' with
          | key hKey' => exact .key (hKey.trans hKey')
          | link hSame _ => exact .key (hSame ▸ hKey)
      | link hSame hLink =>
          cases h' with
          | key hKey' => exact .key (hSame ▸ hKey')
          | link hSame' hLink' => exact .link (hSame.trans hSame') (hLink.trans hLink')
  | cons p rest ih =>
      obtain ⟨v, _, hUnique⟩ := hb p (by simp)
      cases h with
      | value hu hv hLess =>
          cases h' with
          | value hv' hw hLess' =>
              rw [hUnique _ hv] at hLess
              rw [hUnique _ hv'] at hLess'
              exact .value hu hw (hLess.trans hLess')
          | tie hv' hw _ =>
              rw [hUnique _ hv, ← hUnique _ hv'] at hLess
              exact .value hu hw hLess
      | tie hu hv hRest =>
          cases h' with
          | value hv' hw hLess' =>
              rw [hUnique _ hv', ← hUnique _ hv] at hLess'
              exact .value hu hw hLess'
          | tie hv' hw hRest' =>
              rw [hUnique _ hv', ← hUnique _ hv] at hw
              exact .tie hu hw (ih (fun q hq => hb q (by simp [hq])) hRest hRest')

theorem precedes_trichotomy (ha : a.Valued t subjects) (hb : b.Valued t subjects)
    (hApart : a.keyValue = b.keyValue → a.linkValue = b.linkValue → a = b) :
    Precedes t subjects a b ∨ a = b ∨ Precedes t subjects b a := by
  induction subjects with
  | nil =>
      rcases lt_trichotomy a.keyValue b.keyValue with hLess | hKey | hGreater
      · exact Or.inl (.key hLess)
      · rcases lt_trichotomy a.linkValue b.linkValue with hLess | hLink | hGreater
        · exact Or.inl (.link hKey hLess)
        · exact Or.inr (Or.inl (hApart hKey hLink))
        · exact Or.inr (Or.inr (.link hKey.symm hGreater))
      · exact Or.inr (Or.inr (.key hGreater))
  | cons p rest ih =>
      obtain ⟨v, hv, _⟩ := ha p (by simp)
      obtain ⟨w, hw, _⟩ := hb p (by simp)
      rcases p.2.less_trichotomy v w with hLess | hSame | hGreater
      · exact Or.inl (.value hv hw hLess)
      · subst hSame
        rcases ih (fun q hq => ha q (by simp [hq])) fun q hq => hb q (by simp [hq]) with
          hLess | hSame | hGreater
        · exact Or.inl (.tie hv hw hLess)
        · exact Or.inr (Or.inl hSame)
        · exact Or.inr (Or.inr (.tie hw hv hGreater))
      · exact Or.inr (Or.inr (.value hw hv hGreater))

/-- Not to be preceded is transitive. -/
theorem not_precedes_trans (ha : a.Valued t subjects) (hb : b.Valued t subjects)
    (hApart : a.keyValue = b.keyValue → a.linkValue = b.linkValue → a = b)
    (h : ¬ Precedes t subjects b a) (h' : ¬ Precedes t subjects c b) :
    ¬ Precedes t subjects c a := by
  intro hBack
  rcases precedes_trichotomy ha hb hApart with hLess | rfl | hGreater
  · exact h' (hBack.trans ha hLess)
  · exact h' hBack
  · exact h hGreater

/-- **An order decides between any two hits that are told apart by key and link.** -/
theorem strictTotalOrder {hits : List Hit} (hValued : ∀ hit ∈ hits, hit.Valued t subjects)
    (hApart : ∀ a ∈ hits, ∀ b ∈ hits, a.keyValue = b.keyValue → a.linkValue = b.linkValue → a = b) :
    IsStrictTotalOrder {hit // hit ∈ hits} fun a b => Precedes t subjects a b where
  irrefl a := Precedes.irrefl (hValued a a.2)
  trans _ b _ := Precedes.trans (hValued b b.2)
  trichotomous a b hLess hGreater :=
    Subtype.ext <| ((precedes_trichotomy (hValued a a.2) (hValued b b.2)
      (hApart a a.2 b b.2)).resolve_left hLess).resolve_right hGreater

end Hit

end Shelfmark
