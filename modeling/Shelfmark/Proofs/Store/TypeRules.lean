import Shelfmark.Catalogue.Records
import Shelfmark.Proofs.Store.GroupTypes

/-!
# The rules of group types

A resource has one relation at most to the groups of an exclusive type, and no relation
to a group of an unordered type carries an index. `Tables.TypeRules` states both of the
rows themselves.

The checks of a change count and look up in their own ways. Each change below keeps the
rules when its check passes: a new relation, a group that moves to another type, and a
type whose flags change. All other changes lead no relation to a new type, which is what
`TypeRules.mono` asks for.
-/

namespace Shelfmark

namespace Tables

/-- Whether a link leads to a group of a type. -/
def Leads (t : Tables) (type : String) (link : Row) : Prop :=
  ∃ g ∈ t.groups, g.cell .group "uuid" = link.cell .groupRelation "group_uuid" ∧
    g.cell .group "type_uuid" = .text type

instance (t : Tables) (type : String) (link : Row) : Decidable (t.Leads type link) :=
  inferInstanceAs (Decidable (∃ g ∈ t.groups, _))

/-- The rules of exclusive and of unordered types. -/
structure TypeRules (t : Tables) : Prop where
  exclusive : ∀ type ∈ t.types, type.exclusive = true →
    ∀ a ∈ t.groupLinks, ∀ b ∈ t.groupLinks, t.Leads type.uuid a → t.Leads type.uuid b →
      a.cell .groupRelation "resource_uuid" = b.cell .groupRelation "resource_uuid" → a = b
  ordered : ∀ type ∈ t.types, type.ordered = false →
    ∀ link ∈ t.groupLinks, t.Leads type.uuid link → isIndexed link = false

/-! ## Where links lead -/

theorem Sound.group_unique {t : Tables} (h : t.Sound) {a b : Row} (ha : a ∈ t.groups)
    (hb : b ∈ t.groups) (hEq : a.cell .group "uuid" = b.cell .group "uuid") : a = b :=
  h.uuid_injective .group rfl ha hb hEq

/-- The group at the end of a link. -/
theorem Sound.group_of_link {t : Tables} (h : t.Sound) {link : Row} (hLink : link ∈ t.groupLinks) :
    ∃ g ∈ t.groups, g.cell .group "uuid" = link.cell .groupRelation "group_uuid" :=
  h.refs .groupRelation link hLink ⟨"group_uuid", .group⟩ (by decide)

/-- The type of a group, as a record. -/
theorem Sound.type_of_group {t : Tables} (h : t.Sound) {g : Row} (hg : g ∈ t.groups) :
    ∃ type ∈ t.types, g.cell .group "type_uuid" = .text type.uuid := by
  obtain ⟨row, hRow, hEq⟩ := h.refs .group g hg ⟨"type_uuid", .groupType⟩ (by decide)
  exact ⟨row.toGroupType, mem_types.2 ⟨row, hRow, rfl⟩,
    hEq.symm.trans (h.type_row hRow).cell_groupType.1⟩

/-- A link leads only to types that are there. -/
theorem Sound.type_of_leads {t : Tables} (h : t.Sound) {link : Row} {type : String}
    (hLeads : t.Leads type link) : ∃ g ∈ t.types, g.uuid = type := by
  obtain ⟨g, hg, _, hType⟩ := hLeads
  obtain ⟨found, hFound, hEq⟩ := h.type_of_group hg
  exact ⟨found, hFound, Cell.text.inj (hEq.symm.trans hType)⟩

theorem Sound.typeOf?_eq {t : Tables} (h : t.Sound) {g : Row} (hg : g ∈ t.groups) :
    t.typeOf? (g.cell .group "uuid") = some (g.cell .group "type_uuid") := by
  obtain ⟨s, hs, _⟩ := (h.fits .group g hg).key_text rfl
  have hMem : g ∈ t.rowsWhere .group "uuid" (g.cell .group "uuid") := by
    rw [hs]
    exact List.mem_filter.2 ⟨hg, Cell.same_text_iff.2 hs⟩
  unfold typeOf?
  cases hRows : t.rowsWhere .group "uuid" (g.cell .group "uuid") with
  | nil =>
      rw [hRows] at hMem
      cases hMem
  | cons first rest =>
      have hFirst : first ∈ t.rowsWhere .group "uuid" (g.cell .group "uuid") := by
        rw [hRows]
        exact List.mem_cons_self
      rw [hs] at hFirst
      obtain ⟨hIn, hSame⟩ := List.mem_filter.1 hFirst
      have hEq : first = g :=
        h.group_unique hIn hg ((Cell.same_text_iff.1 hSame).trans hs.symm)
      rw [hEq]
      rfl

/-- The test of the store agrees with where a link leads. -/
theorem Sound.leadsTo_iff {t : Tables} (h : t.Sound) {link : Row} (hLink : link.Fits .groupRelation)
    {type : String} : t.leadsTo (.text type) link = true ↔ t.Leads type link := by
  unfold leadsTo
  constructor
  · intro hTo
    obtain ⟨s, hs, _⟩ := hLink.reference_text (r := ⟨"group_uuid", .group⟩) (by decide)
    dsimp only at hs
    rw [hs] at hTo
    cases hRows : t.rowsWhere .group "uuid" (.text s) with
    | nil => simp [typeOf?, hRows] at hTo
    | cons g rest =>
        have hg : g ∈ t.rowsWhere .group "uuid" (.text s) := by
          rw [hRows]
          exact List.mem_cons_self
        obtain ⟨hIn, hSame⟩ := List.mem_filter.1 hg
        simp only [typeOf?, hRows, List.head?_cons, Option.map_some, Cell.same_text_iff] at hTo
        exact ⟨g, hIn, (Cell.same_text_iff.1 hSame).trans hs.symm, hTo⟩
  · rintro ⟨g, hg, hEnd, hType⟩
    rw [← hEnd, h.typeOf?_eq hg, hType]
    exact Cell.same_text_iff.2 rfl

theorem Sound.typeHas_exclusive {t : Tables} (h : t.Sound) {type : GroupType}
    (hType : type ∈ t.types) (hExclusive : type.exclusive = true) :
    t.typeHas (.text type.uuid) "is_exclusive" 1 = true := by
  obtain ⟨row, hRow, rfl⟩ := mem_types.1 hType
  obtain ⟨hUuid, hCell, _⟩ := (h.type_row hRow).cell_groupType
  refine List.any_eq_true.2 ⟨row, List.mem_filter.2 ⟨hRow, Cell.same_text_iff.2 hUuid⟩, ?_⟩
  rw [hCell, hExclusive]
  exact Cell.integer_same_iff.2 rfl

theorem Sound.typeHas_unordered {t : Tables} (h : t.Sound) {type : GroupType}
    (hType : type ∈ t.types) (hOrdered : type.ordered = false) :
    t.typeHas (.text type.uuid) "is_ordered" 0 = true := by
  obtain ⟨row, hRow, rfl⟩ := mem_types.1 hType
  obtain ⟨hUuid, _, hCell⟩ := (h.type_row hRow).cell_groupType
  refine List.any_eq_true.2 ⟨row, List.mem_filter.2 ⟨hRow, Cell.same_text_iff.2 hUuid⟩, ?_⟩
  rw [hCell, hOrdered]
  exact Cell.integer_same_iff.2 rfl

theorem resource_text {link : Row} (hLink : link.Fits .groupRelation) :
    ∃ s, link.cell .groupRelation "resource_uuid" = .text s := by
  obtain ⟨s, hs, _⟩ := hLink.reference_text (r := ⟨"resource_uuid", .resource⟩) (by decide)
  exact ⟨s, hs⟩

/-! ## Changes that lead no relation to another type -/

/-- The rules stay when rows only go and every type is an old one or has no relations. -/
theorem TypeRules.mono {t t' : Tables} (h : t.TypeRules) (hLinks : t'.groupLinks ⊆ t.groupLinks)
    (hLeads : ∀ link ∈ t'.groupLinks, ∀ type, t'.Leads type link → t.Leads type link)
    (hTypes : ∀ type ∈ t'.types, type ∈ t.types ∨
      ∀ link ∈ t'.groupLinks, ¬ t'.Leads type.uuid link) : t'.TypeRules := by
  constructor
  · intro type hType hExclusive a ha b hb hLeadsA hLeadsB hSame
    rcases hTypes type hType with hOld | hNone
    · exact h.exclusive type hOld hExclusive a (hLinks ha) b (hLinks hb)
        (hLeads a ha type.uuid hLeadsA) (hLeads b hb type.uuid hLeadsB) hSame
    · exact absurd hLeadsA (hNone a ha)
  · intro type hType hOrdered link hLink hLeadsLink
    rcases hTypes type hType with hOld | hNone
    · exact h.ordered type hOld hOrdered link (hLinks hLink)
        (hLeads link hLink type.uuid hLeadsLink)
    · exact absurd hLeadsLink (hNone link hLink)

/-- Where rows only go, no relation leads to another type. -/
theorem TypeRules.sublist {t t' : Tables} (h : t.TypeRules)
    (hSub : ∀ kind, (t'.rows kind).Sublist (t.rows kind)) : t'.TypeRules := by
  refine h.mono (hSub .groupRelation).subset ?_ ?_
  · rintro link _ type ⟨g, hg, hEnd⟩
    exact ⟨g, (hSub .group).subset hg, hEnd⟩
  · intro type hType
    obtain ⟨row, hRow, hEq⟩ := mem_types.1 hType
    exact Or.inl (mem_types.2 ⟨row, (hSub .groupType).subset hRow, hEq⟩)

/-- A new row of another kind than links has no relations. -/
theorem TypeRules.inserted {t t' : Tables} {kind : Kind} {row : Row} (h : t.TypeRules)
    (hSound : t.Sound) (hSound' : t'.Sound) (hKind : kind ≠ .groupRelation)
    (hInserted : t.Inserted kind row t') : t'.TypeRules := by
  have hRows : ∀ other, t'.rows other =
      if other = kind then t.rows kind ++ [row] else t.rows other := by
    intro other
    rw [hInserted.result, rows_append]
  have hSub : ∀ other, t.rows other ⊆ t'.rows other := by
    intro other r hr
    rw [hRows]
    split
    · rename_i hEq
      exact List.mem_append_left _ (hEq ▸ hr)
    · exact hr
  have hLinks : t'.groupLinks = t.groupLinks := by
    have hEq := hRows .groupRelation
    rw [if_neg hKind.symm] at hEq
    exact hEq
  -- The group at the end of an old link is an old group.
  have hLeads : ∀ link ∈ t'.groupLinks, ∀ type, t'.Leads type link → t.Leads type link := by
    rintro link hLink type ⟨g, hg, hEnd, hType⟩
    rw [hLinks] at hLink
    obtain ⟨old, hOld, hOldEnd⟩ := hSound.group_of_link hLink
    have hSame : g = old :=
      hSound'.group_unique hg (hSub .group hOld) (hEnd.trans hOldEnd.symm)
    exact ⟨old, hOld, hOldEnd, hSame ▸ hType⟩
  refine h.mono (hLinks ▸ List.Subset.refl _) hLeads ?_
  intro type hType
  by_cases hOld : type ∈ t.types
  · exact Or.inl hOld
  · refine Or.inr fun link hLink hTo => hOld ?_
    obtain ⟨found, hFound, hUuid⟩ := hSound.type_of_leads (hLeads link hLink type.uuid hTo)
    obtain ⟨foundRow, hFoundRow, hEq⟩ := mem_types.1 hFound
    have hFound' : found ∈ t'.types := mem_types.2 ⟨foundRow, hSub .groupType hFoundRow, hEq⟩
    rw [← hSound'.type_eq hFound' hType hUuid]
    exact hFound

/-! ## A new relation -/

/-- A relation that the tables allow keeps the rule of exclusive types; an index is for
the caller to refuse. -/
theorem TypeRules.related {t t' : Tables} {row : Row} (h : t.TypeRules) (hSound : t.Sound)
    (hFits : row.Fits .groupRelation) (hInserted : t.Inserted .groupRelation row t')
    (hIndex : ∀ type ∈ t.types, type.ordered = false → t.Leads type.uuid row →
      isIndexed row = false) : t'.TypeRules := by
  have hRows : ∀ other, t'.rows other =
      if other = .groupRelation then t.groupLinks ++ [row] else t.rows other := by
    intro other
    rw [hInserted.result, rows_append]
    rfl
  have hLinks : t'.groupLinks = t.groupLinks ++ [row] := hRows .groupRelation
  have hTypes : t'.types = t.types := types_congr (hRows .groupType)
  have hLeads : ∀ type link, t'.Leads type link → t.Leads type link := by
    rintro type link ⟨g, hg, hEnd⟩
    have hGroups : t'.groups = t.groups := hRows .group
    exact ⟨g, hGroups ▸ hg, hEnd⟩
  -- The resource has no relation yet to the groups of an exclusive type.
  have hUnheld : ∀ type ∈ t.types, type.exclusive = true → t.Leads type.uuid row →
      ∀ a ∈ t.groupLinks, t.Leads type.uuid a →
        a.cell .groupRelation "resource_uuid" ≠ row.cell .groupRelation "resource_uuid" := by
    intro type hType hExclusive hTo a ha hToA hSame
    have hNone := hInserted.unheld rfl
    obtain ⟨g, hg, hEnd, hGroupType⟩ := hTo
    unfold exclusiveTypeHeld? at hNone
    rw [← hEnd, hSound.typeOf?_eq hg, hGroupType] at hNone
    simp only [hSound.typeHas_exclusive hType hExclusive, Bool.true_and] at hNone
    have hEmpty :
        t.linksToType (row.cell .groupRelation "resource_uuid") (.text type.uuid) = [] := by
      by_contra hSome
      simp [hSome] at hNone
    obtain ⟨s, hs⟩ := resource_text hFits
    have hFitsA : a.Fits .groupRelation := hSound.fits .groupRelation a ha
    have hIn : a ∈ t.linksToType (row.cell .groupRelation "resource_uuid") (.text type.uuid) := by
      refine List.mem_filter.2 ⟨List.mem_filter.2 ⟨ha, ?_⟩, (hSound.leadsTo_iff hFitsA).2 hToA⟩
      rw [hs]
      exact Cell.same_text_iff.2 (hSame.trans hs)
    rw [hEmpty] at hIn
    cases hIn
  constructor
  · intro type hType hExclusive a ha b hb hToA hToB hSame
    rw [hTypes] at hType
    have hToA' := hLeads _ _ hToA
    have hToB' := hLeads _ _ hToB
    rw [hLinks, List.mem_append, List.mem_singleton] at ha hb
    rcases ha with ha | rfl
    · rcases hb with hb | rfl
      · exact h.exclusive type hType hExclusive a ha b hb hToA' hToB' hSame
      · exact absurd hSame (hUnheld type hType hExclusive hToB' a ha hToA')
    · rcases hb with hb | rfl
      · exact absurd hSame.symm (hUnheld type hType hExclusive hToA' b hb hToB')
      · rfl
  · intro type hType hOrdered link hLink hTo
    rw [hTypes] at hType
    rw [hLinks, List.mem_append, List.mem_singleton] at hLink
    rcases hLink with hOld | rfl
    · exact h.ordered type hType hOrdered link hOld (hLeads _ _ hTo)
    · exact hIndex type hType hOrdered (hLeads _ _ hTo)

/-! ## A group that moves to another type -/

private theorem one_lt_length {α : Type} {l : List α} {a b : α} (ha : a ∈ l) (hb : b ∈ l)
    (hNe : a ≠ b) : 1 < l.length := by
  match l, ha, hb with
  | [x], ha, hb =>
      rw [List.mem_singleton] at ha hb
      exact absurd (ha.trans hb.symm) hNe
  | _ :: _ :: _, _, _ => simp

/-- Two relations of a resource that lead to a type, or to a group that is to be of it,
crowd the type. -/
theorem Sound.wouldCrowd_eq_true {t : Tables} (h : t.Sound) {group type : String} {a b : Row}
    (ha : a ∈ t.groupLinks) (hb : b ∈ t.groupLinks) (hNe : a ≠ b)
    (hSame : a.cell .groupRelation "resource_uuid" = b.cell .groupRelation "resource_uuid")
    (hToA : t.Leads type a ∨ a.cell .groupRelation "group_uuid" = .text group)
    (hToB : t.Leads type b ∨ b.cell .groupRelation "group_uuid" = .text group) :
    t.wouldCrowd (.text group) (.text type) a = true := by
  obtain ⟨s, hs⟩ := resource_text (h.fits .groupRelation a ha)
  have hRelated : ∀ link ∈ t.groupLinks, link.cell .groupRelation "resource_uuid" = .text s →
      t.Leads type link ∨ link.cell .groupRelation "group_uuid" = .text group →
      link ∈ (t.rowsWhere .groupRelation "resource_uuid" (.text s)).filter fun other =>
        (t.typeOf? (other.cell .groupRelation "group_uuid")).isSome &&
          ((other.cell .groupRelation "group_uuid").same (.text group) ||
            t.leadsTo (.text type) other) := by
    intro link hLink hResource hTo
    obtain ⟨g, hg, hEnd⟩ := h.group_of_link hLink
    refine List.mem_filter.2 ⟨List.mem_filter.2 ⟨hLink, Cell.same_text_iff.2 hResource⟩, ?_⟩
    rw [← hEnd, h.typeOf?_eq hg, hEnd]
    simp only [Option.isSome_some, Bool.true_and, Bool.or_eq_true]
    rcases hTo with hLeads | hGroup
    · exact Or.inr ((h.leadsTo_iff (h.fits .groupRelation link hLink)).2 hLeads)
    · exact Or.inl (Cell.same_text_iff.2 hGroup)
  unfold wouldCrowd
  rw [hs]
  exact decide_eq_true
    (one_lt_length (hRelated a ha hs hToA) (hRelated b hb (hSame.symm.trans hs) hToB) hNe)

/-- What it means that the relations of a group obey a type. -/
private theorem relationsAgainstType?_eq_none {t : Tables} {group : String} {type : Cell}
    (h : t.relationsAgainstType? (.text group) type = none) {link : Row}
    (hLink : link ∈ t.groupLinks)
    (hGroup : link.cell .groupRelation "group_uuid" = .text group) :
    (t.typeHas type "is_exclusive" 1 = true → t.wouldCrowd (.text group) type link = false) ∧
      (t.typeHas type "is_ordered" 0 = true → isIndexed link = false) := by
  have hIn : link ∈ t.linksToGroup (.text group) :=
    List.mem_filter.2 ⟨hLink, Cell.same_text_iff.2 hGroup⟩
  unfold relationsAgainstType? at h
  simp only [ite_eq_right_iff, reduceCtorEq, imp_false, Bool.or_eq_true, Bool.and_eq_true, not_or,
    not_and, List.any_eq_true, not_exists, Bool.not_eq_true] at h
  exact ⟨fun hHas => h.1 hHas link hIn, fun hHas => h.2 hHas link hIn⟩

/-- A group only moves to a type that its relations obey. -/
private theorem relationsAgainstType?_of_placed {t : Tables} {old new : Row}
    (hFits : new.Fits .group)
    (hMoves : old.cell .group "type_uuid" ≠ new.cell .group "type_uuid")
    (hPlaced : t.misplaced? .group old new = none) :
    t.relationsAgainstType? (new.cell .group "uuid") (new.cell .group "type_uuid") = none := by
  obtain ⟨type, hType, _⟩ := hFits.reference_text (r := ⟨"type_uuid", .groupType⟩) (by decide)
  dsimp only at hType
  have hOther : (old.cell .group "type_uuid").same (.text type) = false := by
    rw [← Bool.not_eq_true, Cell.same_text_iff, ← hType]
    exact hMoves
  unfold misplaced? at hPlaced
  rw [hType] at hPlaced ⊢
  simpa [hOther, Cell.isNull] using hPlaced

/-- A group that the tables let change keeps the rules. -/
theorem TypeRules.moved {t t' : Tables} {old new : Row} (h : t.TypeRules) (hSound : t.Sound)
    (hOld : old ∈ t.groups) (hFits : new.Fits .group)
    (hUuid : new.cell .group "uuid" = old.cell .group "uuid")
    (hReplaced : t.Replaced .group old new t') : t'.TypeRules := by
  have hLinks : t'.groupLinks = t.groupLinks := hReplaced.rows_eq .groupRelation
  have hTypes : t'.types = t.types := types_congr (hReplaced.rows_eq .groupType)
  -- A link leads where it led before, or it leads to the changed group.
  have hLeads : ∀ type link, t'.Leads type link → t.Leads type link ∨
      (link.cell .groupRelation "group_uuid" = new.cell .group "uuid" ∧
        new.cell .group "type_uuid" = .text type) := by
    rintro type link ⟨g, hg, hEnd, hType⟩
    rw [show t'.groups = _ from hReplaced.rows_eq .group, if_pos rfl] at hg
    obtain ⟨x, hx, rfl⟩ := List.mem_map.1 hg
    split at hEnd
    · rename_i hHere
      rw [if_pos hHere] at hType
      exact Or.inr ⟨hEnd.symm, hType⟩
    · rename_i hElse
      rw [if_neg hElse] at hType
      exact Or.inl ⟨x, hx, hEnd, hType⟩
  by_cases hStays : old.cell .group "type_uuid" = new.cell .group "type_uuid"
  · refine h.mono (hLinks ▸ List.Subset.refl _) ?_ fun type hType => Or.inl (hTypes ▸ hType)
    intro link _ type hTo
    rcases hLeads type link hTo with hKept | ⟨hEnd, hType⟩
    · exact hKept
    · exact ⟨old, hOld, hUuid.symm.trans hEnd.symm, hStays.trans hType⟩
  · obtain ⟨u, hu, _⟩ := hFits.key_text rfl
    have hNone : t.relationsAgainstType? (.text u) (new.cell .group "type_uuid") = none := by
      rw [← hu]
      exact relationsAgainstType?_of_placed hFits hStays hReplaced.placed
    have hEnds : ∀ type link, t'.Leads type link → t.Leads type link ∨
        link.cell .groupRelation "group_uuid" = .text u :=
      fun type link hTo => (hLeads type link hTo).imp_right fun hMoved => hMoved.1.trans hu
    constructor
    · intro type hType hExclusive a ha b hb hToA hToB hSame
      rw [hTypes] at hType
      rw [hLinks] at ha hb
      have hHas := hSound.typeHas_exclusive hType hExclusive
      by_contra hNe
      -- A relation to the moved group would crowd the type, whichever of the two it is.
      have hOnly : ∀ x ∈ t.groupLinks, t'.Leads type.uuid x →
          t.wouldCrowd (.text u) (.text type.uuid) x = true → t.Leads type.uuid x := by
        intro x hx hTo hCrowds
        rcases hLeads type.uuid x hTo with hKept | ⟨hEnd, hNewType⟩
        · exact hKept
        · rw [hNewType] at hNone
          rw [(relationsAgainstType?_eq_none hNone hx (hEnd.trans hu)).1 hHas] at hCrowds
          cases hCrowds
      have hEndA := hEnds type.uuid a hToA
      have hEndB := hEnds type.uuid b hToB
      exact hNe (h.exclusive type hType hExclusive a ha b hb
        (hOnly a ha hToA (hSound.wouldCrowd_eq_true ha hb hNe hSame hEndA hEndB))
        (hOnly b hb hToB (hSound.wouldCrowd_eq_true hb ha (Ne.symm hNe) hSame.symm hEndB hEndA))
        hSame)
    · intro type hType hOrdered link hLink hTo
      rw [hTypes] at hType
      rw [hLinks] at hLink
      rcases hLeads type.uuid link hTo with hKept | ⟨hEnd, hNewType⟩
      · exact h.ordered type hType hOrdered link hLink hKept
      · rw [hNewType] at hNone
        exact (relationsAgainstType?_eq_none hNone hLink (hEnd.trans hu)).2
          (hSound.typeHas_unordered hType hOrdered)

/-- A row of another kind than types that keeps its key keeps the rules; only a group has
rules to break. -/
theorem TypeRules.replaced {t t' : Tables} {kind : Kind} {old new : Row} (h : t.TypeRules)
    (hSound : t.Sound) (hType : kind ≠ .groupType) (hLink : kind ≠ .groupRelation)
    (hOld : old ∈ t.rows kind) (hFits : new.Fits kind) (hKey : new.key kind = old.key kind)
    (hReplaced : t.Replaced kind old new t') : t'.TypeRules := by
  by_cases hGroup : kind = .group
  · subst hGroup
    exact h.moved hSound hOld hFits hKey hReplaced
  · have hRows : ∀ other, other ≠ kind → t'.rows other = t.rows other := by
      intro other hNe
      rw [hReplaced.rows_eq, if_neg hNe]
    have hGroups : t'.groups = t.groups := hRows .group (Ne.symm hGroup)
    have hLinks : t'.groupLinks = t.groupLinks := hRows .groupRelation (Ne.symm hLink)
    refine h.mono (hLinks ▸ List.Subset.refl _) ?_ fun type hIn =>
      Or.inl (hReplaced.types_eq hType ▸ hIn)
    rintro link _ type ⟨g, hg, hEnd⟩
    exact ⟨g, hGroups ▸ hg, hEnd⟩

end Tables

/-! ## A type whose flags change -/

namespace Catalogue

theorem mem_distinctCells {cells : List Cell} {s : String} (h : .text s ∈ cells) :
    .text s ∈ distinctCells cells := by
  induction cells with
  | nil => cases h
  | cons cell cells ih =>
      have hStep : distinctCells (cell :: cells) =
          if (distinctCells cells).any cell.same then distinctCells cells
          else cell :: distinctCells cells := rfl
      rw [hStep]
      rcases List.mem_cons.1 h with rfl | hRest
      · split
        · rename_i hAny
          obtain ⟨kept, hKept, hSame⟩ := List.any_eq_true.1 hAny
          rw [Cell.text_same_iff] at hSame
          exact hSame ▸ hKept
        · exact List.mem_cons_self
      · split
        · exact ih hRest
        · exact List.mem_cons_of_mem _ (ih hRest)

theorem mem_linksOfType {c : Catalogue} (hSound : c.tables.Sound) {type : String} {link : Row} :
    link ∈ c.linksOfType (.text type) ↔ link ∈ c.tables.groupLinks ∧ c.tables.Leads type link := by
  rw [linksOfType, List.mem_filter]
  refine and_congr_right fun hLink => ?_
  exact hSound.leadsTo_iff (hSound.fits .groupRelation link hLink)

/-- Where no resource is counted as crowded, none has two relations to the type. -/
private theorem eq_of_crowdedCount_eq_zero {c : Catalogue} (hSound : c.tables.Sound) {type : String}
    (hCount : c.crowdedCount (.text type) = 0) {a b : Row} (ha : a ∈ c.tables.groupLinks)
    (hb : b ∈ c.tables.groupLinks) (hToA : c.tables.Leads type a) (hToB : c.tables.Leads type b)
    (hSame : a.cell .groupRelation "resource_uuid" = b.cell .groupRelation "resource_uuid") :
    a = b := by
  by_contra hNe
  obtain ⟨s, hs⟩ := Tables.resource_text (hSound.fits .groupRelation a ha)
  have hInA := (mem_linksOfType hSound).2 ⟨ha, hToA⟩
  have hInB := (mem_linksOfType hSound).2 ⟨hb, hToB⟩
  unfold crowdedCount at hCount
  rw [List.countP_eq_zero] at hCount
  have hMem : .text s ∈ (c.linksOfType (.text type)).map fun link =>
      link.cell .groupRelation "resource_uuid" := List.mem_map.2 ⟨a, hInA, hs⟩
  have hFew := hCount (.text s) (mem_distinctCells hMem)
  rw [List.countP_map, List.countP_eq_length_filter] at hFew
  refine hFew (decide_eq_true (Tables.one_lt_length (a := a) (b := b) ?_ ?_ hNe))
  · exact List.mem_filter.2 ⟨hInA, Cell.text_same_iff.2 hs⟩
  · exact List.mem_filter.2 ⟨hInB, Cell.text_same_iff.2 (hSame.symm.trans hs)⟩

private theorem not_indexed_of_indexedCount_eq_zero {c : Catalogue} (hSound : c.tables.Sound)
    {type : String} (hCount : c.indexedCount (.text type) = 0) {link : Row}
    (hLink : link ∈ c.tables.groupLinks) (hTo : c.tables.Leads type link) :
    Tables.isIndexed link = false := by
  have hNone := List.countP_eq_zero.1 hCount link ((mem_linksOfType hSound).2 ⟨hLink, hTo⟩)
  simpa using hNone

/-- A type whose new flags its relations allow keeps the rules. -/
theorem typeRules_retyped {c : Catalogue} {t' : Tables} {old new : Row}
    (h : c.tables.TypeRules) (hSound : c.tables.Sound) (hOld : old ∈ c.tables.groupTypes)
    (hUuid : new.toGroupType.uuid = old.toGroupType.uuid)
    (hReplaced : c.tables.Replaced .groupType old new t')
    (hExclusive : new.toGroupType.exclusive = true →
      old.toGroupType.exclusive = true ∨ c.crowdedCount (.text old.toGroupType.uuid) = 0)
    (hOrdered : new.toGroupType.ordered = false →
      old.toGroupType.ordered = false ∨ c.indexedCount (.text old.toGroupType.uuid) = 0) :
    t'.TypeRules := by
  have hLinks : t'.groupLinks = c.tables.groupLinks := hReplaced.rows_eq .groupRelation
  have hGroups : t'.groups = c.tables.groups := hReplaced.rows_eq .group
  have hLeads : ∀ type link, t'.Leads type link → c.tables.Leads type link := by
    rintro type link ⟨g, hg, hEnd⟩
    exact ⟨g, hGroups ▸ hg, hEnd⟩
  have hOldType : old.toGroupType ∈ c.tables.types := Tables.mem_types.2 ⟨old, hOld, rfl⟩
  have hTypes : ∀ type ∈ t'.types, type ∈ c.tables.types ∨ type = new.toGroupType := by
    intro type hType
    rw [hReplaced.types hSound hOld] at hType
    obtain ⟨g, hg, rfl⟩ := List.mem_map.1 hType
    split
    · exact Or.inr rfl
    · exact Or.inl hg
  constructor
  · intro type hType hFlag a ha b hb hToA hToB hSame
    rw [hLinks] at ha hb
    have hToA' := hLeads _ _ hToA
    have hToB' := hLeads _ _ hToB
    rcases hTypes type hType with hKept | rfl
    · exact h.exclusive type hKept hFlag a ha b hb hToA' hToB' hSame
    · rw [hUuid] at hToA' hToB'
      rcases hExclusive hFlag with hBefore | hCount
      · exact h.exclusive old.toGroupType hOldType hBefore a ha b hb hToA' hToB' hSame
      · exact eq_of_crowdedCount_eq_zero hSound hCount ha hb hToA' hToB' hSame
  · intro type hType hFlag link hLink hTo
    rw [hLinks] at hLink
    have hTo' := hLeads _ _ hTo
    rcases hTypes type hType with hKept | rfl
    · exact h.ordered type hKept hFlag link hLink hTo'
    · rw [hUuid] at hTo'
      rcases hOrdered hFlag with hBefore | hCount
      · exact h.ordered old.toGroupType hOldType hBefore link hLink hTo'
      · exact not_indexed_of_indexedCount_eq_zero hSound hCount hLink hTo'

end Catalogue

end Shelfmark
