import ArticleMarkup.Proofs.Heading.Ids

/-!
# Headings and the ids they are given

The pass over a document changes the ids of headings and nothing else. Read in document order, it is
a run over the headings alone: each keeps the id that it carries if that is still free, and is given
a fresh one otherwise.

## Main definitions

- `Tag.Carries` — a tag carries an id, up to blank ends
- `Relabelled` — a forest whose headings are given ids, and nothing else
- `giveIds` — the ids that headings are given one after the other
- `Labelled` — what holds of a document once its headings have ids

## Main statements

- `relabelled_assignIds` — the pass over a forest is the run over its headings
- `giveIds_eq_own_iff` — when a heading keeps its own id
- `labelled_assignHeadingIds` — the ids of a whole document
-/

namespace ArticleMarkup

-- ════════════════════════════════════════════════════════════════════════
-- Ids that are carried
-- ════════════════════════════════════════════════════════════════════════

/-- The tag carries the id, up to blank ends. -/
def Tag.Carries (tag : Tag) (id : String) : Prop :=
  id ≠ "" ∧ ∃ value, tag.attr? "id" = some value ∧ Text.trim value = id

theorem ownId?_eq_some_iff {tag : Tag} {id : String} : ownId? tag = some id ↔ tag.Carries id := by
  unfold ownId? Tag.Carries
  split
  · next h => simp [h]
  · next value h =>
    simp only [h, Option.some.injEq, exists_eq_left']
    split
    · next hb => simp [(Text.trim_eq_empty_iff value).mpr hb, eq_comm]
    · next hb =>
      rw [Option.some.injEq]
      refine ⟨fun h => ⟨?_, h⟩, fun h => h.2⟩
      rintro rfl
      exact hb ((Text.trim_eq_empty_iff value).mp h)

-- ════════════════════════════════════════════════════════════════════════
-- Forests that differ in the ids of headings
-- ════════════════════════════════════════════════════════════════════════

/-- **A relabelled forest**: the headings of the first forest are given these ids in document order,
and nothing else is changed. -/
inductive Relabelled : List String → Forest → Forest → Prop where
  | nil : Relabelled [] .nil .nil
  | text {ids : List String} {rest rest' : Forest} (s : String) :
      Relabelled ids rest rest' → Relabelled ids (.text s rest) (.text s rest')
  /-- An element that is not a heading keeps its tag. -/
  | plain {inner after : List String} {cs cs' rest rest' : Forest} {tag : Tag} :
      tag.isHeading = false → Relabelled inner cs cs' → Relabelled after rest rest' →
      Relabelled (inner ++ after) (.element tag cs rest) (.element tag cs' rest')
  /-- A heading is given an id. -/
  | heading {inner after : List String} {cs cs' rest rest' : Forest} {tag : Tag} (id : String) :
      tag.isHeading = true → Relabelled inner cs cs' → Relabelled after rest rest' →
      Relabelled (id :: (inner ++ after)) (.element tag cs rest)
        (.element (tag.setAttr "id" id) cs' rest')

/-- The ids that headings are given are the ones they have. -/
theorem Relabelled.headingIds_eq {ids : List String} {f f' : Forest} (h : Relabelled ids f f') :
    f'.headingIds = ids := by
  induction h with
  | nil => rfl
  | text s _ ih => exact ih
  | plain htag _ _ ihcs ihrest =>
    rw [Forest.headingIds_element, if_neg (by simp [htag]), ihcs, ihrest, List.nil_append]
  | @heading inner after _ cs' _ rest' tag id htag _ _ ihcs ihrest =>
    rw [Forest.headingIds_element, if_pos (by simpa using htag), Tag.attr?_setAttr, if_pos rfl, ihcs,
      ihrest]
    rfl

-- ════════════════════════════════════════════════════════════════════════
-- The run over the headings
-- ════════════════════════════════════════════════════════════════════════

/-- The ids that headings are given one after the other, with the ids that are taken afterwards. -/
def giveIds (a : Anchors) : List (Tag × String) → List String × Anchors
  | [] => ([], a)
  | h :: hs =>
    let (id, a) := headingId a h.1 (.ofText h.2)
    let (ids, a) := giveIds a hs
    (id :: ids, a)

theorem giveIds_append (a : Anchors) (hs hs' : List (Tag × String)) :
    giveIds a (hs ++ hs') =
      ((giveIds a hs).1 ++ (giveIds (giveIds a hs).2 hs').1, (giveIds (giveIds a hs).2 hs').2) := by
  induction hs generalizing a with
  | nil => rfl
  | cons h hs ih => simp [giveIds, ih]

theorem headingId_ofText (a : Anchors) (tag : Tag) (cs : Forest) :
    headingId a tag (.ofText cs.textContent) = headingId a tag cs := by
  simp [headingId, Forest.ofText, Forest.textContent]

/-- **The pass over a forest** is the run over its headings. -/
theorem relabelled_assignIds (a : Anchors) (f : Forest) :
    Relabelled (giveIds a f.headings).1 f (assignIds a f).1 ∧
      (assignIds a f).2 = (giveIds a f.headings).2 := by
  induction f generalizing a with
  | nil => exact ⟨.nil, rfl⟩
  | text s rest ih => exact ⟨.text s (ih a).1, (ih a).2⟩
  | element tag cs rest ihcs ihrest =>
    rw [assignIds_element, Forest.headings]
    by_cases h : tag.isHeading
    · simp only [h, if_true, List.singleton_append, giveIds, giveIds_append, headingId_ofText]
      obtain ⟨hcs, hcs'⟩ := ihcs (headingId a tag cs).2
      rw [hcs']
      obtain ⟨hrest, hrest'⟩ := ihrest (giveIds (headingId a tag cs).2 cs.headings).2
      exact ⟨.heading _ h hcs hrest, hrest'⟩
    · simp only [h, Bool.false_eq_true, if_false, List.nil_append, giveIds_append]
      obtain ⟨hcs, hcs'⟩ := ihcs a
      rw [hcs']
      obtain ⟨hrest, hrest'⟩ := ihrest (giveIds a cs.headings).2
      exact ⟨.plain (by simpa using h) hcs hrest, hrest'⟩

/-- A heading keeps the id that it carries if that is free, and only then. -/
theorem headingId_eq_own_iff {a : Anchors} {tag : Tag} {own : String} (h : ownId? tag = some own)
    (cs : Forest) : (headingId a tag cs).1 = own ↔ a.taken own = false := by
  constructor
  · rintro rfl
    exact (headingId_spec a tag cs).1
  · intro hfree
    have hreserve : (a.reserve own).1 = true := by rw [(a.reserve_spec own).1, hfree, Bool.not_false]
    unfold headingId
    rw [h]
    split
    · next hsome => cases hsome
    · next id hsome =>
      cases hsome
      split
      · rfl
      · next b hb => rw [hb] at hreserve; cases hreserve

/-- **When a heading keeps its own id**: it is free at the start and given to no earlier heading. -/
theorem giveIds_eq_own_iff {a : Anchors} {hs : List (Tag × String)} {i : Nat} {tag : Tag}
    {text own : String} (hi : hs[i]? = some (tag, text)) (h : ownId? tag = some own) :
    (giveIds a hs).1[i]? = some own ↔
      a.taken own = false ∧ own ∉ (giveIds a hs).1.take i := by
  induction hs generalizing a i with
  | nil => simp at hi
  | cons first hs ih =>
    cases i with
    | zero =>
      cases hi
      simp [giveIds, headingId_eq_own_iff h]
    | succ i =>
      -- the id of the first heading is taken afterwards, and nothing else
      have htaken := (headingId_spec a first.1 (.ofText first.2)).2.2 own
      simp only [giveIds, List.getElem?_cons_succ, List.take_succ_cons, List.mem_cons, not_or]
      rw [ih (by simpa using hi), ← and_assoc, and_congr_left_iff]
      intro _
      rw [Bool.eq_false_iff, Bool.eq_false_iff, ne_eq, htaken, not_or, and_comm]

-- ════════════════════════════════════════════════════════════════════════
-- Whole documents
-- ════════════════════════════════════════════════════════════════════════

/-- **A document whose headings have ids**, against the document before. -/
structure Labelled (f f' : Forest) : Prop where
  /-- Nothing but the ids of headings is changed. -/
  relabelled : Relabelled f'.headingIds f f'
  /-- Every heading has an id, and none is empty. -/
  labelled : ∀ tag ∈ f'.tags, tag.isHeading = true → ∃ id, tag.attr? "id" = some id ∧ id ≠ ""
  /-- No two headings have the same id. -/
  nodup : f'.headingIds.Nodup
  /-- No other element has the id of a heading, with or without blank ends. -/
  apart : ∀ tag ∈ f'.tags, tag.isHeading = false →
    ∀ id ∈ f'.headingIds, tag.attr? "id" ≠ some id ∧ ¬tag.Carries id
  /-- A heading keeps the id that it carries if no other element carries it and no earlier heading
  is given it, and only then. -/
  kept : ∀ i tag text own, f.headings[i]? = some (tag, text) → tag.Carries own →
    (f'.headingIds[i]? = some own ↔
      (∀ other ∈ f.tags, other.isHeading = false → ¬other.Carries own) ∧
        own ∉ f'.headingIds.take i)

/-- The ids that are free once the ids of other elements are reserved. -/
theorem taken_reserveIds_eq_false_iff (document : Forest) (id : String) :
    (reserveIds {} document).taken id = false ↔
      ∀ other ∈ document.tags, other.isHeading = false → ¬other.Carries id := by
  have hempty : ({} : Anchors).taken id = false := rfl
  rw [Bool.eq_false_iff, ne_eq, taken_reserveIds, hempty]
  simp only [Bool.false_eq_true, false_or, not_exists, not_and, ownId?_eq_some_iff]

/-- The ids of headings are trimmed. -/
theorem Assigned.isTrimmed_of_mem {a a' : Anchors} {f f' : Forest} (h : Assigned a f f' a')
    {id : String} (hid : id ∈ f'.headingIds) : Text.IsTrimmed id := by
  obtain ⟨tag, htag, htagid⟩ := List.mem_filterMap.mp hid
  obtain ⟨hmem, hheading⟩ := List.mem_filter.mp htag
  obtain ⟨own, hown, htrim⟩ := h.labelled tag hmem hheading
  rw [htagid, Option.some.injEq] at hown
  exact hown ▸ htrim

/-- No other element carries the id of a heading. -/
theorem not_carries_of_mem_headingIds {document : Forest} {tag : Tag}
    (ht : tag ∈ (assignHeadingIds document).tags) (hh : tag.isHeading = false) {id : String}
    (hid : id ∈ (assignHeadingIds document).headingIds) : ¬tag.Carries id := by
  have hassigned := assigned_assignIds (reserveIds {} document) document
  have hother := List.mem_filter (p := fun tag => !tag.isHeading).mpr ⟨ht, by simp [hh]⟩
  rw [assignHeadingIds, hassigned.others] at hother
  exact (taken_reserveIds_eq_false_iff document id).mp (hassigned.fresh id hid) tag
    (List.mem_filter.mp hother).1 hh

/-- **Headings get ids of their own**, in every document. -/
theorem labelled_assignHeadingIds (document : Forest) :
    Labelled document (assignHeadingIds document) := by
  have hassigned := assigned_assignIds (reserveIds {} document) document
  have hrun := (relabelled_assignIds (reserveIds {} document) document).1
  have hids : (assignHeadingIds document).headingIds =
      (giveIds (reserveIds {} document) document.headings).1 := hrun.headingIds_eq
  constructor
  case relabelled =>
    rw [hids]
    exact hrun
  case labelled =>
    intro tag ht hh
    obtain ⟨id, hid, htrim⟩ := hassigned.labelled tag ht hh
    refine ⟨id, hid, ?_⟩
    rintro rfl
    cases htrim.1
  case nodup => exact hassigned.nodup
  case apart =>
    intro tag ht hh id hid
    have hfree : ¬tag.Carries id := not_carries_of_mem_headingIds ht hh hid
    -- the ids of headings are trimmed, so an element that has one carries it
    refine ⟨fun htag => hfree ?_, hfree⟩
    exact ownId?_eq_some_iff.mp (ownId?_of_isTrimmed htag (hassigned.isTrimmed_of_mem hid))
  case kept =>
    intro i tag text own hi hcarries
    rw [hids, ← taken_reserveIds_eq_false_iff]
    exact giveIds_eq_own_iff hi (ownId?_eq_some_iff.mpr hcarries)

end ArticleMarkup
