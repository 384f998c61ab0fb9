import ArticleMarkup.Heading.Ids
import ArticleMarkup.Proofs.Anchor
import ArticleMarkup.Proofs.Attributes
import ArticleMarkup.Proofs.Forest.Tags

/-!
# Ids of headings

Once ids are assigned, every heading has an id that no other element carries, and the other elements
are as they were.

## Main definitions

- `Forest.headingIds` — the ids that headings carry
- `Assigned` — how a forest with ids relates to the one without
- `Forest.HeadingsHaveIds` — every heading has an id

## Main statements

- `assigned_assignIds` — the pass over a forest, from any ids that are taken
- `exists_id_of_mem_tags_assignHeadingIds` — the id of a heading comes up once
-/

namespace ArticleMarkup

/-- The ids of all headings that have one, in document order. -/
def Forest.headingIds (f : Forest) : List String :=
  (f.tags.filter Tag.isHeading).filterMap (·.attr? "id")

namespace Forest

@[simp] theorem headingIds_nil : nil.headingIds = [] := rfl

@[simp] theorem headingIds_text (s : String) (rest : Forest) :
    (text s rest).headingIds = rest.headingIds := rfl

theorem headingIds_element (tag : Tag) (cs rest : Forest) :
    (element tag cs rest).headingIds =
      (if tag.isHeading then (tag.attr? "id").toList else []) ++ (cs.headingIds ++ rest.headingIds) := by
  simp only [headingIds, tags]
  by_cases h : tag.isHeading
  · cases hid : tag.attr? "id" <;> simp [h, hid]
  · simp [h]

end Forest

-- ════════════════════════════════════════════════════════════════════════
-- Ids that are in use
-- ════════════════════════════════════════════════════════════════════════

/-- A trimmed id of a tag is its own id. -/
theorem ownId?_of_isTrimmed {tag : Tag} {id : String} (h : tag.attr? "id" = some id)
    (ht : Text.IsTrimmed id) : ownId? tag = some id := by
  simp [ownId?, h, ht.1, ht.2]

theorem isTrimmed_of_ownId? {tag : Tag} {id : String} (h : ownId? tag = some id) :
    Text.IsTrimmed id := by
  unfold ownId? at h
  split at h
  · cases h
  · split at h
    · cases h
    · next hb =>
      cases h
      exact Text.isTrimmed_trim (by simpa using hb)

/-- Take the id of a tag, unless it is the tag of a heading. -/
def reserveOwn (a : Anchors) (tag : Tag) : Anchors :=
  match tag.isHeading, ownId? tag with
  | false, some id => (a.reserve id).2
  | _, _ => a

theorem taken_reserveOwn (a : Anchors) (tag : Tag) (id : String) :
    (reserveOwn a tag).taken id = true ↔
      a.taken id = true ∨ (tag.isHeading = false ∧ ownId? tag = some id) := by
  unfold reserveOwn
  split
  · next own hheading hown =>
    rw [(a.reserve_spec own).2, hheading, hown, Option.some.injEq, or_comm, eq_comm (a := id)]
    simp only [true_and]
  · next hno => exact ⟨.inl, fun h => h.resolve_right fun h => hno id h.1 h.2⟩

theorem reserveIds_element (a : Anchors) (tag : Tag) (cs rest : Forest) :
    reserveIds a (.element tag cs rest) = reserveIds (reserveIds (reserveOwn a tag) cs) rest := rfl

/-- **The ids that are reserved** are those of elements that are not headings. -/
theorem taken_reserveIds (a : Anchors) (f : Forest) (id : String) :
    (reserveIds a f).taken id = true ↔
      a.taken id = true ∨ ∃ tag ∈ f.tags, tag.isHeading = false ∧ ownId? tag = some id := by
  induction f generalizing a with
  | nil => simp [reserveIds, Forest.tags]
  | text s rest ih => exact ih a
  | element tag cs rest ihcs ihrest =>
    rw [reserveIds_element, ihrest, ihcs, taken_reserveOwn]
    simp only [Forest.tags, List.exists_mem_cons_iff, List.mem_append, or_and_right, exists_or,
      or_assoc]

-- ════════════════════════════════════════════════════════════════════════
-- Ids that are given
-- ════════════════════════════════════════════════════════════════════════

/-- The id of a heading is free, trimmed, and the only one that is taken on top. -/
theorem headingId_spec (a : Anchors) (tag : Tag) (cs : Forest) :
    a.taken (headingId a tag cs).1 = false ∧ Text.IsTrimmed (headingId a tag cs).1 ∧
      ∀ id, (headingId a tag cs).2.taken id = true ↔
        id = (headingId a tag cs).1 ∨ a.taken id = true := by
  unfold headingId
  split
  · exact a.anchorFor_spec cs.textContent
  · next own hown =>
    obtain ⟨hfree, htaken⟩ := a.reserve_spec own
    split
    · next b hb =>
      rw [hb] at hfree htaken
      exact ⟨by simpa using hfree.symm, isTrimmed_of_ownId? hown, htaken⟩
    · next b hb =>
      -- the own id is in use, so nothing more is taken by asking for it
      rw [hb] at hfree htaken
      have hsame : ∀ id, b.taken id = true ↔ a.taken id = true := by
        intro id
        rw [htaken]
        refine ⟨fun h => h.elim (fun h => ?_) (fun h => h), .inr⟩
        rw [h]
        simpa using hfree.symm
      obtain ⟨hfresh, htrim, hnew⟩ := b.anchorFor_spec cs.textContent
      refine ⟨?_, htrim, fun id => (hnew id).trans (or_congr_right (hsame id))⟩
      rw [Bool.eq_false_iff] at hfresh ⊢
      exact fun h => hfresh ((hsame _).mpr h)

/-- **A forest whose headings have ids**, against the forest before and the ids that are taken before
and after. -/
structure Assigned (a : Anchors) (f f' : Forest) (a' : Anchors) : Prop where
  /-- Elements that are not headings stay. -/
  others : f'.tags.filter (fun tag => !tag.isHeading) = f.tags.filter (fun tag => !tag.isHeading)
  /-- Every heading has a trimmed id. -/
  labelled : ∀ tag ∈ f'.tags, tag.isHeading = true →
    ∃ id, tag.attr? "id" = some id ∧ Text.IsTrimmed id
  /-- The ids of headings were free. -/
  fresh : ∀ id ∈ f'.headingIds, a.taken id = false
  /-- No two headings have the same id. -/
  nodup : f'.headingIds.Nodup
  /-- The ids of headings are taken afterwards, and no others. -/
  taken : ∀ id, a'.taken id = true ↔ id ∈ f'.headingIds ∨ a.taken id = true

theorem assignIds_element (a : Anchors) (tag : Tag) (cs rest : Forest) :
    assignIds a (.element tag cs rest) =
      let here := if tag.isHeading then headingId a tag cs else ("", a)
      let inner := assignIds here.2 cs
      let after := assignIds inner.2 rest
      (.element (if tag.isHeading then tag.setAttr "id" here.1 else tag) inner.1 after.1, after.2) := by
  rw [assignIds]
  by_cases h : tag.isHeading <;> simp [h]

namespace Assigned

variable {a b c : Anchors} {cs cs' rest rest' : Forest} {tag : Tag}

/-- An element that is not a heading, over its children and before the nodes after it. -/
theorem plain (hcs : Assigned a cs cs' b) (hrest : Assigned b rest rest' c)
    (htag : tag.isHeading = false) :
    Assigned a (.element tag cs rest) (.element tag cs' rest') c where
  others := by simp [Forest.tags, htag, hcs.others, hrest.others]
  labelled := by
    simp only [Forest.tags, List.forall_mem_cons, List.forall_mem_append]
    exact ⟨fun h => absurd (htag.symm.trans h) (by decide), hcs.labelled, hrest.labelled⟩
  fresh := by
    simp only [Forest.headingIds_element, htag, Bool.false_eq_true, if_false, List.nil_append,
      List.forall_mem_append]
    refine ⟨hcs.fresh, fun id hid => ?_⟩
    rw [Bool.eq_false_iff]
    intro h
    have := hrest.fresh id hid
    rw [(hcs.taken id).mpr (.inr h)] at this
    cases this
  nodup := by
    simp only [Forest.headingIds_element, htag, Bool.false_eq_true, if_false, List.nil_append]
    refine List.nodup_append.mpr ⟨hcs.nodup, hrest.nodup, ?_⟩
    rintro id hid _ hid' rfl
    have := hrest.fresh id hid'
    rw [(hcs.taken id).mpr (.inl hid)] at this
    cases this
  taken := fun id => by
    simp only [Forest.headingIds_element, htag, Bool.false_eq_true, if_false, List.nil_append,
      List.mem_append]
    rw [hrest.taken, hcs.taken, ← or_assoc, or_comm (a := id ∈ rest'.headingIds)]

/-- A heading with its new id. -/
theorem heading (hcs : Assigned b cs cs' c) {d : Anchors} (hrest : Assigned c rest rest' d)
    (htag : tag.isHeading = true) {id : String} (hfresh : a.taken id = false)
    (htrim : Text.IsTrimmed id) (hb : ∀ other, b.taken other = true ↔ other = id ∨ a.taken other = true) :
    Assigned a (.element tag cs rest) (.element (tag.setAttr "id" id) cs' rest') d := by
  have hheading : (tag.setAttr "id" id).isHeading = true := htag
  have hid : (tag.setAttr "id" id).attr? "id" = some id := by
    rw [Tag.attr?_setAttr, if_pos rfl]
  have hids : (Forest.element (tag.setAttr "id" id) cs' rest').headingIds =
      id :: (cs'.headingIds ++ rest'.headingIds) := by
    rw [Forest.headingIds_element, if_pos hheading, hid]
    rfl
  have hc : ∀ other, c.taken other = true ↔
      other ∈ cs'.headingIds ∨ other = id ∨ a.taken other = true := by
    intro other
    rw [hcs.taken, hb]
  constructor
  · simp [Forest.tags, htag, hcs.others, hrest.others]
  · simp only [Forest.tags, List.forall_mem_cons, List.forall_mem_append]
    exact ⟨fun _ => ⟨id, hid, htrim⟩, hcs.labelled, hrest.labelled⟩
  · rw [hids]
    simp only [List.forall_mem_cons, List.forall_mem_append]
    refine ⟨hfresh, fun other hmem => ?_, fun other hmem => ?_⟩ <;> rw [Bool.eq_false_iff] <;> intro h
    · have := hcs.fresh other hmem
      rw [(hb other).mpr (.inr h)] at this
      cases this
    · have := hrest.fresh other hmem
      rw [(hc other).mpr (.inr (.inr h))] at this
      cases this
  · rw [hids]
    refine List.nodup_cons.mpr ⟨?_, List.nodup_append.mpr ⟨hcs.nodup, hrest.nodup, ?_⟩⟩
    · intro hmem
      rcases List.mem_append.mp hmem with hmem | hmem
      · have := hcs.fresh id hmem
        rw [(hb id).mpr (.inl rfl)] at this
        cases this
      · have := hrest.fresh id hmem
        rw [(hc id).mpr (.inr (.inl rfl))] at this
        cases this
    · rintro other hmem _ hmem' rfl
      have := hrest.fresh other hmem'
      rw [(hc other).mpr (.inl hmem)] at this
      cases this
  · intro other
    rw [hids, hrest.taken, hc, List.mem_cons, List.mem_append]
    constructor
    · rintro (h | h | h | h)
      · exact .inl (.inr (.inr h))
      · exact .inl (.inr (.inl h))
      · exact .inl (.inl h)
      · exact .inr h
    · rintro ((h | h | h) | h)
      · exact .inr (.inr (.inl h))
      · exact .inr (.inl h)
      · exact .inl h
      · exact .inr (.inr (.inr h))

end Assigned

/-- **The pass over a forest** gives its headings ids, whatever ids are taken before. -/
theorem assigned_assignIds (a : Anchors) (f : Forest) :
    Assigned a f (assignIds a f).1 (assignIds a f).2 := by
  induction f generalizing a with
  | nil => exact ⟨rfl, by simp [assignIds, Forest.tags], by simp [assignIds], List.nodup_nil,
      by simp [assignIds]⟩
  | text s rest ih =>
    obtain ⟨hothers, hlabelled, hfresh, hnodup, htaken⟩ := ih a
    exact ⟨hothers, hlabelled, hfresh, hnodup, htaken⟩
  | element tag cs rest ihcs ihrest =>
    rw [assignIds_element]
    by_cases h : tag.isHeading
    · simp only [h, if_true]
      obtain ⟨hfresh, htrim, htaken⟩ := headingId_spec a tag cs
      exact .heading (ihcs _) (ihrest _) h hfresh htrim htaken
    · simp only [h]
      exact .plain (ihcs _) (ihrest _) (by simpa using h)

-- ════════════════════════════════════════════════════════════════════════
-- Whole documents
-- ════════════════════════════════════════════════════════════════════════

/-- **Every heading has an id of its own**, which comes up once among all ids of the document. -/
theorem exists_id_of_mem_tags_assignHeadingIds {document : Forest} {tag : Tag}
    (ht : tag ∈ (assignHeadingIds document).tags) (hh : tag.isHeading = true) :
    ∃ id, tag.attr? "id" = some id ∧ (assignHeadingIds document).ids.count id = 1 := by
  obtain ⟨hothers, hlabelled, hfresh, hnodup, -⟩ :=
    assigned_assignIds (reserveIds {} document) document
  obtain ⟨id, hid, htrim⟩ := hlabelled tag ht hh
  refine ⟨id, hid, ?_⟩
  have hmem : id ∈ (assignHeadingIds document).headingIds :=
    List.mem_filterMap.mpr ⟨tag, List.mem_filter.mpr ⟨ht, hh⟩, hid⟩
  -- an element that is not a heading with this id would have it reserved
  have hother : id ∉ ((assignHeadingIds document).tags.filter
      (fun tag => !tag.isHeading)).filterMap (·.attr? "id") := by
    intro h
    rw [assignHeadingIds, hothers] at h
    obtain ⟨u, hu, huid⟩ := List.mem_filterMap.mp h
    obtain ⟨hudoc, huother⟩ := List.mem_filter.mp hu
    have htaken := (taken_reserveIds {} document id).mpr
      (.inr ⟨u, hudoc, by simpa using huother, ownId?_of_isTrimmed huid htrim⟩)
    rw [hfresh id hmem] at htaken
    cases htaken
  have hsplit : ((assignHeadingIds document).headingIds ++
      ((assignHeadingIds document).tags.filter (fun tag => !tag.isHeading)).filterMap
        (·.attr? "id")).Perm (assignHeadingIds document).ids := by
    have h := (List.filter_append_perm Tag.isHeading (assignHeadingIds document).tags).filterMap
      (·.attr? "id")
    rwa [List.filterMap_append] at h
  rw [← hsplit.count_eq, List.count_append, List.count_eq_zero_of_not_mem hother]
  exact List.count_eq_one_of_mem hnodup hmem

/-- Every heading has an id. -/
def Forest.HeadingsHaveIds (f : Forest) : Prop :=
  ∀ tag ∈ f.tags, tag.isHeading = true → ∃ id, tag.attr? "id" = some id

theorem Forest.headingsHaveIds_element (tag : Tag) (cs rest : Forest) :
    (element tag cs rest).HeadingsHaveIds ↔
      (tag.isHeading = true → ∃ id, tag.attr? "id" = some id) ∧ cs.HeadingsHaveIds ∧
        rest.HeadingsHaveIds := by
  unfold HeadingsHaveIds
  rw [tags, List.forall_mem_cons, List.forall_mem_append]

theorem headingsHaveIds_assignHeadingIds (document : Forest) :
    (assignHeadingIds document).HeadingsHaveIds := by
  intro tag ht hh
  obtain ⟨id, hid, -⟩ := exists_id_of_mem_tags_assignHeadingIds ht hh
  exact ⟨id, hid⟩

/-- Assigning ids changes the tags of headings only, and of those the id only. -/
theorem of_mem_tags_assignIds {P : Tag → Prop}
    (hset : ∀ tag id, tag.isHeading = true → P tag → P (tag.setAttr "id" id)) (a : Anchors)
    {f : Forest} (hf : ∀ tag ∈ f.tags, P tag) : ∀ tag ∈ (assignIds a f).1.tags, P tag := by
  induction f generalizing a with
  | nil => exact hf
  | text s rest ih => exact ih a hf
  | element tag cs rest ihcs ihrest =>
    simp only [Forest.tags, List.forall_mem_cons, List.forall_mem_append] at hf
    rw [assignIds_element]
    simp only [Forest.tags, List.forall_mem_cons, List.forall_mem_append]
    refine ⟨?_, ihcs _ hf.2.1, ihrest _ hf.2.2⟩
    split
    · next h => exact hset tag _ h hf.1
    · exact hf.1

end ArticleMarkup
