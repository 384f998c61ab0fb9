import ArticleMarkup.Proofs.Forest.Nodes
import ArticleMarkup.Proofs.Forest.Retag
import ArticleMarkup.Proofs.Heading.Ids
import ArticleMarkup.Proofs.Heading.SelfLinks

/-!
# Links in links

Links cannot nest. Linking unwraps the links in the content of a heading that holds no other heading, and
in each run of content around inner headings. A link that holds a heading is never unwrapped, though,
and the heading gets a link of its own, so that the two nest.

## Main definitions

- `Forest.LinksUnnested` — no link holds a link
- `Forest.LinksAvoidHeadings` — no link holds a heading

## Main statements

- `linksUnnested_link` — where no link holds a heading, no link comes to hold a link
- `linksAvoidHeadings_of_link` — where one does, its heading is linked
- `linksUnnested_linkHeadings_iff` — exactly when links do not nest in a linked document
-/

namespace ArticleMarkup

namespace Forest

/-- **No link holds a link**, at any depth. -/
def LinksUnnested (f : Forest) : Prop :=
  ∀ e ∈ f.elements, e.1.name = "a" → ∀ inner ∈ e.2.tags, inner.name ≠ "a"

/-- **No link holds a heading**, at any depth. -/
def LinksAvoidHeadings (f : Forest) : Prop :=
  ∀ e ∈ f.elements, e.1.name = "a" → e.2.hasHeading = false

instance (f : Forest) : Decidable f.LinksUnnested :=
  inferInstanceAs (Decidable (∀ e ∈ f.elements, e.1.name = "a" → ∀ inner ∈ e.2.tags, inner.name ≠ "a"))

instance (f : Forest) : Decidable f.LinksAvoidHeadings :=
  inferInstanceAs (Decidable (∀ e ∈ f.elements, e.1.name = "a" → e.2.hasHeading = false))

variable {f g : Forest}

theorem linksUnnested_element (tag : Tag) (cs rest : Forest) :
    (element tag cs rest).LinksUnnested ↔
      (tag.name = "a" → ∀ inner ∈ cs.tags, inner.name ≠ "a") ∧ cs.LinksUnnested ∧
        rest.LinksUnnested := by
  unfold LinksUnnested
  rw [elements_element, List.forall_mem_cons, List.forall_mem_append]

theorem linksUnnested_append : (f ++ g).LinksUnnested ↔ f.LinksUnnested ∧ g.LinksUnnested := by
  unfold LinksUnnested
  rw [elements_append, List.forall_mem_append]

theorem linksAvoidHeadings_element (tag : Tag) (cs rest : Forest) :
    (element tag cs rest).LinksAvoidHeadings ↔
      (tag.name = "a" → cs.hasHeading = false) ∧ cs.LinksAvoidHeadings ∧
        rest.LinksAvoidHeadings := by
  unfold LinksAvoidHeadings
  rw [elements_element, List.forall_mem_cons, List.forall_mem_append]

theorem linksAvoidHeadings_of_hasHeading (h : f.hasHeading = false) : f.LinksAvoidHeadings := by
  intro e he _
  rw [hasHeading_eq_false_iff] at h ⊢
  exact (forall_elements_of_tags h e he).2

/-- Unwrapped content may stand in a link. -/
theorem linksUnnested_element_unwrapLinks (tag : Tag) (f : Forest) {rest : Forest} :
    (element tag f.unwrapLinks rest).LinksUnnested ↔ rest.LinksUnnested := by
  have hno : ∀ inner ∈ f.unwrapLinks.tags, inner.name ≠ "a" :=
    fun inner hinner => name_ne_of_mem_tags_unwrapLinks hinner
  have hunwrapped : f.unwrapLinks.LinksUnnested := by
    intro e he _
    exact (forall_elements_of_tags hno e he).2
  rw [linksUnnested_element]
  exact ⟨fun h => h.2.2, fun h => ⟨fun _ => hno, hunwrapped, h⟩⟩

-- ════════════════════════════════════════════════════════════════════════
-- New tags
-- ════════════════════════════════════════════════════════════════════════

variable {p : Tag → Tag} (hp : ∀ tag, (p tag).name = tag.name)
include hp

/-- Whether links nest depends on the names of elements only. -/
theorem linksUnnested_retag (f : Forest) : (f.retag p).LinksUnnested ↔ f.LinksUnnested := by
  induction f with
  | nil => exact Iff.rfl
  | text s rest ih => exact ih
  | element tag cs rest ihcs ihrest =>
    rw [retag_element, linksUnnested_element, linksUnnested_element, ihcs, ihrest, tags_retag,
      List.forall_mem_map, hp]
    simp only [hp]

theorem hasHeading_retag (f : Forest) : (f.retag p).hasHeading = f.hasHeading := by
  have hheading : ∀ tag, (p tag).isHeading = tag.isHeading := by
    intro tag
    unfold Tag.isHeading Tag.headingLevel?
    rw [hp]
  induction f with
  | nil => rfl
  | text s rest ih => exact ih
  | element tag cs rest ihcs ihrest =>
    rw [retag_element, hasHeading_element, hasHeading_element, ihcs, ihrest, hheading]

theorem linksAvoidHeadings_retag (f : Forest) :
    (f.retag p).LinksAvoidHeadings ↔ f.LinksAvoidHeadings := by
  induction f with
  | nil => exact Iff.rfl
  | text s rest ih => exact ih
  | element tag cs rest ihcs ihrest =>
    rw [retag_element, linksAvoidHeadings_element, linksAvoidHeadings_element, ihcs, ihrest, hp,
      hasHeading_retag hp]

end Forest

/-- A tag without its attributes. -/
def Tag.bare (tag : Tag) : Tag := ⟨tag.name, []⟩

/-- Giving ids to headings changes attributes only. -/
theorem retag_bare_assignIds (a : Anchors) (f : Forest) :
    (assignIds a f).1.retag Tag.bare = f.retag Tag.bare := by
  induction f generalizing a with
  | nil => rfl
  | text s rest ih => exact congrArg (Forest.text s) (ih a)
  | element tag cs rest ihcs ihrest =>
    rw [assignIds_element]
    have hbare : ∀ id, (if tag.isHeading then tag.setAttr "id" id else tag).bare = tag.bare := by
      intro id
      split <;> rfl
    simp only [Forest.retag_element, hbare, ihcs, ihrest]

-- ════════════════════════════════════════════════════════════════════════
-- Links that are put in
-- ════════════════════════════════════════════════════════════════════════

variable {cls : String} {s : Surroundings} {f cs rest : Forest} {tag : Tag}

theorem linksUnnested_close (hs : s.held.LinksUnnested) (hrest : rest.LinksUnnested) :
    (s.close cls rest).LinksUnnested := by
  cases s with
  | plain => exact hrest
  | heading href run =>
    show (linkRun cls href run rest).LinksUnnested
    unfold linkRun
    split
    · exact Forest.linksUnnested_append.mpr ⟨hs, hrest⟩
    · exact (Forest.linksUnnested_element_unwrapLinks _ run).mpr hrest

theorem linksUnnested_of_close (h : (s.close cls rest).LinksUnnested) : rest.LinksUnnested := by
  cases s with
  | plain => exact h
  | heading href run =>
    change (linkRun cls href run rest).LinksUnnested at h
    unfold linkRun at h
    split at h
    · exact (Forest.linksUnnested_append.mp h).2
    · exact (Forest.linksUnnested_element_unwrapLinks _ run).mp h

theorem linksUnnested_linkedContent (hcs : cs.LinksUnnested)
    (hcut : ∀ href, (link cls (.heading href .nil) cs).LinksUnnested) (tag : Tag) :
    (linkedContent cls tag cs).LinksUnnested := by
  have hnil : Forest.nil.LinksUnnested := by decide
  cases hid : tag.attr? "id" with
  | none => rwa [linkedContent_of_none hid]
  | some id =>
    rcases linkedContent_cases hid cls cs with ⟨a, c, -, -, -, -, heq⟩ | ⟨-, heq⟩ | ⟨-, heq⟩
    · rw [heq]
      exact (Forest.linksUnnested_element_unwrapLinks _ c).mpr hnil
    · rw [heq]
      exact hcut _
    · rw [heq]
      exact (Forest.linksUnnested_element_unwrapLinks _ cs).mpr hnil

/-- **Where no link holds a heading**, linking brings no link into another. -/
theorem linksUnnested_link (hs : s.held.LinksUnnested) (hf : f.LinksUnnested)
    (havoid : f.LinksAvoidHeadings) : (link cls s f).LinksUnnested := by
  have hnil : Forest.nil.LinksUnnested := by decide
  induction f generalizing s with
  | nil =>
    rw [link_nil]
    exact linksUnnested_close hs hnil
  | text t rest ih =>
    cases s with
    | plain => exact ih hnil hf havoid
    | heading href run => exact ih (Forest.linksUnnested_append.mpr ⟨hs, hnil⟩) hf havoid
  | element tag cs rest ihcs ihrest =>
    rw [Forest.linksAvoidHeadings_element] at havoid
    obtain ⟨havoidtag, havoidcs, havoidrest⟩ := havoid
    obtain ⟨htag, hcs, hrest⟩ := (Forest.linksUnnested_element tag cs rest).mp hf
    rcases link_element_cases cls s tag cs rest with ⟨-, heq⟩ | ⟨href, run, rfl, -, -, heq⟩
    · have hafter : (link cls s.cleared rest).LinksUnnested := by
        apply ihrest _ hrest havoidrest
        rwa [Surroundings.held_cleared]
      rw [heq]
      apply linksUnnested_close hs
      rw [Forest.linksUnnested_element]
      refine ⟨?_, ?_, hafter⟩
      · -- a link holds no heading, and so it stays as it is
        intro hname
        rw [linkedChildren, Tag.isHeading_of_name_eq_a hname, if_neg Bool.false_ne_true,
          link_plain_of_hasHeading cls (havoidtag hname)]
        exact htag hname
      · unfold linkedChildren
        split
        · exact linksUnnested_linkedContent hcs (fun href => ihcs hnil hcs havoidcs) tag
        · exact ihcs hnil hcs havoidcs
    · rw [heq]
      apply ihrest _ hrest havoidrest
      refine Forest.linksUnnested_append.mpr ⟨hs, ?_⟩
      exact (Forest.linksUnnested_element tag cs .nil).mpr ⟨htag, hcs, hnil⟩

-- ════════════════════════════════════════════════════════════════════════
-- Links around headings
-- ════════════════════════════════════════════════════════════════════════

theorem mem_tags_close {a : Tag} (h : a ∈ rest.tags) : a ∈ (s.close cls rest).tags := by
  cases s with
  | plain => exact h
  | heading href run =>
    show a ∈ (linkRun cls href run rest).tags
    unfold linkRun
    split
    · rw [Forest.tags_append]
      exact List.mem_append_right _ h
    · exact List.mem_cons_of_mem _ (List.mem_append_right _ h)

theorem exists_link_linkedContent {id : String} (hid : tag.attr? "id" = some id)
    (hcut : ∀ href, cs.hasHeading = true →
      ∃ a ∈ (link cls (.heading href .nil) cs).tags, a.name = "a") :
    ∃ a ∈ (linkedContent cls tag cs).tags, a.name = "a" := by
  rcases linkedContent_cases hid cls cs with
    ⟨a, c, -, hname, -, -, heq⟩ | ⟨hinner, heq⟩ | ⟨-, heq⟩
  · rw [heq]
    exact ⟨_, List.mem_cons_self, hname⟩
  · rw [heq]
    exact hcut _ hinner
  · rw [heq]
    exact ⟨_, List.mem_cons_self, rfl⟩

/-- Where there is a heading with an id, there is a link afterwards. -/
theorem exists_link_of_hasHeading (hids : f.HeadingsHaveIds) (h : f.hasHeading = true) :
    ∃ a ∈ (link cls s f).tags, a.name = "a" := by
  induction f generalizing s with
  | nil => cases h
  | text t rest ih => cases s <;> exact ih hids h
  | element tag cs rest ihcs ihrest =>
    obtain ⟨htag, hidscs, hidsrest⟩ := (Forest.headingsHaveIds_element tag cs rest).mp hids
    rw [Forest.hasHeading_element, Bool.or_eq_true, Bool.or_eq_true] at h
    rcases link_element_cases cls s tag cs rest with ⟨-, heq⟩ | ⟨href, run, rfl, hno, hnone, heq⟩
    · -- the link stands among the children, or in what follows
      have hlink : (∃ a ∈ (linkedChildren cls tag cs).tags, a.name = "a") ∨
          ∃ a ∈ (link cls s.cleared rest).tags, a.name = "a" := by
        unfold linkedChildren
        by_cases hh : tag.isHeading = true
        · obtain ⟨id, hid⟩ := htag hh
          rw [if_pos hh]
          exact .inl (exists_link_linkedContent hid fun href => ihcs hidscs)
        · rw [if_neg hh]
          exact (or_assoc.mp h).resolve_left hh |>.imp (ihcs hidscs) (ihrest hidsrest)
      rw [heq]
      rcases hlink with ⟨a, ha, hname⟩ | ⟨a, ha, hname⟩
      · exact ⟨a, mem_tags_close (List.mem_cons_of_mem _ (List.mem_append_left _ ha)), hname⟩
      · exact ⟨a, mem_tags_close (List.mem_cons_of_mem _ (List.mem_append_right _ ha)), hname⟩
    · rw [heq]
      apply ihrest hidsrest
      rwa [hno, hnone, Bool.false_eq_true, false_or, false_or] at h

/-- **Where a link holds a heading**, it comes to hold the link of that heading. -/
theorem linksAvoidHeadings_of_link (hids : f.HeadingsHaveIds) (h : (link cls s f).LinksUnnested) :
    f.LinksAvoidHeadings := by
  induction f generalizing s with
  | nil => exact Forest.linksAvoidHeadings_of_hasHeading rfl
  | text t rest ih => cases s <;> exact ih hids h
  | element tag cs rest ihcs ihrest =>
    obtain ⟨htag, hidscs, hidsrest⟩ := (Forest.headingsHaveIds_element tag cs rest).mp hids
    rw [Forest.linksAvoidHeadings_element]
    rcases link_element_cases cls s tag cs rest with ⟨-, heq⟩ | ⟨href, run, rfl, -, hnone, heq⟩
    · rw [heq] at h
      obtain ⟨hno, hchildren, hafter⟩ :=
        (Forest.linksUnnested_element _ _ _).mp (linksUnnested_of_close h)
      unfold linkedChildren at hno hchildren
      refine ⟨?_, ?_, ihrest hidsrest hafter⟩
      · -- a heading in a link would bring a link into it
        intro hname
        rw [Tag.isHeading_of_name_eq_a hname, if_neg Bool.false_ne_true] at hno
        rw [Bool.eq_false_iff]
        intro hinner
        have hlink : ∃ a ∈ (link cls .plain cs).tags, a.name = "a" :=
          exists_link_of_hasHeading hidscs hinner
        obtain ⟨a, ha, haname⟩ := hlink
        exact hno hname a ha haname
      · by_cases hh : tag.isHeading = true
        · obtain ⟨id, hid⟩ := htag hh
          rw [if_pos hh] at hchildren
          rcases linkedContent_cases hid cls cs with
            ⟨a, c, rfl, hname, -, hc, -⟩ | ⟨-, heq⟩ | ⟨hnone, -⟩
          · apply Forest.linksAvoidHeadings_of_hasHeading
            rw [Forest.hasHeading_element, Tag.isHeading_of_name_eq_a hname, hc]
            rfl
          · rw [heq] at hchildren
            exact ihcs hidscs hchildren
          · exact Forest.linksAvoidHeadings_of_hasHeading hnone
        · rw [if_neg hh] at hchildren
          exact ihcs hidscs hchildren
    · rw [heq] at h
      exact ⟨fun _ => hnone, Forest.linksAvoidHeadings_of_hasHeading hnone, ihrest hidsrest h⟩

-- ════════════════════════════════════════════════════════════════════════
-- Whole documents
-- ════════════════════════════════════════════════════════════════════════

/-- **When links nest in a linked document**: where they did not before, they do exactly if some link holds
a heading. -/
theorem linksUnnested_linkHeadings_iff (cls : String) {document : Forest}
    (hdocument : document.LinksUnnested) :
    (linkHeadings cls (assignHeadingIds document)).LinksUnnested ↔ document.LinksAvoidHeadings := by
  have hbare : ∀ tag, (Tag.bare tag).name = tag.name := fun _ => rfl
  have hretag : (assignHeadingIds document).retag Tag.bare = document.retag Tag.bare :=
    retag_bare_assignIds _ document
  have hunnested : (assignHeadingIds document).LinksUnnested := by
    rwa [← Forest.linksUnnested_retag hbare, hretag, Forest.linksUnnested_retag hbare]
  rw [← Forest.linksAvoidHeadings_retag hbare document, ← hretag,
    Forest.linksAvoidHeadings_retag hbare]
  constructor
  · exact linksAvoidHeadings_of_link (headingsHaveIds_assignHeadingIds document)
  · have hnil : Forest.nil.LinksUnnested := by decide
    exact linksUnnested_link (s := .plain) hnil hunnested

/-- A heading with an inner heading and a link in its content. -/
def linkInHeading : Forest :=
  .single ⟨"h2", []⟩ (.text "See " (.element ⟨"a", [⟨"href", "/x"⟩]⟩ (.ofText "docs")
    (.single ⟨"h3", []⟩ (.ofText "Inner"))))

theorem linksUnnested_linkHeadings_linkInHeading :
    linkInHeading.LinksUnnested ∧
      (linkHeadings "heading-anchor" (assignHeadingIds linkInHeading)).LinksUnnested :=
  have hdocument : linkInHeading.LinksUnnested := by decide
  ⟨hdocument, (linksUnnested_linkHeadings_iff "heading-anchor" hdocument).mpr (by decide)⟩

/-- A heading with a link around an inner heading. -/
def headingInLink : Forest :=
  .single ⟨"h2", []⟩ (.text "Outer " (.single ⟨"a", [⟨"href", "/x"⟩]⟩
    (.single ⟨"h3", []⟩ (.ofText "Inner"))))

/-- The inner heading is linked in the link that is around it. -/
theorem linkHeadings_nests_headingInLink :
    ¬∀ (cls : String) (document : Forest), document.LinksUnnested →
      (linkHeadings cls (assignHeadingIds document)).LinksUnnested := by
  intro hunnested
  have hnests : ¬(linkHeadings "heading-anchor" (assignHeadingIds headingInLink)).LinksUnnested := by
    decide
  exact hnests (hunnested _ _ (by decide))

end ArticleMarkup
