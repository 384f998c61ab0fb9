import ArticleMarkup.Proofs.Heading.Alike
import ArticleMarkup.Proofs.Highlight.Hidden

/-!
# Linking headings again

A linked document that has been highlighted is linked already: a heading with one link is brought up to
date and stays, and one with several is cut at the same places as before. The places are the inner
headings, so this fails where highlighting has hidden one.

## Main definitions

- `LinkFree` — no links, and no texts side by side
- `Breaks` — what stands behind a run of linked content
- `Relinks` — linking again changes nothing

## Main statements

- `textsApart_link`, `outline_link_plain` — texts of linked documents
- `linkHeadings_highlight_linkHeadings` — linking a highlighted document again
- `linkHeadings_linkHeadings` — linking twice
- `hides_link` — linking hides no heading
-/

namespace ArticleMarkup

open Highlight

variable {cls : String}

-- ════════════════════════════════════════════════════════════════════════
-- Forests without links
-- ════════════════════════════════════════════════════════════════════════

namespace Forest

theorem textsApart_append {a b : Forest} (ha : a.textsApart = true) (hb : b.textsApart = true)
    (hfirst : b.startsWithText = false) : (a ++ b).textsApart = true := by
  induction a with
  | nil => exact hb
  | text s a ih =>
    simp only [textsApart, Bool.and_eq_true] at ha
    simp only [text_append, textsApart, Bool.and_eq_true]
    refine ⟨?_, ih ha.2⟩
    cases a with
    | nil => rw [nil_append, hfirst]; rfl
    | text t a => exact ha.1
    | element tag' cs' a => rfl
  | element tag' cs' a _ ih =>
    simp only [textsApart, Bool.and_eq_true] at ha
    simp only [element_append, textsApart, Bool.and_eq_true]
    exact ⟨ha.1, ih ha.2⟩

/-- Texts that stand apart still do when what follows the first forest is cut off. -/
theorem textsApart_of_append {a b : Forest} (h : (a ++ b).textsApart = true) :
    a.textsApart = true ∧ b.textsApart = true := by
  induction a with
  | nil => exact ⟨rfl, h⟩
  | text s a ih =>
    simp only [text_append, textsApart, Bool.and_eq_true] at h ⊢
    refine ⟨⟨?_, (ih h.2).1⟩, (ih h.2).2⟩
    cases a with
    | nil => rfl
    | text t a => exact h.1
    | element tag cs a => rfl
  | element tag cs a _ ih =>
    simp only [element_append, textsApart, Bool.and_eq_true] at h ⊢
    exact ⟨⟨h.1, (ih h.2).1⟩, (ih h.2).2⟩

theorem textsApart_unwrapLinks (f : Forest) : f.unwrapLinks.textsApart = true := by
  induction f with
  | nil => rfl
  | text s rest ih => exact textsApart_consText s ih
  | element tag cs rest ihcs ihrest =>
    by_cases hname : tag.name = "a"
    · rw [unwrapLinks_element_of_eq hname]
      exact textsApart_glue ihcs ihrest
    · simp [unwrapLinks_element_of_ne hname, textsApart, ihcs, ihrest]

/-- **A forest without links** whose texts stand apart. -/
structure LinkFree (f : Forest) : Prop where
  /-- No element is a link. -/
  links : ∀ tag ∈ f.tags, tag.name ≠ "a"
  /-- The texts stand apart. -/
  apart : f.textsApart = true

theorem linkFree_unwrapLinks (f : Forest) : LinkFree f.unwrapLinks :=
  ⟨fun _ ht => name_ne_of_mem_tags_unwrapLinks ht, textsApart_unwrapLinks f⟩

/-- Without links there is nothing to unwrap. -/
theorem LinkFree.unwrapLinks_eq {f : Forest} (hf : LinkFree f) : f.unwrapLinks = f := by
  obtain ⟨hlinks, hapart⟩ := hf
  induction f with
  | nil => rfl
  | text s rest ih =>
    simp only [textsApart, Bool.and_eq_true, Bool.not_eq_true'] at hapart
    rw [unwrapLinks_text, ih hlinks hapart.2]
    cases rest with
    | nil => rfl
    | text t rest => cases hapart.1
    | element tag cs rest => rfl
  | element tag cs rest ihcs ihrest =>
    simp only [textsApart, Bool.and_eq_true] at hapart
    simp only [tags, List.forall_mem_cons, List.forall_mem_append] at hlinks
    rw [unwrapLinks_element_of_ne hlinks.1, ihcs hlinks.2.1 hapart.1, ihrest hlinks.2.2 hapart.2]

theorem LinkFree.highlight {f : Forest} (hf : LinkFree f) (h : Highlighter) :
    LinkFree (h.highlight f) := by
  refine ⟨h.of_mem_tags_highlight ?_ ?_ hf.links, h.textsApart_highlight hf.apart⟩
  · intro scope
    exact (by decide : "span" ≠ "a")
  · intro tag _ hname
    simpa using hname

end Forest

open Forest (LinkFree)

-- ════════════════════════════════════════════════════════════════════════
-- Texts of linked documents
-- ════════════════════════════════════════════════════════════════════════

theorem textsApart_close {s : Surroundings} {rest : Forest} (hs : s.held.textsApart = true)
    (hrest : rest.textsApart = true) (hfirst : rest.startsWithText = false) :
    (s.close cls rest).textsApart = true := by
  cases s with
  | plain => exact hrest
  | heading href run =>
    show (linkRun cls href run rest).textsApart = true
    unfold linkRun
    split
    · exact Forest.textsApart_append hs hrest hfirst
    · simp [selfLink, Forest.textsApart, Forest.textsApart_unwrapLinks, hrest]

theorem textsApart_linkedContent {cs : Forest} (hcs : cs.textsApart = true)
    (hcut : ∀ href, (link cls (.heading href .nil) cs).textsApart = true) (tag : Tag) :
    (linkedContent cls tag cs).textsApart = true := by
  cases hid : tag.attr? "id" with
  | none => rwa [linkedContent_of_none hid]
  | some id =>
    rcases linkedContent_cases hid cls cs with ⟨a, c, -, -, -, -, heq⟩ | ⟨-, heq⟩ | ⟨-, heq⟩
    · simp [heq, Forest.textsApart, Forest.textsApart_unwrapLinks]
    · rw [heq, hcut]
    · simp [heq, Forest.textsApart, Forest.textsApart_unwrapLinks]

/-- Linking brings no texts together. -/
theorem textsApart_link {s : Surroundings} {f : Forest} (hf : (s.held ++ f).textsApart = true) :
    (link cls s f).textsApart = true := by
  induction f generalizing s with
  | nil =>
    rw [Forest.append_nil] at hf
    rw [link_nil]
    exact textsApart_close hf rfl rfl
  | text t rest ih =>
    cases s with
    | plain =>
      simp only [Surroundings.held, Forest.nil_append, Forest.textsApart, Bool.and_eq_true] at hf
      simp only [link_plain_text, Forest.textsApart, Bool.and_eq_true]
      refine ⟨?_, ih hf.2⟩
      cases rest with
      | nil => rfl
      | text u rest => exact hf.1
      | element tag cs rest => rfl
    | heading href run =>
      refine ih (s := .heading href (run ++ .ofText t)) ?_
      simpa [Surroundings.held, Forest.ofText, Forest.append_assoc] using hf
  | element tag cs rest ihcs ihrest =>
    obtain ⟨hheld, helement⟩ := Forest.textsApart_of_append hf
    simp only [Forest.textsApart, Bool.and_eq_true] at helement
    have hchildren : (linkedChildren cls tag cs).textsApart = true := by
      unfold linkedChildren
      split
      · exact textsApart_linkedContent helement.1 (fun href => ihcs helement.1) tag
      · exact ihcs (s := .plain) helement.1
    rcases link_element_cases cls s tag cs rest with ⟨-, heq⟩ | ⟨href, run, rfl, -, -, heq⟩
    · have hafter : (link cls s.cleared rest).textsApart = true :=
        ihrest (by rw [Surroundings.held_cleared]; exact helement.2)
      rw [heq]
      exact textsApart_close hheld (by simp [Forest.textsApart, hchildren, hafter]) rfl
    · rw [heq]
      refine ihrest (s := .heading href (run ++ .single tag cs)) ?_
      simpa [Surroundings.held, Forest.single, Forest.append_assoc] using hf

theorem outline_link_plain (f : Forest) : (link cls .plain f).outline = f.outline := by
  induction f with
  | nil => rfl
  | text s rest ih => exact congrArg (some s :: ·) ih
  | element tag cs rest _ ih =>
    rw [link_plain_element]
    exact congrArg (none :: ·) ih

-- ════════════════════════════════════════════════════════════════════════
-- Contents with one link
-- ════════════════════════════════════════════════════════════════════════

/-- A heading keeps its content when that is one link with the right address. -/
theorem linkedContent_eq_self {tag a : Tag} {id : String} {u : Forest} (hid : tag.attr? "id" = some id)
    (ha : a.name = "a") (hcls : a.hasClass cls = true) (hhref : a.attr? "href" = some ("#" ++ id))
    (hu : LinkFree u) (hnone : u.hasHeading = false) :
    linkedContent cls tag (.element a u .nil) = .element a u .nil := by
  have hlinked : isLinked cls (.element a u .nil) = true :=
    isLinked_iff.mpr ⟨a, u, rfl, ha, hcls, hnone⟩
  unfold linkedContent
  rw [hid]
  simp only
  rw [if_pos hlinked, refreshLink, Tag.setAttr_eq_self hhref, hu.unwrapLinks_eq]

/-- The same of a new link, whether or not it is found by its class: a link that is not found is unwrapped
and put around the same content. -/
theorem linkedContent_selfLinkTag {tag : Tag} {id : String} {u : Forest}
    (hid : tag.attr? "id" = some id) (hu : LinkFree u) (hnone : u.hasHeading = false) :
    linkedContent cls tag (.element (selfLinkTag cls id) u .nil) =
      .element (selfLinkTag cls id) u .nil := by
  have hname : (selfLinkTag cls id).name = "a" := rfl
  by_cases hclass : (selfLinkTag cls id).hasClass cls = true
  · exact linkedContent_eq_self hid hname hclass rfl hu hnone
  · have hlinked : ¬isLinked cls (.element (selfLinkTag cls id) u .nil) = true := by
      rw [isLinked_iff]
      rintro ⟨a, c, heq, -, hac, -⟩
      cases heq
      exact hclass hac
    have hheading : ¬(Forest.element (selfLinkTag cls id) u .nil).hasHeading = true := by
      rw [Forest.hasHeading_element, Tag.isHeading_of_name_eq_a hname, hnone]
      exact Bool.false_ne_true
    unfold linkedContent
    rw [hid]
    simp only [if_neg hlinked, if_neg hheading]
    rw [selfLink, Forest.unwrapLinks_element_of_eq hname, hu.unwrapLinks_eq,
      Forest.unwrapLinks_nil, Forest.glue_nil]
    rfl

theorem hasClass_setAttr_href (tag : Tag) (href : String) :
    (tag.setAttr "href" href).hasClass cls = tag.hasClass cls := by
  have hattr : (tag.setAttr "href" href).attr? "class" = tag.attr? "class" := by
    rw [Tag.attr?_setAttr, if_neg (by decide)]
  unfold Tag.hasClass Tag.classes
  rw [hattr]

-- ════════════════════════════════════════════════════════════════════════
-- Runs of linked content
-- ════════════════════════════════════════════════════════════════════════

/-- Blank texts wait for the next node. -/
theorem link_heading_append {href : String} {blanks : Forest} (hb : blanks.allBlank = true)
    (run f : Forest) :
    link cls (.heading href run) (blanks ++ f) = link cls (.heading href (run ++ blanks)) f := by
  induction blanks generalizing run with
  | nil => simp
  | text s rest ih =>
    simp only [Forest.allBlank, Bool.and_eq_true] at hb
    rw [Forest.text_append, link_heading_text, ih hb.2, Forest.append_assoc]
    rfl
  | element tag cs rest => cases hb

/-- **What ends a run**: linking it links the run in front of it and leaves it alone. -/
def Breaks (cls href : String) (f : Forest) : Prop :=
  ∀ run, link cls (.heading href run) f = linkRun cls href run f

/-- **A run of content that has been linked and highlighted** stays as it is. -/
theorem link_highlight_linkRun {h : Highlighter} {href : String} {run f : Forest}
    (hrun : run.hasHeading = false) (hf : Breaks cls href (h.highlight f)) :
    link cls (.heading href .nil) (h.highlight (linkRun cls href run f)) =
      h.highlight (linkRun cls href run f) := by
  unfold linkRun
  split
  · next hblank =>
    -- a blank run is not linked, so it waits and is not linked again
    rw [h.highlight_append, h.highlight_of_allBlank hblank, link_heading_append hblank, hf]
    simp [linkRun, hblank]
  · next hblank =>
    -- the link is unwrapped as part of the new run, and put around the same content
    have hfree := (Forest.linkFree_unwrapLinks run).highlight h
    have hnone : (h.highlight run.unwrapLinks).hasHeading = false := by
      rw [← Forest.hasHeading_unwrapLinks] at hrun
      rw [Highlighter.hasHeading_highlight (Highlighter.hides_of_hasHeading hrun), hrun]
    have hno : "a" ≠ "pre" := by decide
    have hheading : Tag.isHeading ⟨"a", [⟨"class", cls⟩, ⟨"href", href⟩]⟩ = false :=
      Tag.isHeading_of_name_eq_a rfl
    rw [selfLink, h.highlight_element_of_ne hno, link_heading_element, hheading, hnone]
    simp only [Bool.false_eq_true, if_false, Forest.nil_append]
    rw [hf, linkRun, if_neg (by simp [Forest.single, Forest.allBlank]), selfLink, Forest.single,
      Forest.unwrapLinks_element_of_eq rfl, hfree.unwrapLinks_eq, Forest.unwrapLinks_nil,
      Forest.glue_nil]

/-- What stands behind a run hides no heading if nothing does. -/
theorem Highlight.Highlighter.hides_of_linkRun {h : Highlighter} {href : String} {run f : Forest}
    (hh : h.hides (linkRun cls href run f) = false) : h.hides f = false := by
  unfold linkRun at hh
  split at hh
  · rw [Highlighter.hides_append, Bool.or_eq_false_iff] at hh
    exact hh.2
  · have hno : "a" ≠ "pre" := by decide
    rw [selfLink, Highlighter.hides_element_of_ne hno, Bool.or_eq_false_iff] at hh
    exact hh.2

-- ════════════════════════════════════════════════════════════════════════
-- Linking again
-- ════════════════════════════════════════════════════════════════════════

/-- **Linking again** changes nothing, in the surroundings of the first time, unless a heading is
hidden. -/
structure Relinks (cls : String) (h : Highlighter) (f : Forest) : Prop where
  /-- Outside of headings. -/
  plain : h.hidesInHeading (link cls .plain f) = false →
    link cls .plain (h.highlight (link cls .plain f)) = h.highlight (link cls .plain f)
  /-- In a heading, behind a run of content without headings. -/
  heading : ∀ href run, run.hasHeading = false → h.hides (link cls (.heading href run) f) = false →
    link cls (.heading href .nil) (h.highlight (link cls (.heading href run) f)) =
      h.highlight (link cls (.heading href run) f)

namespace Relinks

variable {h : Highlighter} {tag : Tag} {cs rest : Forest}

/-- The content of a heading that is one link once it is linked, and that a heading keeps. -/
theorem linkedContent_link {a : Tag} {c : Forest} (hname : a.name = "a") (hc : c.hasHeading = false)
    (hkeep : ∀ u, LinkFree u → u.hasHeading = false →
      ArticleMarkup.linkedContent cls tag (.element a u .nil) = .element a u .nil) :
    linkedContent cls tag (h.highlight (.element a c.unwrapLinks .nil)) =
      h.highlight (.element a c.unwrapLinks .nil) := by
  have hno : a.name ≠ "pre" := by rw [hname]; decide
  rw [← Forest.hasHeading_unwrapLinks] at hc
  rw [h.highlight_element_of_ne hno]
  apply hkeep _ ((Forest.linkFree_unwrapLinks c).highlight h)
  rw [Highlighter.hasHeading_highlight (Highlighter.hides_of_hasHeading hc), hc]

/-- The content of a heading that holds another heading. -/
theorem linkedContent_runs (hcs : Relinks cls h cs) {id : String} (hid : tag.attr? "id" = some id)
    (hheading : cs.hasHeading = true)
    (hh : h.hides (link cls (.heading ("#" ++ id) .nil) cs) = false) :
    linkedContent cls tag (h.highlight (link cls (.heading ("#" ++ id) .nil) cs)) =
      h.highlight (link cls (.heading ("#" ++ id) .nil) cs) := by
  have hstill : (h.highlight (link cls (.heading ("#" ++ id) .nil) cs)).hasHeading = true := by
    rw [Highlighter.hasHeading_highlight hh, ← hheading]
    exact hasHeading_link cls _ cs
  -- a link that holds a heading is not the link of the outer one
  have hnotlinked : isLinked cls (h.highlight (link cls (.heading ("#" ++ id) .nil) cs)) = false := by
    rw [Bool.eq_false_iff]
    intro hl
    obtain ⟨a, c, heq, hname, -, hc⟩ := isLinked_iff.mp hl
    rw [heq, Forest.hasHeading_element, Tag.isHeading_of_name_eq_a hname, hc] at hstill
    cases hstill
  rw [linkedContent, hid]
  simp only [hnotlinked, hstill, Bool.false_eq_true, if_false, if_true]
  exact hcs.heading _ _ rfl hh

/-- **The content of a heading.** -/
theorem linkedContent (hcs : Relinks cls h cs) (hh : h.hides (linkedContent cls tag cs) = false) :
    linkedContent cls tag (h.highlight (linkedContent cls tag cs)) =
      h.highlight (ArticleMarkup.linkedContent cls tag cs) := by
  cases hid : tag.attr? "id" with
  | none => rw [linkedContent_of_none hid, linkedContent_of_none hid]
  | some id =>
    rcases linkedContent_cases hid cls cs with
      ⟨a, c, -, hname, hclass, hc, heq⟩ | ⟨hinner, heq⟩ | ⟨hnone, heq⟩
    · rw [heq]
      refine linkedContent_link hname hc fun u hu hnone =>
        linkedContent_eq_self hid hname ?_ (by rw [Tag.attr?_setAttr, if_pos rfl]) hu hnone
      rw [hasClass_setAttr_href, hclass]
    · rw [heq] at hh ⊢
      exact hcs.linkedContent_runs hid hinner hh
    · rw [heq]
      exact linkedContent_link rfl hnone fun u hu hnone => linkedContent_selfLinkTag hid hu hnone

/-- Highlighting does not look into a `pre` element that is no code block, but the headings in it are
linked all the same. -/
theorem link_plain_link_plain (hcs : Relinks cls Highlighter.blind cs) :
    link cls .plain (link cls .plain cs) = link cls .plain cs := by
  have hspec := Highlighter.blind_spec (link cls .plain cs)
  have hagain := hcs.plain (Highlighter.hidesInHeading_of_hides hspec.2)
  rwa [hspec.1] at hagain

/-- **An element outside of headings.** -/
theorem plain_element (hcs : ∀ h, Relinks cls h cs)
    (hrest : Relinks cls h rest) (hh : h.hidesInHeading (link cls .plain (.element tag cs rest)) = false) :
    link cls .plain (h.highlight (link cls .plain (.element tag cs rest))) =
      h.highlight (link cls .plain (.element tag cs rest)) := by
  rw [link_plain_element] at hh ⊢
  rcases h.highlight_element tag (if tag.isHeading then ArticleMarkup.linkedContent cls tag cs
      else link cls .plain cs) (link cls .plain rest) with
    ⟨code, content, spans, hpre, -, hcode, ⟨t, ht⟩, heq, -⟩ | ⟨hpre, heq, -⟩ | ⟨hpre, heq, -⟩
  · have hafter : h.hidesInHeading (link cls .plain rest) = false := by
      simpa [Highlighter.hidesInHeading, hpre] using hh
    have hname : (tag.addClass blockClass).isHeading = false :=
      Highlighter.isHeading_of_name (.inl (by simpa using hpre))
    have hnone : (Forest.element code spans .nil).hasHeading = false := by
      rw [Forest.hasHeading_element, Highlighter.isHeading_of_name (.inr hcode),
        (onlySpans_of_spans ht).hasHeading_eq]
      rfl
    rw [heq, link_plain_element, hname, link_plain_of_hasHeading cls hnone, hrest.plain hafter]
    rfl
  · have hafter : h.hidesInHeading (link cls .plain rest) = false := by
      simpa [Highlighter.hidesInHeading, hpre] using hh
    have hheading : tag.isHeading = false := Highlighter.isHeading_of_name (.inl hpre)
    rw [heq, link_plain_element, hrest.plain hafter]
    simp only [hheading, Bool.false_eq_true, if_false,
      link_plain_link_plain (hcs Highlighter.blind)]
  · rw [Highlighter.hidesInHeading, if_neg hpre, Bool.or_eq_false_iff] at hh
    rw [heq, link_plain_element, hrest.plain hh.2]
    cases hheading : tag.isHeading with
    | true =>
      simp only [hheading, if_true] at hh ⊢
      rw [(hcs h).linkedContent hh.1]
    | false =>
      simp only [hheading, Bool.false_eq_true, if_false] at hh ⊢
      rw [(hcs h).plain hh.1]

/-- **An element that ends a run** in a heading: it is a heading or holds one. -/
theorem breaks_element (hcs : ∀ h, Relinks cls h cs) (hrest : Relinks cls h rest) {href : String}
    (htag : tag.isHeading = false) (hinner : cs.hasHeading = true)
    (hh : h.hides (.element tag (link cls .plain cs) (link cls (.heading href .nil) rest)) = false) :
    Breaks cls href
      (h.highlight (.element tag (link cls .plain cs) (link cls (.heading href .nil) rest))) := by
  have hstill : (link cls .plain cs).hasHeading = true := by
    rw [← hinner]
    exact hasHeading_link cls .plain cs
  have hno : ¬tag.isHeading = true := by simp [htag]
  intro run
  rcases h.highlight_element tag (link cls .plain cs) (link cls (.heading href .nil) rest) with
    ⟨code, content, spans, hpre, hcode, hname, -, heq, hreplaced⟩ | ⟨hpre, heq, -⟩ | ⟨hpre, heq, -⟩
  · -- the block would hide the inner heading
    rw [Highlighter.hides, hreplaced, List.any_cons, Bool.or_eq_false_iff] at hh
    rw [hcode, Forest.hasHeading_element, Highlighter.isHeading_of_name (.inr hname), hh.1] at hstill
    cases hstill
  · have hafter := ((Highlighter.hides_pre hpre _ _).mp hh).2
    rw [heq, link_heading_element, if_neg hno, if_pos hstill,
      link_plain_link_plain (hcs Highlighter.blind), hrest.heading href .nil rfl hafter]
  · rw [Highlighter.hides_element_of_ne hpre, Bool.or_eq_false_iff] at hh
    rw [heq, link_heading_element, if_neg hno, Highlighter.hasHeading_highlight hh.1, if_pos hstill,
      (hcs h).plain (Highlighter.hidesInHeading_of_hides hh.1), hrest.heading href .nil rfl hh.2]

/-- **An element in a heading**, behind a run of content. -/
theorem heading_element (hcs : ∀ h, Relinks cls h cs)
    (hrest : Relinks cls h rest) {href : String} {run : Forest} (hrun : run.hasHeading = false)
    (hh : h.hides (link cls (.heading href run) (.element tag cs rest)) = false) :
    link cls (.heading href .nil) (h.highlight (link cls (.heading href run) (.element tag cs rest))) =
      h.highlight (link cls (.heading href run) (.element tag cs rest)) := by
  rw [link_heading_element] at hh ⊢
  cases htag : tag.isHeading with
  | true =>
    rw [htag, if_pos rfl] at hh
    have hpre : tag.name ≠ "pre" := fun hpre => by
      simp [Highlighter.isHeading_of_name (.inl hpre)] at htag
    have helement := Highlighter.hides_of_linkRun hh
    rw [Highlighter.hides_element_of_ne hpre, Bool.or_eq_false_iff] at helement
    refine link_highlight_linkRun hrun fun r => ?_
    rw [h.highlight_element_of_ne hpre, link_heading_element, if_pos htag,
      (hcs h).linkedContent helement.1, hrest.heading href .nil rfl helement.2]
  | false =>
    rw [htag, if_neg Bool.false_ne_true] at hh
    rw [if_neg Bool.false_ne_true]
    by_cases hinner : cs.hasHeading = true
    · rw [if_pos hinner] at hh ⊢
      exact link_highlight_linkRun hrun
        (breaks_element hcs hrest htag hinner (Highlighter.hides_of_linkRun hh))
    · rw [if_neg hinner] at hh ⊢
      exact hrest.heading href _
        (Forest.hasHeading_append_single hrun htag (Bool.eq_false_iff.mpr hinner)) hh

end Relinks

/-- **Linking a forest again**, whatever highlights it in between. -/
theorem relinks (cls : String) (h : Highlighter) (f : Forest) : Relinks cls h f := by
  induction f generalizing h with
  | nil => exact ⟨fun _ => rfl, fun href run hrun _ => link_highlight_linkRun hrun fun _ => rfl⟩
  | text t rest ih =>
    refine ⟨fun hh => congrArg (Forest.text t) ((ih h).plain hh), fun href run hrun hh => ?_⟩
    rw [link_heading_text] at hh ⊢
    exact (ih h).heading href _ (Forest.hasHeading_append_ofText hrun t) hh
  | element tag cs rest ihcs ihrest =>
    exact ⟨Relinks.plain_element ihcs (ihrest h),
      fun href run => Relinks.heading_element ihcs (ihrest h)⟩

/-- **A linked document that has been highlighted** is linked, unless a heading is hidden in the content
of another. -/
theorem linkHeadings_highlight_linkHeadings (cls : String) {h : Highlighter} {f : Forest}
    (hh : h.hidesInHeading (linkHeadings cls f) = false) :
    linkHeadings cls (h.highlight (linkHeadings cls f)) = h.highlight (linkHeadings cls f) :=
  (relinks cls h f).plain hh

/-- **Linking twice** is linking once. -/
theorem linkHeadings_linkHeadings (cls : String) (f : Forest) :
    linkHeadings cls (linkHeadings cls f) = linkHeadings cls f :=
  (relinks cls Highlighter.blind f).link_plain_link_plain

-- ════════════════════════════════════════════════════════════════════════
-- Hidden headings of linked documents
-- ════════════════════════════════════════════════════════════════════════

theorem hides_close {h : Highlighter} {s : Surroundings} {rest : Forest}
    (hs : s.held.hasHeading = false) (hrest : h.hides rest = false) :
    h.hides (s.close cls rest) = false := by
  cases s with
  | plain => exact hrest
  | heading href run =>
    have hrun : run.hasHeading = false := hs
    show h.hides (linkRun cls href run rest) = false
    unfold linkRun
    split
    · rw [Highlighter.hides_append, Highlighter.hides_of_hasHeading hrun, hrest]
      rfl
    · have hno : "a" ≠ "pre" := by decide
      rw [← Forest.hasHeading_unwrapLinks] at hrun
      rw [selfLink, Highlighter.hides_element_of_ne hno, Highlighter.hides_of_hasHeading hrun, hrest]
      rfl

theorem hides_linkedContent {h : Highlighter} {cs : Forest} (hcs : h.hides cs = false)
    (hcut : ∀ href, h.hides (link cls (.heading href .nil) cs) = false) (tag : Tag) :
    h.hides (linkedContent cls tag cs) = false := by
  cases hid : tag.attr? "id" with
  | none => rwa [linkedContent_of_none hid]
  | some id =>
    have hnone : cs.hasHeading = false → h.hides (linkedContent cls tag cs) = false := by
      intro hnone
      apply Highlighter.hides_of_hasHeading
      rw [hasHeading_linkedContent, hnone]
    rcases linkedContent_cases hid cls cs with
      ⟨a, c, rfl, hname, -, hc, -⟩ | ⟨-, heq⟩ | ⟨hinner, -⟩
    · apply hnone
      rw [Forest.hasHeading_element, Tag.isHeading_of_name_eq_a hname, hc]
      rfl
    · rw [heq, hcut]
    · exact hnone hinner

/-- A forest with one top-level element is one whose outline says so. -/
theorem exists_content_of_link {cs : Forest} {code : Tag} {content : Forest}
    (hcode : code.name = "code") (heq : link cls .plain cs = .element code content .nil) :
    ∃ c, cs = .element code c .nil ∧ content = link cls .plain c := by
  have houtline : (link cls .plain cs).outline = cs.outline := outline_link_plain cs
  rw [heq] at houtline
  cases cs with
  | nil => cases houtline
  | text s rest => cases houtline
  | element tag c rest =>
    have hrest : rest = .nil := by
      refine Forest.outline_eq_nil_iff.mp ?_
      simpa [Forest.outline] using houtline.symm
    subst hrest
    rw [link_plain_element] at heq
    simp only [Forest.element.injEq, link_plain_nil, and_true] at heq
    obtain ⟨rfl, hc⟩ := heq
    rw [Highlighter.isHeading_of_name (.inr hcode), if_neg Bool.false_ne_true] at hc
    exact ⟨c, rfl, hc.symm⟩

/-- **Linking hides no heading.** Unwrapped links can turn an element into a code block, but only in
content without headings. -/
theorem hides_link {h : Highlighter} {s : Surroundings} {f : Forest} (hs : s.held.hasHeading = false)
    (hf : h.hides f = false) : h.hides (link cls s f) = false := by
  induction f generalizing s with
  | nil =>
    rw [link_nil]
    exact hides_close hs rfl
  | text t rest ih =>
    cases s with
    | plain => exact ih rfl hf
    | heading href run => exact ih (Forest.hasHeading_append_ofText hs t) hf
  | element tag cs rest ihcs ihrest =>
    have hrest : h.hides rest = false := by
      by_cases hpre : tag.name = "pre"
      · exact ((Highlighter.hides_pre hpre cs rest).mp hf).2
      · rw [Highlighter.hides_element_of_ne hpre, Bool.or_eq_false_iff] at hf
        exact hf.2
    rcases link_element_cases cls s tag cs rest with ⟨-, heq⟩ | ⟨href, run, rfl, htag, hinner, heq⟩
    · have hafter : h.hides (link cls s.cleared rest) = false := by
        apply ihrest _ hrest
        rw [Surroundings.held_cleared]
        rfl
      rw [heq]
      apply hides_close hs
      by_cases hpre : tag.name = "pre"
      · have hplain : linkedChildren cls tag cs = link cls .plain cs := by
          rw [linkedChildren, Highlighter.isHeading_of_name (.inl hpre), if_neg Bool.false_ne_true]
        rw [hplain]
        refine (Highlighter.hides_pre hpre _ _).mpr ⟨?_, hafter⟩
        intro code content spans heq hb
        obtain ⟨code', content', heq', hcode, -⟩ := Highlighter.blockSpans?_eq_ok hb
        rw [heq] at heq' hb
        cases heq'
        obtain ⟨c, rfl, rfl⟩ := exists_content_of_link hcode heq
        -- the block is highlighted before it is linked, and so it holds no heading
        have hb' : h.blockSpans? (.element code c .nil) = some (.ok spans) := by
          rw [Highlighter.blockSpans?, if_pos hcode] at hb ⊢
          rw [← hb]
          exact h.spans?_congr code (textContent_link cls .plain c).symm
        have hc := ((Highlighter.hides_pre hpre _ _).mp hf).1 code c spans rfl hb'
        rw [link_plain_of_hasHeading cls hc, hc]
      · rw [Highlighter.hides_element_of_ne hpre, Bool.or_eq_false_iff] at hf
        rw [Highlighter.hides_element_of_ne hpre, hafter, Bool.or_false]
        unfold linkedChildren
        split
        · exact hides_linkedContent hf.1 (fun href => ihcs rfl hf.1) tag
        · exact ihcs rfl hf.1
    · rw [heq]
      exact ihrest (Forest.hasHeading_append_single hs htag hinner) hrest

end ArticleMarkup
