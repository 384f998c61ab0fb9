import ArticleMarkup.Proofs.Heading.Labels
import ArticleMarkup.Proofs.Heading.SelfLinks
import ArticleMarkup.Proofs.Highlight.Alike

/-!
# The heading passes do not look into code blocks

Spans are no headings, carry no ids and hold no links. So documents that differ only in the spans of
code blocks still do once their headings have ids and links.

## Main definitions

- `Surroundings.Alike` — surroundings whose waiting contents are alike

## Main statements

- `Highlighter.Alike.assignHeadingIds` — ids keep documents alike
- `Highlighter.Alike.linkHeadings` — self-links keep documents alike
- `assignHeadingIds_eq_self` — a document whose headings have ids of their own keeps them
-/

namespace ArticleMarkup

open Highlight

-- ════════════════════════════════════════════════════════════════════════
-- Ids
-- ════════════════════════════════════════════════════════════════════════

namespace Highlight.OnlySpans

variable {f : Forest}

/-- Spans reserve no id. -/
theorem reserveIds_eq (hf : OnlySpans f) (a : Anchors) : reserveIds a f = a := by
  induction f generalizing a with
  | nil => rfl
  | text s rest ih => exact ih hf a
  | element tag cs rest ihcs ihrest =>
    simp only [OnlySpans, Forest.tags, List.forall_mem_cons, List.forall_mem_append] at hf
    have hown : reserveOwn a tag = a := by
      simp [reserveOwn, ownId?, hf.1.2]
    rw [reserveIds_element, hown, ihcs hf.2.1, ihrest hf.2.2]

/-- Spans are given no id. -/
theorem assignIds_eq (hf : OnlySpans f) (a : Anchors) : assignIds a f = (f, a) := by
  induction f generalizing a with
  | nil => rfl
  | text s rest ih => rw [assignIds, ih hf a]
  | element tag cs rest ihcs ihrest =>
    have hheading : tag.isHeading = false :=
      (Forest.hasHeading_eq_false_iff _).mp hf.hasHeading_eq tag (by simp [Forest.tags])
    simp only [OnlySpans, Forest.tags, List.forall_mem_cons, List.forall_mem_append] at hf
    simp only [assignIds_element, hheading, Bool.false_eq_true, if_false, ihcs hf.2.1,
      ihrest hf.2.2]

end Highlight.OnlySpans

namespace Highlight.Highlighter.Alike

variable {h : Highlighter} {f f' : Forest}

theorem reserveIds_eq (ha : h.Alike f f') (a : Anchors) : reserveIds a f = reserveIds a f' := by
  induction ha generalizing a with
  | nil => rfl
  | text s _ ih => exact ih a
  | element _ _ _ ihcs ihrest => rw [reserveIds_element, reserveIds_element, ihcs, ihrest]
  | block _ _ _ hf hf' _ _ ih =>
    simp only [reserveIds, hf.reserveIds_eq, hf'.reserveIds_eq, ih]

theorem headingId_congr (a : Anchors) (tag : Tag) {cs cs' : Forest}
    (htext : cs.textContent = cs'.textContent) : headingId a tag cs = headingId a tag cs' := by
  unfold headingId
  rw [htext]

/-- The pass that gives ids takes the same ids in both. -/
theorem assignIds (ha : h.Alike f f') (a : Anchors) :
    h.Alike (assignIds a f).1 (assignIds a f').1 ∧ (assignIds a f).2 = (assignIds a f').2 := by
  induction ha generalizing a with
  | nil => exact ⟨.nil, rfl⟩
  | text s _ ih => exact ⟨.text s (ih a).1, (ih a).2⟩
  | @element cs cs' rest rest' tag hsame hcs _ ihcs ihrest =>
    rw [assignIds_element, assignIds_element, headingId_congr a tag hcs.textContent_eq]
    simp only
    generalize (if tag.isHeading then headingId a tag cs' else ("", a)) = here
    obtain ⟨hcs', hinner⟩ := ihcs here.2
    rw [hinner]
    obtain ⟨hrest', hafter⟩ := ihrest (ArticleMarkup.assignIds here.2 cs').2
    refine ⟨.element (fun hpre => ?_) hcs' hrest', hafter⟩
    have htag : tag.name = "pre" := by
      by_cases hh : tag.isHeading <;> simpa [hh] using hpre
    rw [hsame htag]
  | @block content content' rest rest' spans tag code hpre hcode hspans hf hf' htext _ ih =>
    have htag : tag.isHeading = false := isHeading_of_name (.inl hpre)
    have hcodetag : code.isHeading = false := isHeading_of_name (.inr hcode)
    simp only [ArticleMarkup.assignIds, htag, hcodetag, Bool.false_eq_true, if_false,
      hf.assignIds_eq, hf'.assignIds_eq]
    exact ⟨.block hpre hcode hspans hf hf' htext (ih a).1, (ih a).2⟩

theorem assignHeadingIds (ha : h.Alike f f') :
    h.Alike (assignHeadingIds f) (assignHeadingIds f') := by
  unfold ArticleMarkup.assignHeadingIds
  rw [ha.reserveIds_eq]
  exact (ha.assignIds _).1

end Highlight.Highlighter.Alike

/-- Setting an id to the one that a tag has changes nothing. -/
theorem Tag.setAttr_eq_self {tag : Tag} {name value : String} (h : tag.attr? name = some value) :
    tag.setAttr name value = tag := by
  have hattrs : ∀ attrs : List Attribute,
      (attrs.find? (fun a => a.name = name)).map (·.value) = some value →
      setAttribute name value attrs = attrs := by
    intro attrs hvalue
    induction attrs with
    | nil => cases hvalue
    | cons a rest ih =>
      unfold setAttribute
      by_cases hname : a.name = name
      · have ha : a.value = value := by simpa [hname] using hvalue
        rw [if_pos hname, ← ha]
      · rw [if_neg hname, ih (by simpa [hname] using hvalue)]
  unfold setAttr
  rw [hattrs _ h]

/-- The pass over a forest whose headings have ids that are free and their own keeps them. -/
theorem assignIds_eq_self {a : Anchors} {f : Forest}
    (hlabelled : ∀ tag ∈ f.tags, tag.isHeading = true → ∃ id, ownId? tag = some id ∧
      tag.attr? "id" = some id)
    (hfree : ∀ id ∈ f.headingIds, a.taken id = false) (hnodup : f.headingIds.Nodup) :
    (assignIds a f).1 = f := by
  induction f generalizing a with
  | nil => rfl
  | text s rest ih => exact congrArg (Forest.text s) (ih hlabelled hfree hnodup)
  | element tag cs rest ihcs ihrest =>
    simp only [Forest.tags, List.forall_mem_cons, List.forall_mem_append] at hlabelled
    obtain ⟨htag, hcs, hrest⟩ := hlabelled
    rw [Forest.headingIds_element] at hfree hnodup
    simp only [List.forall_mem_append] at hfree
    obtain ⟨-, hinner, hbetween⟩ := List.nodup_append.mp hnodup
    obtain ⟨hnodupcs, hnoduprest, hapart⟩ := List.nodup_append.mp hinner
    -- what is taken at the start of the children, and of the nodes after them
    obtain ⟨here, hhere⟩ : ∃ here, here = if tag.isHeading then headingId a tag cs else ("", a) :=
      ⟨_, rfl⟩
    have hsame : (if tag.isHeading then tag.setAttr "id" here.1 else tag) = tag ∧
        ∀ id ∈ cs.headingIds ++ rest.headingIds, here.2.taken id = false := by
      by_cases hh : tag.isHeading
      · obtain ⟨id, hown, hid⟩ := htag hh
        simp only [hh, if_true] at hhere hfree hbetween ⊢
        rw [hid] at hfree hbetween
        have hkeep : here.1 = id := by
          rw [hhere]
          exact (headingId_eq_own_iff hown cs).mpr (hfree.1 id (by simp))
        refine ⟨by rw [hkeep, Tag.setAttr_eq_self hid], fun other hother => ?_⟩
        have hne : other ≠ id := (hbetween id (by simp) other hother).symm
        rw [Bool.eq_false_iff, hhere]
        intro htaken
        rcases ((headingId_spec a tag cs).2.2 other).mp htaken with heq | htaken
        · rw [← hhere, hkeep] at heq
          exact hne heq
        · rcases List.mem_append.mp hother with hmem | hmem
          · exact absurd htaken (by simp [hfree.2.1 other hmem])
          · exact absurd htaken (by simp [hfree.2.2 other hmem])
      · simp only [hh, Bool.false_eq_true, if_false] at hhere ⊢
        rw [hhere]
        exact ⟨trivial, fun id hid => (List.mem_append.mp hid).elim (hfree.2.1 id) (hfree.2.2 id)⟩
    simp only [List.forall_mem_append] at hsame
    have hcs' : (assignIds here.2 cs).1 = cs := ihcs hcs hsame.2.1 hnodupcs
    have hrest' : (assignIds (assignIds here.2 cs).2 rest).1 = rest := by
      refine ihrest hrest (fun id hid => ?_) hnoduprest
      rw [Bool.eq_false_iff]
      intro htaken
      rcases ((assigned_assignIds here.2 cs).taken id).mp htaken with hmem | htaken
      · rw [hcs'] at hmem
        exact hapart id hmem id hid rfl
      · exact absurd htaken (by simp [hsame.2.2 id hid])
    rw [assignIds_element, ← hhere]
    simp only [hsame.1, hcs', hrest']

/-- **A document whose headings have ids of their own** keeps them. -/
theorem assignHeadingIds_eq_self {f : Forest}
    (hlabelled : ∀ tag ∈ f.tags, tag.isHeading = true → ∃ id, ownId? tag = some id ∧
      tag.attr? "id" = some id)
    (hapart : ∀ tag ∈ f.tags, tag.isHeading = false → ∀ id ∈ f.headingIds, ¬tag.Carries id)
    (hnodup : f.headingIds.Nodup) : assignHeadingIds f = f := by
  refine assignIds_eq_self hlabelled (fun id hid => ?_) hnodup
  exact (taken_reserveIds_eq_false_iff f id).mpr fun tag htag hh => hapart tag htag hh id hid

-- ════════════════════════════════════════════════════════════════════════
-- Links
-- ════════════════════════════════════════════════════════════════════════

/-- **Surroundings that are alike**: the contents that wait for their link are. -/
inductive Surroundings.Alike (h : Highlighter) : Surroundings → Surroundings → Prop where
  | plain : Surroundings.Alike h .plain .plain
  | heading (href : String) {run run' : Forest} :
      h.Alike run run' → Surroundings.Alike h (.heading href run) (.heading href run')

namespace Highlight.Highlighter.Alike

variable {h : Highlighter} {cs cs' f f' g g' run run' : Forest} {cls href : String}

theorem selfLink (hr : h.Alike run run') (ha : h.Alike f f') :
    h.Alike (selfLink cls href run f) (selfLink cls href run' f') := by
  have hno : "a" ≠ "pre" := by decide
  exact .element (fun hpre => absurd hpre hno) hr.unwrapLinks ha

theorem linkRun (hr : h.Alike run run') (ha : h.Alike f f') :
    h.Alike (linkRun cls href run f) (linkRun cls href run' f') := by
  unfold ArticleMarkup.linkRun
  rw [hr.allBlank_eq]
  split
  · exact hr.append ha
  · exact hr.selfLink ha

theorem isLinked_eq (ha : h.Alike f f') : isLinked cls f = isLinked cls f' := by
  cases ha with
  | nil => rfl
  | text s _ => rfl
  | element hpre hcs hrest =>
    cases hrest with
    | nil => simp only [isLinked, hcs.hasHeading_eq]
    | text s _ => rfl
    | element => rfl
    | block => rfl
  | block hpre hcode hspans hf hf' htext hrest =>
    cases hrest with
    | nil =>
      simp only [isLinked, Forest.hasHeading_element, hf.hasHeading_eq, hf'.hasHeading_eq]
    | text s _ => rfl
    | element => rfl
    | block => rfl

theorem refreshLink (ha : h.Alike f f') (hlinked : isLinked cls f = true) :
    h.Alike (refreshLink href f) (refreshLink href f') := by
  obtain ⟨tag, cs, rfl, hname, -⟩ := isLinked_iff.mp hlinked
  have hno : tag.name ≠ "pre" := by rw [hname]; decide
  cases ha with
  | element hpre hcs hrest =>
    exact .element (fun hpre => absurd hpre hno) hcs.unwrapLinks hrest
  | block hpre => exact absurd hpre hno

/-- The linked contents of a heading, once linking a run of them is dealt with. -/
theorem linkedContent (tag : Tag) (ha : h.Alike cs cs')
    (hruns : ∀ href, h.Alike (link cls (.heading href .nil) cs) (link cls (.heading href .nil) cs')) :
    h.Alike (linkedContent cls tag cs) (linkedContent cls tag cs') := by
  unfold ArticleMarkup.linkedContent
  split
  · exact ha
  · rw [← ha.isLinked_eq, ← ha.hasHeading_eq]
    split
    · next hlinked => exact ha.refreshLink hlinked
    · split
      · exact hruns _
      · exact ha.selfLink .nil

/-- **Self-links keep forests alike**, in alike surroundings. -/
theorem link {s s' : Surroundings} (hs : s.Alike h s') (ha : h.Alike f f') :
    h.Alike (link cls s f) (link cls s' f') := by
  induction ha generalizing s s' with
  | nil =>
    cases hs with
    | plain => exact .nil
    | heading href hr => exact hr.linkRun .nil
  | text t _ ih =>
    cases hs with
    | plain => exact .text t (ih .plain)
    | heading href hr => exact ih (.heading href (hr.append (.text t .nil)))
  | @element cs cs' rest rest' tag hsame hcs hrest ihcs ihrest =>
    have hcontent : h.Alike (ArticleMarkup.linkedContent cls tag cs)
        (ArticleMarkup.linkedContent cls tag cs') :=
      hcs.linkedContent tag fun href => ihcs (.heading href .nil)
    cases hs with
    | plain =>
      rw [link_plain_element, link_plain_element]
      refine .element (fun hpre => by rw [hsame hpre]) ?_ (ihrest .plain)
      split
      · exact hcontent
      · exact ihcs .plain
    | heading href hr =>
      rw [link_heading_element, link_heading_element, ← hcs.hasHeading_eq]
      split
      · exact hr.linkRun (.element (fun hpre => by rw [hsame hpre]) hcontent
          (ihrest (.heading href .nil)))
      · split
        · exact hr.linkRun (.element (fun hpre => by rw [hsame hpre]) (ihcs .plain)
            (ihrest (.heading href .nil)))
        · exact ihrest (.heading href (hr.append (.element hsame hcs .nil)))
  | @block content content' rest rest' spans tag code hpre hcode hspans hf hf' htext hrest ih =>
    have hblock : ∀ {r r' : Forest}, h.Alike r r' →
        h.Alike (.element tag (.element code content .nil) r)
          (.element tag (.element code content' .nil) r') :=
      fun hr => .block hpre hcode hspans hf hf' htext hr
    have htag : tag.isHeading = false := isHeading_of_name (.inl hpre)
    have hcodetag : code.isHeading = false := isHeading_of_name (.inr hcode)
    have hnone : ∀ {c : Forest}, OnlySpans c → (Forest.element code c .nil).hasHeading = false := by
      intro c hc
      rw [Forest.hasHeading_element, hcodetag, hc.hasHeading_eq]
      rfl
    cases hs with
    | plain =>
      simp only [link_plain_element cls tag, htag, Bool.false_eq_true, if_false,
        link_plain_of_hasHeading cls (hnone hf), link_plain_of_hasHeading cls (hnone hf')]
      exact hblock (ih .plain)
    | heading href hr =>
      simp only [link_heading_element, htag, Bool.false_eq_true, if_false, hnone hf, hnone hf']
      exact ih (.heading href (hr.append (hblock .nil)))

theorem linkHeadings (ha : h.Alike f f') : h.Alike (linkHeadings cls f) (linkHeadings cls f') :=
  ha.link .plain

end Highlight.Highlighter.Alike

end ArticleMarkup
