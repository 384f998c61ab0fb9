import ArticleMarkup.Proofs.Forest.Nodes
import ArticleMarkup.Proofs.Heading.Ids
import ArticleMarkup.Proofs.Heading.SelfLinks

/-!
# The shape of linked headings

A linked heading holds one link to itself or, where it holds other headings, one link for each run of
content around them. Nothing but white space between the inner headings is left without a link.

## Main definitions

- `IsSelfLink` — a link to an address, with neither headings nor links in it
- `CutIntoLinks` — runs of linked content around nodes with headings
- `SelfLinked` — the content of a heading that links to itself

## Main statements

- `cutIntoLinks_link` — the content of a heading that holds another one
- `headingsSelfLinked_linkHeadings` — every heading of a linked document
-/

namespace ArticleMarkup

variable {cls href : String}

-- ════════════════════════════════════════════════════════════════════════
-- Self-links among the children of a heading
-- ════════════════════════════════════════════════════════════════════════

/-- **A self-link**: a link to this address, around content that holds neither a heading nor a link. -/
def IsSelfLink (href : String) (node : Forest) : Prop :=
  ∃ tag content, node = .single tag content ∧ tag.name = "a" ∧ tag.attr? "href" = some href ∧
    content.hasHeading = false ∧ ∀ inner ∈ content.tags, inner.name ≠ "a"

theorem not_isSelfLink_of_hasHeading {node : Forest} (h : node.hasHeading = true) :
    ¬IsSelfLink href node := by
  rintro ⟨tag, content, rfl, hname, -, hnone, -⟩
  rw [Forest.single, Forest.hasHeading_element, Tag.isHeading_of_name_eq_a hname, hnone] at h
  cases h

theorem not_isSelfLink_ofText (s : String) : ¬IsSelfLink href (.ofText s) := by
  rintro ⟨tag, content, h, -⟩
  cases h

/-- Content without headings makes a self-link once its links are unwrapped. -/
theorem isSelfLink_unwrapLinks {tag : Tag} {content : Forest} (hname : tag.name = "a")
    (hhref : tag.attr? "href" = some href) (hnone : content.hasHeading = false) :
    IsSelfLink href (.single tag content.unwrapLinks) := by
  refine ⟨tag, _, rfl, hname, hhref, ?_, ?_⟩
  · rw [Forest.hasHeading_unwrapLinks, hnone]
  · intro inner hinner
    exact Forest.name_ne_of_mem_tags_unwrapLinks hinner

/-- **Content that is cut into links**: each node holds a heading, is blank, or is a link to the address,
and no two links are neighbours. -/
structure CutIntoLinks (href : String) (f : Forest) : Prop where
  nodes : ∀ node ∈ f.nodes, node.hasHeading = true ∨
    (∃ s, node = .ofText s ∧ Text.isBlank s = true) ∨ IsSelfLink href node
  apart : f.nodes.IsChain fun a b => ¬(IsSelfLink href a ∧ IsSelfLink href b)

namespace CutIntoLinks

/-- A node with a heading comes in front. -/
theorem element {tag : Tag} {content rest : Forest}
    (hnode : (Forest.single tag content).hasHeading = true) (hrest : CutIntoLinks href rest) :
    CutIntoLinks href (.element tag content rest) := by
  constructor
  · rw [Forest.nodes, List.forall_mem_cons]
    exact ⟨.inl hnode, hrest.nodes⟩
  · rw [Forest.nodes, List.isChain_cons]
    refine ⟨?_, hrest.apart⟩
    intro next _ hlinks
    exact not_isSelfLink_of_hasHeading hnode hlinks.1

/-- A run of content is linked in front of what does not begin with a link. -/
theorem linkRun {run rest : Forest} (hrun : run.hasHeading = false) (hrest : CutIntoLinks href rest)
    (hfirst : ∀ node ∈ rest.nodes.head?, ¬IsSelfLink href node) :
    CutIntoLinks href (linkRun cls href run rest) := by
  unfold ArticleMarkup.linkRun
  by_cases hblank : run.allBlank = true
  · rw [if_pos hblank]
    have htexts := Forest.blank_of_mem_nodes hblank
    have hno : ∀ node ∈ run.nodes, ¬IsSelfLink href node := by
      intro node hnode
      obtain ⟨s, rfl, -⟩ := htexts node hnode
      exact not_isSelfLink_ofText s
    constructor
    · rw [Forest.nodes_append, List.forall_mem_append]
      exact ⟨fun node hnode => .inr (.inl (htexts node hnode)), hrest.nodes⟩
    · rw [Forest.nodes_append, List.isChain_append]
      refine ⟨?_, hrest.apart, ?_⟩
      · apply List.Pairwise.isChain
        apply List.pairwise_of_forall_mem_list
        intro a ha b _ hlinks
        exact hno a ha hlinks.1
      · intro a _ b hb hlinks
        exact hfirst b hb hlinks.2
  · rw [if_neg hblank]
    have hlink : IsSelfLink href
        (.single ⟨"a", [⟨"class", cls⟩, ⟨"href", href⟩]⟩ run.unwrapLinks) :=
      isSelfLink_unwrapLinks rfl rfl hrun
    constructor
    · rw [selfLink, Forest.nodes, List.forall_mem_cons]
      exact ⟨.inr (.inr hlink), hrest.nodes⟩
    · rw [selfLink, Forest.nodes, List.isChain_cons]
      refine ⟨?_, hrest.apart⟩
      intro next hnext hlinks
      exact hfirst next hnext hlinks.2

end CutIntoLinks

/-- **A heading that holds another one** is cut into links at the nodes that hold headings. -/
theorem cutIntoLinks_link {run : Forest} (hrun : run.hasHeading = false) (f : Forest) :
    CutIntoLinks href (link cls (.heading href run) f) := by
  induction f generalizing run with
  | nil =>
    refine .linkRun hrun ⟨?_, .nil⟩ ?_ <;>
    · intro node hnode
      cases hnode
  | text t rest ih => exact ih (Forest.hasHeading_append_ofText hrun t)
  | element tag cs rest _ ih =>
    rcases link_element_cases cls (.heading href run) tag cs rest with
      ⟨hbreak, heq⟩ | ⟨_, _, ⟨⟩, htag, hinner, heq⟩
    · have hnode : (Forest.single tag (linkedChildren cls tag cs)).hasHeading = true := by
        rw [Forest.single, Forest.hasHeading_element, hasHeading_linkedChildren, Bool.or_eq_true,
          Bool.or_eq_true]
        exact .inl (hbreak.resolve_left Surroundings.noConfusion)
      rw [heq]
      refine .linkRun hrun (.element hnode (ih rfl)) ?_
      rintro node ⟨⟩
      exact not_isSelfLink_of_hasHeading hnode
    · rw [heq]
      exact ih (Forest.hasHeading_append_single hrun htag hinner)

-- ════════════════════════════════════════════════════════════════════════
-- Headings that link to themselves
-- ════════════════════════════════════════════════════════════════════════

/-- **The content of a heading that links to itself**, and to nothing else. -/
structure SelfLinked (href : String) (cs : Forest) : Prop where
  /-- Each child holds a heading, is blank and stands next to one that does, or is a link. -/
  nodes : ∀ node ∈ cs.nodes, node.hasHeading = true ∨
    ((∃ s, node = .ofText s ∧ Text.isBlank s = true) ∧ cs.hasHeading = true) ∨ IsSelfLink href node
  /-- Where there is no other heading, the only child is a link. -/
  alone : cs.hasHeading = false → ∃ node, cs.nodes = [node] ∧ IsSelfLink href node
  /-- No two links are neighbours. -/
  apart : cs.nodes.IsChain fun a b => ¬(IsSelfLink href a ∧ IsSelfLink href b)

theorem selfLinked_of_link {tag : Tag} {content : Forest} (h : IsSelfLink href (.single tag content)) :
    SelfLinked href (.element tag content .nil) := by
  constructor
  · intro node hnode
    rw [List.mem_singleton.mp hnode]
    exact .inr (.inr h)
  · intro _
    exact ⟨_, rfl, h⟩
  · exact List.isChain_singleton _

theorem CutIntoLinks.selfLinked {f : Forest} (h : CutIntoLinks href f) (hinner : f.hasHeading = true) :
    SelfLinked href f := by
  constructor
  · intro node hnode
    exact (h.nodes node hnode).imp_right (Or.imp_left fun hblank => ⟨hblank, hinner⟩)
  · intro hnone
    rw [hinner] at hnone
    cases hnone
  · exact h.apart

theorem selfLinked_linkedContent {tag : Tag} {id : String} (hid : tag.attr? "id" = some id)
    (cs : Forest) : SelfLinked ("#" ++ id) (linkedContent cls tag cs) := by
  rcases linkedContent_cases hid cls cs with
    ⟨a, c, -, hname, -, hc, heq⟩ | ⟨hinner, heq⟩ | ⟨hnone, heq⟩
  · rw [heq]
    apply selfLinked_of_link
    exact isSelfLink_unwrapLinks hname (by rw [Tag.attr?_setAttr, if_pos rfl]) hc
  · rw [heq]
    exact (cutIntoLinks_link rfl cs).selfLinked ((hasHeading_link cls _ cs).trans hinner)
  · rw [heq]
    exact selfLinked_of_link (isSelfLink_unwrapLinks rfl rfl hnone)

/-- **Every heading links to itself**: it has an id, and its content links to that id. -/
def HeadingsSelfLinked (f : Forest) : Prop :=
  ∀ e ∈ f.elements, e.1.isHeading = true →
    ∃ id, e.1.attr? "id" = some id ∧ SelfLinked ("#" ++ id) e.2

theorem headingsSelfLinked_of_hasHeading {f : Forest} (h : f.hasHeading = false) :
    HeadingsSelfLinked f := by
  intro e he hheading
  have hno := (Forest.forall_elements_of_tags ((Forest.hasHeading_eq_false_iff f).mp h) e he).1
  rw [hheading] at hno
  cases hno

namespace HeadingsSelfLinked

theorem element {tag : Tag} {cs rest : Forest}
    (htag : tag.isHeading = true → ∃ id, tag.attr? "id" = some id ∧ SelfLinked ("#" ++ id) cs)
    (hcs : HeadingsSelfLinked cs) (hrest : HeadingsSelfLinked rest) :
    HeadingsSelfLinked (.element tag cs rest) := by
  unfold HeadingsSelfLinked
  rw [Forest.elements_element, List.forall_mem_cons, List.forall_mem_append]
  exact ⟨htag, hcs, hrest⟩

theorem close {s : Surroundings} {rest : Forest} (hs : s.held.hasHeading = false)
    (hrest : HeadingsSelfLinked rest) : HeadingsSelfLinked (s.close cls rest) := by
  cases s with
  | plain => exact hrest
  | heading href run =>
    have hrun : run.hasHeading = false := hs
    show HeadingsSelfLinked (ArticleMarkup.linkRun cls href run rest)
    unfold ArticleMarkup.linkRun
    split
    · unfold HeadingsSelfLinked
      rw [Forest.elements_append, List.forall_mem_append]
      exact ⟨headingsSelfLinked_of_hasHeading hrun, hrest⟩
    · refine .element ?_ ?_ hrest
      · intro hheading
        cases hheading
      · apply headingsSelfLinked_of_hasHeading
        rw [Forest.hasHeading_unwrapLinks, hrun]

end HeadingsSelfLinked

/-- The headings in a heading link to themselves if they do once its content is cut. -/
theorem headingsSelfLinked_linkedContent {tag : Tag} {id : String} (hid : tag.attr? "id" = some id)
    {cs : Forest} (hcut : HeadingsSelfLinked (link cls (.heading ("#" ++ id) .nil) cs)) :
    HeadingsSelfLinked (linkedContent cls tag cs) := by
  by_cases hinner : cs.hasHeading = true
  · rcases linkedContent_cases hid cls cs with ⟨a, c, rfl, hname, -, hc, -⟩ | ⟨-, heq⟩ | ⟨hnone, -⟩
    · rw [Forest.hasHeading_element, Tag.isHeading_of_name_eq_a hname, hc] at hinner
      cases hinner
    · rw [heq]
      exact hcut
    · rw [hnone] at hinner
      cases hinner
  · apply headingsSelfLinked_of_hasHeading
    rw [hasHeading_linkedContent]
    exact Bool.eq_false_iff.mpr hinner

/-- The pass over a forest whose headings have ids. -/
theorem headingsSelfLinked_link {s : Surroundings} {f : Forest} (hs : s.held.hasHeading = false)
    (hids : f.HeadingsHaveIds) : HeadingsSelfLinked (link cls s f) := by
  induction f generalizing s with
  | nil =>
    rw [link_nil]
    exact .close hs (headingsSelfLinked_of_hasHeading rfl)
  | text t rest ih =>
    cases s with
    | plain => exact ih rfl hids
    | heading href run => exact ih (Forest.hasHeading_append_ofText hs t) hids
  | element tag cs rest ihcs ihrest =>
    obtain ⟨htag, hidscs, hidsrest⟩ := (Forest.headingsHaveIds_element tag cs rest).mp hids
    rcases link_element_cases cls s tag cs rest with ⟨-, heq⟩ | ⟨href, run, rfl, hno, hnone, heq⟩
    · have hafter : HeadingsSelfLinked (link cls s.cleared rest) := by
        apply ihrest _ hidsrest
        rw [Surroundings.held_cleared]
        rfl
      rw [heq, linkedChildren]
      apply HeadingsSelfLinked.close hs
      by_cases hh : tag.isHeading = true
      · obtain ⟨id, hid⟩ := htag hh
        rw [if_pos hh]
        refine .element (fun _ => ⟨id, hid, selfLinked_linkedContent hid cs⟩) ?_ hafter
        exact headingsSelfLinked_linkedContent hid (ihcs rfl hidscs)
      · rw [if_neg hh]
        exact .element (fun h => absurd h hh) (ihcs rfl hidscs) hafter
    · rw [heq]
      exact ihrest (Forest.hasHeading_append_single hs hno hnone) hidsrest

/-- **Every heading of a linked document links to itself**, whatever the document. -/
theorem headingsSelfLinked_linkHeadings (cls : String) (document : Forest) :
    HeadingsSelfLinked (linkHeadings cls (assignHeadingIds document)) := by
  have hids := headingsHaveIds_assignHeadingIds document
  exact headingsSelfLinked_link (s := .plain) rfl hids

/-- An inner heading cuts the content of the outer one into two links. -/
example : linkHeadings "self" (assignHeadingIds (.single ⟨"h2", []⟩ (.text "Outer "
    (.element ⟨"div", []⟩ (.single ⟨"h3", []⟩ (.ofText "Inner")) (.ofText " tail"))))) =
    .single ⟨"h2", [⟨"id", "outer-inner-tail"⟩]⟩
      (.element ⟨"a", [⟨"class", "self"⟩, ⟨"href", "#outer-inner-tail"⟩]⟩ (.ofText "Outer ")
        (.element ⟨"div", []⟩ (.single ⟨"h3", [⟨"id", "inner"⟩]⟩
            (.single ⟨"a", [⟨"class", "self"⟩, ⟨"href", "#inner"⟩]⟩ (.ofText "Inner")))
          (.single ⟨"a", [⟨"class", "self"⟩, ⟨"href", "#outer-inner-tail"⟩]⟩ (.ofText " tail")))) := by
  decide

end ArticleMarkup
