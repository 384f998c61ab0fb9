import ArticleMarkup.Heading.SelfLink
import ArticleMarkup.Proofs.Attributes
import ArticleMarkup.Proofs.Forest.Texts
import ArticleMarkup.Proofs.Heading.Contents

/-!
# What self-links keep

Putting self-links into a document is undone by unwrapping all links. So it keeps the text, all headings
with their ids and texts, and every other element. It adds links without ids, and removes elements only
where they are links.

## Main definitions

- `Surroundings.held` — the content that has been passed and not been written yet
- `linkedContent` — the content of a heading once it is linked
- `OnlyLinksDiffer` — what is the same in two documents that differ in links only
- `Relinked` — tags that differ in links only

## Main statements

- `linkedContent_cases`, `link_element_cases` — what becomes of a heading's content and of an element
- `unwrapLinks_link` — linking is undone by unwrapping
- `onlyLinksDiffer_linkHeadings` — texts, headings, other elements and contents of a linked document
- `relinked_linkHeadings` — the tags differ in links only
- `ids_linkHeadings_sublist` — no id is added
-/

namespace ArticleMarkup

/-- A link is not a heading. -/
theorem Tag.isHeading_of_name_eq_a {tag : Tag} (h : tag.name = "a") : tag.isHeading = false := by
  simp [Tag.isHeading, Tag.headingLevel?, h]

namespace Forest

-- ════════════════════════════════════════════════════════════════════════
-- Unwrapping links
-- ════════════════════════════════════════════════════════════════════════

@[simp] theorem unwrapLinks_nil : nil.unwrapLinks = nil := rfl

@[simp] theorem unwrapLinks_text (s : String) (rest : Forest) :
    (text s rest).unwrapLinks = rest.unwrapLinks.consText s := rfl

theorem unwrapLinks_element (tag : Tag) (cs rest : Forest) :
    (element tag cs rest).unwrapLinks =
      if tag.name = "a" then cs.unwrapLinks.glue rest.unwrapLinks
      else element tag cs.unwrapLinks rest.unwrapLinks := rfl

theorem unwrapLinks_element_of_eq {tag : Tag} (h : tag.name = "a") (cs rest : Forest) :
    (element tag cs rest).unwrapLinks = cs.unwrapLinks.glue rest.unwrapLinks :=
  if_pos h

theorem unwrapLinks_element_of_ne {tag : Tag} (h : tag.name ≠ "a") (cs rest : Forest) :
    (element tag cs rest).unwrapLinks = element tag cs.unwrapLinks rest.unwrapLinks :=
  if_neg h

@[simp] theorem textContent_unwrapLinks (f : Forest) :
    f.unwrapLinks.textContent = f.textContent := by
  induction f with
  | nil => rfl
  | text s rest ih => simp [textContent, ih]
  | element tag cs rest ihcs ihrest =>
    by_cases hname : tag.name = "a"
    · simp [unwrapLinks_element_of_eq hname, textContent, ihcs, ihrest]
    · simp [unwrapLinks_element_of_ne hname, textContent, ihcs, ihrest]

@[simp] theorem headings_unwrapLinks (f : Forest) : f.unwrapLinks.headings = f.headings := by
  induction f with
  | nil => rfl
  | text s rest ih => simp [headings, ih]
  | element tag cs rest ihcs ihrest =>
    by_cases hname : tag.name = "a"
    · simp [unwrapLinks_element_of_eq hname, headings, Tag.isHeading_of_name_eq_a hname, ihcs,
        ihrest]
    · simp [unwrapLinks_element_of_ne hname, headings, ihcs, ihrest]

/-- The elements that are left are the ones that are no links. -/
theorem tags_unwrapLinks (f : Forest) :
    f.unwrapLinks.tags = f.tags.filter (fun tag => tag.name ≠ "a") := by
  induction f with
  | nil => rfl
  | text s rest ih => simpa [tags] using ih
  | element tag cs rest ihcs ihrest =>
    by_cases hname : tag.name = "a"
    · simp [unwrapLinks_element_of_eq hname, hname, tags, ihcs, ihrest]
    · simp [unwrapLinks_element_of_ne hname, hname, tags, ihcs, ihrest]

theorem name_ne_of_mem_tags_unwrapLinks {f : Forest} {tag : Tag} (h : tag ∈ f.unwrapLinks.tags) :
    tag.name ≠ "a" := by
  rw [tags_unwrapLinks] at h
  exact of_decide_eq_true (List.mem_filter.mp h).2

theorem unwrapLinks_append (f g : Forest) :
    (f ++ g).unwrapLinks = f.unwrapLinks.glue g.unwrapLinks := by
  induction f with
  | nil => rfl
  | text s rest ih => rw [text_append, unwrapLinks_text, ih, unwrapLinks_text, glue_consText]
  | element tag cs rest _ ih =>
    rw [element_append]
    by_cases hname : tag.name = "a"
    · rw [unwrapLinks_element_of_eq hname, unwrapLinks_element_of_eq hname, ih, glue_assoc]
    · rw [unwrapLinks_element_of_ne hname, unwrapLinks_element_of_ne hname, ih]
      rfl

theorem unwrapLinks_consText (s : String) (f : Forest) :
    (f.consText s).unwrapLinks = f.unwrapLinks.consText s := by
  cases f with
  | nil => rfl
  | text t rest => exact (consText_consText s t rest.unwrapLinks).symm
  | element tag cs rest => rfl

theorem unwrapLinks_glue (f g : Forest) :
    (f.glue g).unwrapLinks = f.unwrapLinks.glue g.unwrapLinks := by
  rcases glue_cases f g with hglue | ⟨front, s, rfl, hglue⟩
  · rw [hglue, unwrapLinks_append]
  · rw [hglue, unwrapLinks_append, unwrapLinks_append, unwrapLinks_consText, glue_assoc]
    rfl

/-- Once links are unwrapped there are none left. -/
theorem unwrapLinks_unwrapLinks (f : Forest) : f.unwrapLinks.unwrapLinks = f.unwrapLinks := by
  induction f with
  | nil => rfl
  | text s rest ih => rw [unwrapLinks_text, unwrapLinks_consText, ih]
  | element tag cs rest ihcs ihrest =>
    by_cases hname : tag.name = "a"
    · rw [unwrapLinks_element_of_eq hname, unwrapLinks_glue, ihcs, ihrest]
    · rw [unwrapLinks_element_of_ne hname, unwrapLinks_element_of_ne hname, ihcs, ihrest]

-- ════════════════════════════════════════════════════════════════════════
-- Headings at any depth
-- ════════════════════════════════════════════════════════════════════════

theorem hasHeading_eq_false_iff (f : Forest) :
    f.hasHeading = false ↔ ∀ tag ∈ f.tags, tag.isHeading = false := by
  unfold hasHeading
  induction f with
  | nil => simp [anyTag, tags]
  | text s rest ih => simpa [anyTag, tags] using ih
  | element tag cs rest ihcs ihrest =>
    simp only [anyTag, Bool.or_eq_false_iff, ihcs, ihrest, tags, List.forall_mem_cons,
      List.forall_mem_append, and_assoc]

@[simp] theorem hasHeading_text (s : String) (rest : Forest) :
    (text s rest).hasHeading = rest.hasHeading := rfl

theorem hasHeading_element (tag : Tag) (cs rest : Forest) :
    (element tag cs rest).hasHeading = (tag.isHeading || cs.hasHeading || rest.hasHeading) := rfl

theorem hasHeading_append (a b : Forest) :
    (a ++ b).hasHeading = (a.hasHeading || b.hasHeading) := by
  induction a with
  | nil => rfl
  | text s rest ih => exact ih
  | element tag cs rest _ ih => simp [hasHeading_element, ih, Bool.or_assoc]

theorem hasHeading_append_ofText {f : Forest} (hf : f.hasHeading = false) (s : String) :
    (f ++ ofText s).hasHeading = false := by
  rw [hasHeading_append, hf]
  rfl

theorem hasHeading_append_single {f : Forest} (hf : f.hasHeading = false) {tag : Tag} {cs : Forest}
    (htag : tag.isHeading = false) (hcs : cs.hasHeading = false) :
    (f ++ single tag cs).hasHeading = false := by
  rw [hasHeading_append, hf, single, hasHeading_element, htag, hcs]
  rfl

theorem hasHeading_unwrapLinks (f : Forest) : f.unwrapLinks.hasHeading = f.hasHeading := by
  have hnone : f.unwrapLinks.hasHeading = false ↔ f.hasHeading = false := by
    rw [hasHeading_eq_false_iff, hasHeading_eq_false_iff, tags_unwrapLinks]
    constructor
    · intro h tag ht
      by_cases hname : tag.name = "a"
      · exact Tag.isHeading_of_name_eq_a hname
      · exact h tag (List.mem_filter.mpr ⟨ht, decide_eq_true hname⟩)
    · intro h tag ht
      exact h tag (List.mem_filter.mp ht).1
  rw [Bool.eq_iff_iff, ← not_iff_not, Bool.not_eq_true, Bool.not_eq_true, hnone]

theorem textContent_of_unwrapLinks {a b : Forest} (h : a.unwrapLinks = b.unwrapLinks) :
    a.textContent = b.textContent := by
  rw [← textContent_unwrapLinks a, h, textContent_unwrapLinks]

theorem headings_of_unwrapLinks {a b : Forest} (h : a.unwrapLinks = b.unwrapLinks) :
    a.headings = b.headings := by
  rw [← headings_unwrapLinks a, h, headings_unwrapLinks]

theorem hasHeading_of_unwrapLinks {a b : Forest} (h : a.unwrapLinks = b.unwrapLinks) :
    a.hasHeading = b.hasHeading := by
  rw [← hasHeading_unwrapLinks a, h, hasHeading_unwrapLinks]

end Forest

-- ════════════════════════════════════════════════════════════════════════
-- The content of a heading
-- ════════════════════════════════════════════════════════════════════════

/-- The content that has been passed and still waits for its link. -/
def Surroundings.held : Surroundings → Forest
  | .plain => .nil
  | .heading _ run => run

/-- The tag of a new self-link. -/
def selfLinkTag (cls id : String) : Tag :=
  ⟨"a", [⟨"class", cls⟩, ⟨"href", "#" ++ id⟩]⟩

/-- The content of a heading once it is linked. -/
def linkedContent (cls : String) (tag : Tag) (cs : Forest) : Forest :=
  match tag.attr? "id" with
  | none => cs
  | some id =>
    if isLinked cls cs then refreshLink ("#" ++ id) cs
    else if cs.hasHeading then link cls (.heading ("#" ++ id) .nil) cs
    else selfLink cls ("#" ++ id) cs .nil

theorem link_plain_nil (cls : String) : link cls .plain .nil = .nil := rfl

theorem link_plain_text (cls s : String) (rest : Forest) :
    link cls .plain (.text s rest) = .text s (link cls .plain rest) := rfl

theorem link_plain_element (cls : String) (tag : Tag) (cs rest : Forest) :
    link cls .plain (.element tag cs rest) =
      .element tag (if tag.isHeading then linkedContent cls tag cs else link cls .plain cs)
        (link cls .plain rest) := rfl

theorem link_heading_text (cls href : String) (run : Forest) (s : String) (rest : Forest) :
    link cls (.heading href run) (.text s rest) =
      link cls (.heading href (run ++ .ofText s)) rest := rfl

theorem link_heading_element (cls href : String) (run : Forest) (tag : Tag) (cs rest : Forest) :
    link cls (.heading href run) (.element tag cs rest) =
      if tag.isHeading then
        linkRun cls href run
          (.element tag (linkedContent cls tag cs) (link cls (.heading href .nil) rest))
      else if cs.hasHeading then
        linkRun cls href run
          (.element tag (link cls .plain cs) (link cls (.heading href .nil) rest))
      else link cls (.heading href (run ++ .single tag cs)) rest := rfl

/-- Without headings there is nothing to link. -/
theorem link_plain_of_hasHeading {f : Forest} (cls : String) (hf : f.hasHeading = false) :
    link cls .plain f = f := by
  induction f with
  | nil => rfl
  | text s rest ih => exact congrArg (Forest.text s) (ih hf)
  | element tag cs rest ihcs ihrest =>
    simp only [Forest.hasHeading_element, Bool.or_eq_false_iff] at hf
    rw [link_plain_element, hf.1.1, ihcs hf.1.2, ihrest hf.2]
    rfl

/-- A linked content is a single link. -/
theorem isLinked_iff {cls : String} {f : Forest} :
    isLinked cls f = true ↔ ∃ tag cs, f = .element tag cs .nil ∧ tag.name = "a" ∧
      tag.hasClass cls = true ∧ cs.hasHeading = false := by
  unfold isLinked
  split
  · next tag cs => simp [and_assoc]
  · next hno =>
    constructor
    · intro h
      cases h
    · rintro ⟨tag, cs, rfl, -⟩
      exact absurd rfl (hno tag cs)

/-- **The content of a heading with an id**: a link that is brought up to date, runs of content around
other headings, or a new link. -/
theorem linkedContent_cases {tag : Tag} {id : String} (hid : tag.attr? "id" = some id) (cls : String)
    (cs : Forest) :
    (∃ a c, cs = .element a c .nil ∧ a.name = "a" ∧ a.hasClass cls = true ∧ c.hasHeading = false ∧
      linkedContent cls tag cs = .element (a.setAttr "href" ("#" ++ id)) c.unwrapLinks .nil) ∨
    (cs.hasHeading = true ∧ linkedContent cls tag cs = link cls (.heading ("#" ++ id) .nil) cs) ∨
    (cs.hasHeading = false ∧
      linkedContent cls tag cs = .element (selfLinkTag cls id) cs.unwrapLinks .nil) := by
  unfold linkedContent
  rw [hid]
  by_cases hlinked : isLinked cls cs = true
  · obtain ⟨a, c, rfl, hname, hclass, hc⟩ := isLinked_iff.mp hlinked
    refine .inl ⟨a, c, rfl, hname, hclass, hc, ?_⟩
    simp only [if_pos hlinked]
    rfl
  · by_cases hinner : cs.hasHeading = true
    · refine .inr (.inl ⟨hinner, ?_⟩)
      simp only [if_neg hlinked, if_pos hinner]
    · refine .inr (.inr ⟨Bool.eq_false_iff.mpr hinner, ?_⟩)
      simp only [if_neg hlinked, if_neg hinner]
      rfl

theorem linkedContent_of_none {tag : Tag} (h : tag.attr? "id" = none) (cls : String) (cs : Forest) :
    linkedContent cls tag cs = cs := by
  unfold linkedContent
  rw [h]

-- ════════════════════════════════════════════════════════════════════════
-- Elements in any surroundings
-- ════════════════════════════════════════════════════════════════════════

/-- The children of an element once they are linked. -/
def linkedChildren (cls : String) (tag : Tag) (cs : Forest) : Forest :=
  if tag.isHeading then linkedContent cls tag cs else link cls .plain cs

/-- The content that waits is linked, in front of some nodes. -/
def Surroundings.close (cls : String) : Surroundings → Forest → Forest
  | .plain, rest => rest
  | .heading href run, rest => linkRun cls href run rest

/-- The surroundings in which no content waits. -/
def Surroundings.cleared : Surroundings → Surroundings
  | .plain => .plain
  | .heading href _ => .heading href .nil

@[simp] theorem Surroundings.held_cleared (s : Surroundings) : s.cleared.held = .nil := by
  cases s <;> rfl

theorem link_nil (cls : String) (s : Surroundings) : link cls s .nil = s.close cls .nil := by
  cases s <;> rfl

/-- **What becomes of an element**: its children are linked and the content in front of it is, unless it
joins that content. -/
theorem link_element_cases (cls : String) (s : Surroundings) (tag : Tag) (cs rest : Forest) :
    ((s = .plain ∨ tag.isHeading = true ∨ cs.hasHeading = true) ∧
        link cls s (.element tag cs rest) =
          s.close cls (.element tag (linkedChildren cls tag cs) (link cls s.cleared rest))) ∨
      ∃ href run, s = .heading href run ∧ tag.isHeading = false ∧ cs.hasHeading = false ∧
        link cls s (.element tag cs rest) = link cls (.heading href (run ++ .single tag cs)) rest := by
  unfold linkedChildren
  cases s with
  | plain => exact .inl ⟨.inl rfl, link_plain_element cls tag cs rest⟩
  | heading href run =>
    rw [link_heading_element]
    by_cases htag : tag.isHeading = true
    · rw [if_pos htag, if_pos htag]
      exact .inl ⟨.inr (.inl htag), rfl⟩
    · rw [if_neg htag, if_neg htag]
      by_cases hinner : cs.hasHeading = true
      · rw [if_pos hinner]
        exact .inl ⟨.inr (.inr hinner), rfl⟩
      · rw [if_neg hinner]
        exact .inr ⟨href, run, rfl, Bool.eq_false_iff.mpr htag, Bool.eq_false_iff.mpr hinner, rfl⟩

-- ════════════════════════════════════════════════════════════════════════
-- Linked documents without their links
-- ════════════════════════════════════════════════════════════════════════

theorem unwrapLinks_selfLink (cls href : String) (content rest : Forest) :
    (selfLink cls href content rest).unwrapLinks = (content ++ rest).unwrapLinks := by
  rw [selfLink, Forest.unwrapLinks_element_of_eq rfl, Forest.unwrapLinks_unwrapLinks,
    Forest.unwrapLinks_append]

theorem unwrapLinks_close (cls : String) (s : Surroundings) (rest : Forest) :
    (s.close cls rest).unwrapLinks = (s.held ++ rest).unwrapLinks := by
  cases s with
  | plain => rfl
  | heading href run =>
    show (linkRun cls href run rest).unwrapLinks = (run ++ rest).unwrapLinks
    unfold linkRun
    split
    · rfl
    · exact unwrapLinks_selfLink cls href run rest

theorem unwrapLinks_linkedContent {cls : String} {cs : Forest}
    (hcut : ∀ href, (link cls (.heading href .nil) cs).unwrapLinks = cs.unwrapLinks) (tag : Tag) :
    (linkedContent cls tag cs).unwrapLinks = cs.unwrapLinks := by
  cases hid : tag.attr? "id" with
  | none => rw [linkedContent_of_none hid]
  | some id =>
    rcases linkedContent_cases hid cls cs with
      ⟨a, c, rfl, hname, -, -, heq⟩ | ⟨-, heq⟩ | ⟨-, heq⟩
    · have hname' : (a.setAttr "href" ("#" ++ id)).name = "a" := hname
      rw [heq, Forest.unwrapLinks_element_of_eq hname', Forest.unwrapLinks_element_of_eq hname,
        Forest.unwrapLinks_unwrapLinks]
    · rw [heq, hcut]
    · rw [heq, Forest.unwrapLinks_element_of_eq rfl, Forest.unwrapLinks_unwrapLinks]
      exact Forest.glue_nil _

/-- **Linking is undone by unwrapping**, in the content that waits as well. -/
theorem unwrapLinks_link (cls : String) (s : Surroundings) (f : Forest) :
    (link cls s f).unwrapLinks = (s.held ++ f).unwrapLinks := by
  induction f generalizing s with
  | nil => rw [link_nil, unwrapLinks_close]
  | text t rest ih =>
    cases s with
    | plain => exact congrArg (Forest.consText t) (ih .plain)
    | heading href run =>
      rw [link_heading_text, ih]
      show (run ++ .ofText t ++ rest).unwrapLinks = (run ++ .text t rest).unwrapLinks
      rw [Forest.append_assoc]
      rfl
  | element tag cs rest ihcs ihrest =>
    have hchildren : (linkedChildren cls tag cs).unwrapLinks = cs.unwrapLinks := by
      unfold linkedChildren
      split
      · exact unwrapLinks_linkedContent (fun href => ihcs (.heading href .nil)) tag
      · exact ihcs .plain
    rcases link_element_cases cls s tag cs rest with ⟨-, heq⟩ | ⟨href, run, rfl, -, -, heq⟩
    · have hafter : (link cls s.cleared rest).unwrapLinks = rest.unwrapLinks := by
        rw [ihrest, Surroundings.held_cleared]
        rfl
      rw [heq, unwrapLinks_close, Forest.unwrapLinks_append, Forest.unwrapLinks_append]
      simp only [Forest.unwrapLinks_element, hchildren, hafter]
    · rw [heq, ihrest]
      show (run ++ .single tag cs ++ rest).unwrapLinks = (run ++ .element tag cs rest).unwrapLinks
      rw [Forest.append_assoc]
      rfl

-- ════════════════════════════════════════════════════════════════════════
-- Headings and texts
-- ════════════════════════════════════════════════════════════════════════

/-- **Linking keeps texts.** -/
theorem textContent_link (cls : String) (s : Surroundings) (f : Forest) :
    (link cls s f).textContent = (s.held ++ f).textContent :=
  Forest.textContent_of_unwrapLinks (unwrapLinks_link cls s f)

/-- **Linking keeps headings**, with their texts. -/
theorem headings_link (cls : String) (s : Surroundings) (f : Forest) :
    (link cls s f).headings = (s.held ++ f).headings :=
  Forest.headings_of_unwrapLinks (unwrapLinks_link cls s f)

theorem hasHeading_link (cls : String) (s : Surroundings) (f : Forest) :
    (link cls s f).hasHeading = (s.held ++ f).hasHeading :=
  Forest.hasHeading_of_unwrapLinks (unwrapLinks_link cls s f)

theorem hasHeading_linkedContent (cls : String) (tag : Tag) (cs : Forest) :
    (linkedContent cls tag cs).hasHeading = cs.hasHeading :=
  Forest.hasHeading_of_unwrapLinks
    (unwrapLinks_linkedContent (fun href => unwrapLinks_link cls (.heading href .nil) cs) tag)

theorem hasHeading_linkedChildren (cls : String) (tag : Tag) (cs : Forest) :
    (linkedChildren cls tag cs).hasHeading = cs.hasHeading := by
  unfold linkedChildren
  split
  · exact hasHeading_linkedContent cls tag cs
  · exact hasHeading_link cls .plain cs

/-- The headings of a linked document are those of the document, with the same texts. -/
@[simp] theorem headings_linkHeadings (cls : String) (document : Forest) :
    (linkHeadings cls document).headings = document.headings :=
  headings_link cls .plain document

/-- **A document with other links**, against the document before: nothing that a reader sees or a table
of contents lists is changed. -/
structure OnlyLinksDiffer (f f' : Forest) : Prop where
  /-- The text is the same. -/
  text : f'.textContent = f.textContent
  /-- The headings are the same, in order, with their tags and texts. -/
  headings : f'.headings = f.headings
  /-- The other elements are the same, in order, with their attributes. -/
  others : f'.tags.filter (fun tag => tag.name ≠ "a") = f.tags.filter (fun tag => tag.name ≠ "a")
  /-- They are nested in the same way, and stand between the same texts. -/
  unwrapped : f'.unwrapLinks = f.unwrapLinks
  /-- The same headings are listed, whatever levels are. -/
  contents : ∀ levels, collectHeadings levels f' = collectHeadings levels f

/-- **Self-links are not seen**, neither by readers nor by tables of contents. -/
theorem onlyLinksDiffer_linkHeadings (cls : String) (document : Forest) :
    OnlyLinksDiffer document (linkHeadings cls document) := by
  have hunwrapped : (linkHeadings cls document).unwrapLinks = document.unwrapLinks :=
    unwrapLinks_link cls .plain document
  constructor
  case text => exact Forest.textContent_of_unwrapLinks hunwrapped
  case headings => exact Forest.headings_of_unwrapLinks hunwrapped
  case others => rw [← Forest.tags_unwrapLinks, hunwrapped, Forest.tags_unwrapLinks]
  case unwrapped => exact hunwrapped
  case contents =>
    intro levels
    rw [collectHeadings_eq, collectHeadings_eq, Forest.headings_of_unwrapLinks hunwrapped]

-- ════════════════════════════════════════════════════════════════════════
-- Tags
-- ════════════════════════════════════════════════════════════════════════

/-- **Relinked tags**: links may be gone, may be new, and may have got the address of an id; all
other tags are the same, in the same order. -/
inductive Relinked (cls : String) : List Tag → List Tag → Prop where
  /-- No tag at all. -/
  | nil : Relinked cls [] []
  /-- A tag that stays. -/
  | keep (tag : Tag) {after before : List Tag} : Relinked cls after before →
      Relinked cls (tag :: after) (tag :: before)
  /-- A link that is unwrapped. -/
  | unwrap {tag : Tag} {after before : List Tag} : tag.name = "a" → Relinked cls after before →
      Relinked cls after (tag :: before)
  /-- A link that is brought up to date. -/
  | refresh {tag : Tag} (id : String) {after before : List Tag} : tag.name = "a" →
      Relinked cls after before →
      Relinked cls (tag.setAttr "href" ("#" ++ id) :: after) (tag :: before)
  /-- A link that is added. -/
  | add (id : String) {after before : List Tag} : Relinked cls after before →
      Relinked cls (selfLinkTag cls id :: after) before

namespace Relinked

variable {cls : String} {a b c d : List Tag}

theorem refl (cls : String) (tags : List Tag) : Relinked cls tags tags := by
  induction tags with
  | nil => exact .nil
  | cons tag rest ih => exact .keep tag ih

theorem append (h : Relinked cls a b) (h' : Relinked cls c d) : Relinked cls (a ++ c) (b ++ d) := by
  induction h with
  | nil => exact h'
  | keep tag _ ih => exact .keep tag ih
  | unwrap hname _ ih => exact .unwrap hname ih
  | refresh id hname _ ih => exact .refresh id hname ih
  | add id _ ih => exact .add id ih

/-- A property of tags survives if new links have it and it survives a new address. -/
theorem of_mem {P : Tag → Prop} (h : Relinked cls a b) (hadd : ∀ id, P (selfLinkTag cls id))
    (hset : ∀ tag id, tag.name = "a" → P tag → P (tag.setAttr "href" ("#" ++ id)))
    (hb : ∀ tag ∈ b, P tag) : ∀ tag ∈ a, P tag := by
  induction h with
  | nil => exact hb
  | keep tag _ ih =>
    rw [List.forall_mem_cons] at hb ⊢
    exact ⟨hb.1, ih hb.2⟩
  | unwrap _ _ ih => exact ih (List.forall_mem_cons.mp hb).2
  | refresh id hname _ ih =>
    rw [List.forall_mem_cons] at hb ⊢
    exact ⟨hset _ id hname hb.1, ih hb.2⟩
  | add id _ ih =>
    rw [List.forall_mem_cons]
    exact ⟨hadd id, ih hb⟩

/-- Links get no ids. -/
theorem ids_sublist (h : Relinked cls a b) :
    (a.filterMap (·.attr? "id")).Sublist (b.filterMap (·.attr? "id")) := by
  induction h with
  | nil => exact List.Sublist.slnil
  | @keep tag after before _ ih =>
    simp only [List.filterMap_cons]
    split
    · exact ih
    · exact ih.cons_cons _
  | @unwrap tag after before _ _ ih =>
    exact ih.trans ((List.sublist_cons_self tag before).filterMap _)
  | @refresh tag id after before _ _ ih =>
    have hid : (tag.setAttr "href" ("#" ++ id)).attr? "id" = tag.attr? "id" := by
      rw [Tag.attr?_setAttr, if_neg (by decide)]
    simp only [List.filterMap_cons, hid]
    split
    · exact ih
    · exact ih.cons_cons _
  | @add id after before _ ih =>
    have hid : (selfLinkTag cls id).attr? "id" = none := by simp [selfLinkTag, Tag.attr?]
    simp only [List.filterMap_cons, hid]
    exact ih

end Relinked

theorem relinked_unwrapLinks (cls : String) (f : Forest) :
    Relinked cls f.unwrapLinks.tags f.tags := by
  induction f with
  | nil => exact .nil
  | text s rest ih => simpa [Forest.tags] using ih
  | element tag cs rest ihcs ihrest =>
    by_cases hname : tag.name = "a"
    · rw [Forest.unwrapLinks_element_of_eq hname, Forest.tags_glue]
      exact .unwrap hname (ihcs.append ihrest)
    · rw [Forest.unwrapLinks_element_of_ne hname]
      exact .keep tag (ihcs.append ihrest)

/-- The addresses of surrounding headings are addresses of ids. -/
def Surroundings.Anchored (s : Surroundings) : Prop :=
  ∀ href run, s = .heading href run → ∃ id, href = "#" ++ id

theorem Surroundings.anchored_plain : Surroundings.plain.Anchored := by
  rintro _ _ ⟨⟩

theorem Surroundings.anchored_heading (id : String) (run : Forest) :
    (Surroundings.heading ("#" ++ id) run).Anchored := by
  rintro _ _ ⟨⟩
  exact ⟨id, rfl⟩

theorem relinked_close {cls : String} {s : Surroundings} (hs : s.Anchored) {rest : Forest}
    {before : List Tag} (h : Relinked cls rest.tags before) :
    Relinked cls (s.close cls rest).tags (s.held.tags ++ before) := by
  cases s with
  | plain => exact h
  | heading href run =>
    obtain ⟨id, rfl⟩ := hs href run rfl
    show Relinked cls (linkRun cls ("#" ++ id) run rest).tags (run.tags ++ before)
    unfold linkRun
    split
    · rw [Forest.tags_append]
      exact (Relinked.refl cls run.tags).append h
    · exact .add id ((relinked_unwrapLinks cls run).append h)

theorem relinked_linkedContent {cls : String} {cs : Forest}
    (hcut : ∀ id, Relinked cls (link cls (.heading ("#" ++ id) .nil) cs).tags cs.tags) (tag : Tag) :
    Relinked cls (linkedContent cls tag cs).tags cs.tags := by
  cases hid : tag.attr? "id" with
  | none =>
    rw [linkedContent_of_none hid]
    exact .refl cls _
  | some id =>
    rcases linkedContent_cases hid cls cs with
      ⟨a, c, rfl, hname, -, -, heq⟩ | ⟨-, heq⟩ | ⟨-, heq⟩
    · rw [heq]
      exact .refresh id hname ((relinked_unwrapLinks cls c).append .nil)
    · rw [heq]
      exact hcut id
    · rw [heq]
      have hunwrapped := (relinked_unwrapLinks cls cs).append .nil
      rw [List.append_nil cs.tags] at hunwrapped
      exact .add id hunwrapped

/-- **Linking changes links only**, in the content that waits as well. -/
theorem relinked_link (cls : String) {s : Surroundings} (hs : s.Anchored) (f : Forest) :
    Relinked cls (link cls s f).tags (s.held ++ f).tags := by
  induction f generalizing s with
  | nil =>
    rw [link_nil, Forest.tags_append]
    exact relinked_close hs .nil
  | text t rest ih =>
    cases s with
    | plain => exact ih hs
    | heading href run =>
      obtain ⟨id, rfl⟩ := hs href run rfl
      have h := ih (Surroundings.anchored_heading id (run ++ .ofText t))
      simpa [Surroundings.held, link_heading_text, Forest.ofText, Forest.tags, Forest.append_assoc]
        using h
  | element tag cs rest ihcs ihrest =>
    have hchildren : Relinked cls (linkedChildren cls tag cs).tags cs.tags := by
      unfold linkedChildren
      split
      · exact relinked_linkedContent (fun id => ihcs (Surroundings.anchored_heading id .nil)) tag
      · exact ihcs Surroundings.anchored_plain
    rcases link_element_cases cls s tag cs rest with ⟨-, heq⟩ | ⟨href, run, rfl, -, -, heq⟩
    · have hcleared : s.cleared.Anchored := by
        cases s with
        | plain => exact Surroundings.anchored_plain
        | heading href run =>
          obtain ⟨id, rfl⟩ := hs href run rfl
          exact Surroundings.anchored_heading id .nil
      have hafter := ihrest hcleared
      rw [Surroundings.held_cleared] at hafter
      rw [heq, Forest.tags_append]
      exact relinked_close hs (.keep tag (hchildren.append hafter))
    · obtain ⟨id, rfl⟩ := hs href run rfl
      have h := ihrest (Surroundings.anchored_heading id (run ++ .single tag cs))
      rw [heq]
      simpa [Surroundings.held, Forest.single, Forest.append_assoc] using h

/-- A linked document has the tags of the document, up to links. -/
theorem relinked_linkHeadings (cls : String) (document : Forest) :
    Relinked cls (linkHeadings cls document).tags document.tags :=
  relinked_link cls Surroundings.anchored_plain document

theorem ids_linkHeadings_sublist (cls : String) (document : Forest) :
    (linkHeadings cls document).ids.Sublist document.ids :=
  (relinked_linkHeadings cls document).ids_sublist

end ArticleMarkup
