import ArticleMarkup.Proofs.Heading.Relinking
import ArticleMarkup.Proofs.Render.Contents
import ArticleMarkup.Proofs.Sanitize.Settled

/-!
# All passes again

What the passes over a tree do to their own result. Under the base schema the sanitizer finds nothing to
remove and the headings keep their ids, so that only the self-links can change; and they do not, unless
highlighting has hidden a heading in the content of another.

## Main definitions

- `Renderer.passes` — what the passes make of a document

## Main statements

- `Schema.alike_sanitize` — the sanitizer changes the spans of code blocks at most
- `assignHeadingIds_finish` — headings keep their ids
- `Renderer.headings_again` — the passes over headings are done once and for all
- `Renderer.passes_again` — when all passes together are a fixed point
-/

namespace ArticleMarkup

open Highlight

-- ════════════════════════════════════════════════════════════════════════
-- Sanitizing a highlighted document
-- ════════════════════════════════════════════════════════════════════════

namespace Schema

variable {schema : Schema}

/-- An allowed element stays. -/
theorem clean_element_of_settled {tag : Tag} (h : schema.Settled tag) (cs rest : Forest) :
    schema.clean (.element tag cs rest) = .element tag (schema.clean cs) (schema.clean rest) := by
  rw [clean, h.kept, if_neg Bool.false_ne_true, h.allowed, if_pos rfl, h.cleanTag_eq]

/-- A forest of settled elements stays. -/
theorem clean_eq_self {f : Forest} (hapart : f.textsApart = true)
    (hf : ∀ tag ∈ f.tags, schema.Settled tag) : schema.clean f = f := by
  rw [clean_eq_retag hapart fun tag ht => ⟨(hf tag ht).kept, (hf tag ht).allowed⟩]
  exact (Forest.retag_eq_self_iff _ f).mpr fun tag ht => (hf tag ht).cleanTag_eq

/-- Where all elements are allowed the text stays. -/
theorem textContent_clean {f : Forest}
    (hf : ∀ tag ∈ f.tags, isDroppedTag tag.name = false ∧ schema.allowsTag tag.name = true) :
    (schema.clean f).textContent = f.textContent := by
  induction f with
  | nil => rfl
  | text s rest ih => rw [clean, Forest.textContent_consText, ih hf]; rfl
  | element tag cs rest ihcs ihrest =>
    simp only [Forest.tags, List.forall_mem_cons, List.forall_mem_append] at hf
    rw [clean, hf.1.1, if_neg Bool.false_ne_true, hf.1.2, if_pos rfl, Forest.textContent,
      ihcs hf.2.1, ihrest hf.2.2]
    rfl

/-- An attribute of a cleaned tag has the name of one before, or is forced. -/
theorem name_of_mem_attrs_cleanTag {tag : Tag} {a : Attribute}
    (ha : a ∈ (schema.cleanTag tag).attrs) :
    (∃ b ∈ tag.attrs, b.name = a.name) ∨ (a.name, a.value) ∈ schema.required tag.name := by
  rcases mem_forceAll ha with ha | ha
  · obtain ⟨b, hb, hab⟩ := List.mem_filterMap.mp ha
    exact .inl ⟨b, hb, (name_of_cleanAttribute hab).symm⟩
  · exact .inr ha

/-- The base schema keeps spans, and what they hold. -/
theorem clean_spans {stem source : String} {t : Tokenizer} {spans : Forest}
    (ht : t.spans stem source = .ok spans) :
    OnlySpans (base.clean spans) ∧ (base.clean spans).textContent = spans.textContent := by
  have hallowed : base.allowsTag "span" = true := rules_base.2.2.2.1 _ (by decide)
  have hdropped : isDroppedTag "span" = false := by decide
  constructor
  · intro tag htag
    obtain ⟨u, hu, -, -, heq⟩ := tag_of_mem_tags_clean htag
    obtain ⟨scope, rfl⟩ := t.mem_tags_spans ht hu
    rw [heq]
    refine ⟨by rw [name_cleanTag]; rfl, ?_⟩
    -- a span has a class list and nothing else, and nothing is forced on it
    have hnames : ∀ a ∈ (base.cleanTag (spanTag stem scope)).attrs, a.name = "class" := by
      intro a ha
      rcases name_of_mem_attrs_cleanTag ha with ⟨b, hb, hname⟩ | hforced
      · rw [← hname, List.mem_singleton.mp hb]
      · have hno : (spanTag stem scope).name ≠ "input" := (by decide : "span" ≠ "input")
        rw [required_base, if_neg hno] at hforced
        cases hforced
    rw [Tag.attr?, List.find?_eq_none.mpr, Option.map_none]
    intro a ha hid
    exact absurd ((hnames a ha).symm.trans (of_decide_eq_true hid)) (by decide)
  · refine textContent_clean fun tag htag => ?_
    obtain ⟨scope, rfl⟩ := t.mem_tags_spans ht htag
    exact ⟨hdropped, hallowed⟩

/-- **Cleaning a highlighted document** of settled elements changes spans of code blocks at most. -/
theorem alike_clean_highlight (h : Highlighter) {f : Forest} (hapart : f.textsApart = true)
    (hf : ∀ tag ∈ f.tags, base.Settled tag) :
    h.Alike (base.clean (h.highlight f)) (h.highlight f) := by
  induction f with
  | nil => exact .nil
  | text s rest ih =>
    simp only [Forest.textsApart, Bool.and_eq_true, Bool.not_eq_true'] at hapart
    have hstart : (h.highlight rest).startsWithText = false := by
      rw [h.startsWithText_highlight, hapart.1]
    have halike := (ih hapart.2 hf).consText s
    rwa [Forest.consText_eq hstart] at halike
  | element tag cs rest ihcs ihrest =>
    simp only [Forest.textsApart, Bool.and_eq_true] at hapart
    simp only [Forest.tags, List.forall_mem_cons, List.forall_mem_append] at hf
    obtain ⟨htag, hcs, hrest⟩ := hf
    have hafter := ihrest hapart.2 hrest
    by_cases hpre : tag.name = "pre"
    · rcases h.highlight_pre hpre cs rest with
        ⟨code, content, spans, rfl, hcode, hspans, ⟨t, ht⟩, heq⟩ | heq
      · have hsettled := htag.addClass_pre hpre isWord_blockClass
        have hcodetag : base.Settled code := hcs code (by simp [Forest.tags])
        obtain ⟨honly, htext⟩ := clean_spans ht
        have hspans' : h.spans? code (base.clean spans) = some (.ok spans) := by
          rw [← hspans]
          exact h.spans?_congr code (htext.trans (t.textContent_spans ht))
        rw [heq, clean_element_of_settled hsettled, clean_element_of_settled hcodetag]
        exact .block (by simpa using hpre) hcode hspans' honly (onlySpans_of_spans ht) htext hafter
      · have hsame : base.clean cs = cs := clean_eq_self hapart.1 hcs
        rw [heq, clean_element_of_settled htag, hsame]
        exact .element (fun _ => rfl) (.refl h cs) hafter
    · rw [h.highlight_element_of_ne hpre, clean_element_of_settled htag]
      exact .element (fun hname => absurd hname hpre) (ihcs hapart.1 hcs) hafter

/-- **Sanitizing a highlighted document** of settled elements with trimmed edges. -/
theorem alike_sanitize (h : Highlighter) {f : Forest} (hapart : f.textsApart = true)
    (hf : ∀ tag ∈ f.tags, base.Settled tag) (htrim : f.trimEdges = f) :
    h.Alike (sanitize base (h.highlight f)) (h.highlight f) := by
  have halike := alike_clean_highlight h hapart hf
  have houtline : (base.clean (h.highlight f)).outline = f.outline :=
    halike.outline_eq.trans (h.outline_highlight f)
  have hclean : (base.clean (h.highlight f)).trimEdges = base.clean (h.highlight f) := by
    rw [Forest.trimEdges_eq_self_iff, houtline, ← Forest.trimEdges_eq_self_iff, htrim]
  rw [sanitize, hclean]
  exact halike

end Schema

-- ════════════════════════════════════════════════════════════════════════
-- Ids of a finished document
-- ════════════════════════════════════════════════════════════════════════

theorem Forest.headingIds_eq (f : Forest) :
    f.headingIds = f.headings.filterMap fun e => e.1.attr? "id" := by
  induction f with
  | nil => rfl
  | text s rest ih => exact ih
  | element tag cs rest ihcs ihrest =>
    rw [Forest.headingIds_element, Forest.headings, List.filterMap_append, List.filterMap_append,
      ihcs, ihrest]
    cases tag.isHeading with
    | true => cases hid : tag.attr? "id" <;> simp [hid]
    | false => rfl

theorem not_carries_of_attr? {tag : Tag} (h : tag.attr? "id" = none) (id : String) :
    ¬tag.Carries id := by
  rintro ⟨-, value, hvalue, -⟩
  rw [h] at hvalue
  cases hvalue

theorem carries_congr {tag tag' : Tag} (h : tag'.attr? "id" = tag.attr? "id") (id : String) :
    tag'.Carries id ↔ tag.Carries id := by
  unfold Tag.Carries
  rw [h]

namespace Renderer

variable {r : Renderer}

/-- A property of tags survives self-links and highlighting if it survives what they write. -/
theorem of_mem_tags_finish {P : Tag → Prop} {tree : Forest}
    (hlink : ∀ id, P (selfLinkTag r.config.anchorClass id))
    (href : ∀ tag id, tag.name = "a" → P tag → P (tag.setAttr "href" ("#" ++ id)))
    (hspan : ∀ scope, P (spanTag r.highlighter.stem scope))
    (hclass : ∀ tag, tag.name = "pre" → P tag → P (tag.addClass blockClass))
    (hf : ∀ tag ∈ (assignHeadingIds tree).tags, P tag) : ∀ tag ∈ (r.finish tree).1.tags, P tag := by
  refine r.highlighter.of_mem_tags_highlight hspan hclass ?_
  change ∀ tag ∈ (r.headings tree).1.tags, P tag
  unfold headings
  simp only
  split
  · exact (relinked_linkHeadings _ _).of_mem hlink href hf
  · exact hf

theorem headingIds_finish_sublist (tree : Forest) :
    (r.finish tree).1.headingIds.Sublist (assignHeadingIds tree).headingIds := by
  rw [Forest.headingIds_eq, Forest.headingIds_eq, ← headings_headings r tree]
  exact (r.highlighter.headings_highlight_sublist _).filterMap _

/-- **Headings keep their ids.** -/
theorem assignHeadingIds_finish (tree : Forest) :
    assignHeadingIds (r.finish tree).1 = (r.finish tree).1 := by
  have hassigned := assigned_assignIds (reserveIds {} tree) tree
  have hsub := r.headingIds_finish_sublist tree
  refine assignHeadingIds_eq_self ?_ ?_ (hassigned.nodup.sublist hsub)
  · refine of_mem_tags_finish ?_ ?_ ?_ ?_ fun tag ht hh => ?_
    · intro id hh
      cases hh
    · intro tag id hname _ hh
      rw [Tag.isHeading_setAttr, Tag.isHeading_of_name_eq_a hname] at hh
      cases hh
    · intro scope hh
      cases hh
    · intro tag hpre _ hh
      rw [Highlighter.isHeading_of_name (.inl (by simpa using hpre))] at hh
      cases hh
    · obtain ⟨id, hid, htrim⟩ := hassigned.labelled tag ht hh
      exact ⟨id, ownId?_of_isTrimmed hid htrim, hid⟩
  · intro tag ht hh id hid
    have hother : ∀ tag ∈ (r.finish tree).1.tags, tag.isHeading = false →
        ∀ id ∈ (assignHeadingIds tree).headingIds, ¬tag.Carries id := by
      refine of_mem_tags_finish ?_ ?_ ?_ ?_ fun tag ht hh id hid =>
        not_carries_of_mem_headingIds ht hh hid
      · intro other _ id _
        exact not_carries_of_attr? (by simp [selfLinkTag, Tag.attr?]) id
      · intro tag other hname hp hh id hid
        have hsame : (tag.setAttr "href" ("#" ++ other)).attr? "id" = tag.attr? "id" := by
          rw [Tag.attr?_setAttr, if_neg (by decide)]
        rw [carries_congr hsame]
        exact hp (by simpa using hh) id hid
      · intro scope _ id _
        exact not_carries_of_attr? rfl id
      · intro tag hpre hp _ id hid
        rw [carries_congr (Tag.attr?_addClass blockClass (by decide))]
        exact hp (Highlighter.isHeading_of_name (.inl hpre)) id hid
    exact hother tag ht hh id (hsub.subset hid)

-- ════════════════════════════════════════════════════════════════════════
-- The passes over headings
-- ════════════════════════════════════════════════════════════════════════

theorem assignHeadingIds_headings (r : Renderer) (tree : Forest) :
    assignHeadingIds (r.headings tree).1 = (r.headings tree).1 := by
  -- a highlighter that knows no language shows the document as highlighting finds it
  have hfinish : ((Renderer.mk r.schema r.config Highlighter.blind).finish tree).1 =
      (r.headings tree).1 := (Highlighter.blind_spec _).1
  rw [← hfinish]
  exact assignHeadingIds_finish tree

/-- **The passes over headings are done once and for all**: giving ids, recording and linking again, under
any configuration, gives the same document and the same records. -/
theorem headings_again (r : Renderer) (document : Forest) :
    r.headings (r.headings document).1 = r.headings document := by
  have hids := r.assignHeadingIds_headings document
  have hrecords := r.snd_headings document
  have hlinks : (if r.config.linksHeadings then
      linkHeadings r.config.anchorClass (r.headings document).1 else (r.headings document).1) =
      (r.headings document).1 := by
    unfold headings
    simp only
    split
    · exact linkHeadings_linkHeadings _ _
    · rfl
  apply Prod.ext
  · show (if r.config.linksHeadings then
      linkHeadings r.config.anchorClass (assignHeadingIds (r.headings document).1)
      else assignHeadingIds (r.headings document).1) = _
    rw [hids, hlinks]
  · show collectHeadings r.config.tocLevels (assignHeadingIds (r.headings document).1) = _
    rw [hids, hrecords]

-- ════════════════════════════════════════════════════════════════════════
-- All passes
-- ════════════════════════════════════════════════════════════════════════

/-- **What the passes make of a document**: it is sanitized, headings get ids and links, and code blocks
are highlighted. -/
def passes (r : Renderer) (document : Forest) : Forest :=
  (r.finish (sanitize r.schema document)).1

/-- The document with ids and links, before it is highlighted. -/
def prepared (r : Renderer) (document : Forest) : Forest :=
  (r.headings (sanitize r.schema document)).1

theorem passes_eq (document : Forest) :
    r.passes document = r.highlighter.highlight (r.prepared document) := rfl

/-- Highlighting the result again changes nothing. -/
theorem highlight_passes (r : Renderer) (document : Forest) :
    r.highlighter.highlight (r.passes document) = r.passes document :=
  r.highlighter.highlight_highlight (r.prepared document)

theorem prepared_eq (document : Forest) : r.prepared document =
    if r.config.linksHeadings then
      linkHeadings r.config.anchorClass (assignHeadingIds (sanitize r.schema document))
    else assignHeadingIds (sanitize r.schema document) := rfl

theorem outline_assignIds (a : Anchors) (f : Forest) : (assignIds a f).1.outline = f.outline := by
  induction f generalizing a with
  | nil => rfl
  | text s rest ih => exact congrArg (some s :: ·) (ih a)
  | element tag cs rest _ ih =>
    rw [assignIds_element]
    exact congrArg (none :: ·) (ih _)

theorem textsApart_assignIds {f : Forest} (hf : f.textsApart = true) (a : Anchors) :
    (assignIds a f).1.textsApart = true := by
  induction f generalizing a with
  | nil => rfl
  | text s rest ih =>
    simp only [Forest.textsApart, Bool.and_eq_true] at hf
    simp only [assignIds, Forest.textsApart, Bool.and_eq_true]
    refine ⟨?_, ih hf.2 a⟩
    cases rest with
    | nil => rfl
    | text t rest => exact hf.1
    | element tag cs rest => rfl
  | element tag cs rest ihcs ihrest =>
    simp only [Forest.textsApart, Bool.and_eq_true] at hf
    rw [assignIds_element]
    simp only [Forest.textsApart, Bool.and_eq_true]
    exact ⟨ihcs hf.1 _, ihrest hf.2 _⟩

theorem textsApart_prepared (document : Forest) : (r.prepared document).textsApart = true := by
  have hapart : (assignHeadingIds (sanitize r.schema document)).textsApart = true :=
    textsApart_assignIds (Forest.textsApart_trimEdges (r.schema.textsApart_clean document)) _
  rw [prepared_eq]
  split
  · exact textsApart_link (s := .plain) hapart
  · exact hapart

theorem trimEdges_prepared (document : Forest) :
    (r.prepared document).trimEdges = r.prepared document := by
  have houtline : (r.prepared document).outline = (sanitize r.schema document).outline := by
    rw [prepared_eq]
    split
    · exact (outline_link_plain _).trans (outline_assignIds _ _)
    · exact outline_assignIds _ _
  rw [Forest.trimEdges_eq_self_iff, houtline, ← Forest.trimEdges_eq_self_iff]
  exact Forest.trimEdges_trimEdges _

/-- **A highlighted document of settled elements** whose headings have their ids is sanitized and given
ids again with changes in the spans of code blocks at most. -/
theorem alike_prepared_highlight (hs : r.schema = Schema.base) {g : Forest}
    (hapart : g.textsApart = true) (hsettled : ∀ tag ∈ g.tags, Schema.base.Settled tag)
    (htrim : g.trimEdges = g)
    (hids : assignHeadingIds (r.highlighter.highlight g) = r.highlighter.highlight g) :
    r.highlighter.Alike (r.prepared (r.highlighter.highlight g))
      (if r.config.linksHeadings then
        linkHeadings r.config.anchorClass (r.highlighter.highlight g)
      else r.highlighter.highlight g) := by
  have hsanitize : r.highlighter.Alike (sanitize r.schema (r.highlighter.highlight g))
      (r.highlighter.highlight g) := by
    rw [hs]
    exact Schema.alike_sanitize _ hapart hsettled htrim
  have halike := hsanitize.assignHeadingIds
  rw [hids] at halike
  rw [prepared_eq]
  split
  · exact halike.linkHeadings
  · exact halike

/-- The links of the headings are there unless highlighting has hidden a heading in another. -/
theorem linkHeadings_passes {document : Forest} (hlinks : r.config.linksHeadings = true)
    (hh : r.highlighter.hidesInHeading (r.prepared document) = false) :
    linkHeadings r.config.anchorClass (r.passes document) = r.passes document := by
  rw [passes_eq]
  rw [prepared_eq, if_pos hlinks] at hh ⊢
  exact linkHeadings_highlight_linkHeadings _ hh

section

variable (hs : r.schema = Schema.base) (hcls : Text.IsWord r.config.anchorClass) {document : Forest}
  (hd : ∀ tag ∈ document.tags, tag.Distinct)
include hs hcls hd

theorem settled_of_mem_tags_prepared : ∀ tag ∈ (r.prepared document).tags, Schema.base.Settled tag := by
  have hids : ∀ tag ∈ (assignHeadingIds (sanitize r.schema document)).tags,
      Schema.base.Settled tag := by
    refine of_mem_tags_assignIds (fun tag id hh ht => ht.setAttr_id hh id) _ fun tag ht => ?_
    rw [hs] at ht
    obtain ⟨u, hu, -, hallowed, heq⟩ := Schema.tag_of_mem_tags_sanitize ht
    rw [heq]
    exact Schema.settled_cleanTag_base (hd u hu) hallowed
  rw [prepared_eq]
  split
  · exact (relinked_linkHeadings _ _).of_mem (Schema.settled_link hcls)
      (fun tag id hname ht => ht.setAttr_href hname id) hids
  · exact hids

/-- **The passes again**: what is sanitized and given ids the second time differs from the result of the
first time in the spans of code blocks at most. -/
theorem alike_prepared_passes : r.highlighter.Alike (r.prepared (r.passes document))
    (if r.config.linksHeadings then linkHeadings r.config.anchorClass (r.passes document)
      else r.passes document) :=
  alike_prepared_highlight hs (textsApart_prepared document)
    (settled_of_mem_tags_prepared hs hcls hd) (trimEdges_prepared document)
    (assignHeadingIds_finish _)

/-- The result has distinct attribute names on each element, like the document. -/
theorem distinct_of_mem_tags_passes : ∀ tag ∈ (r.passes document).tags, tag.Distinct := by
  rw [passes_eq]
  refine r.highlighter.of_mem_tags_highlight ?_ ?_ fun tag ht =>
    (settled_of_mem_tags_prepared hs hcls hd tag ht).distinct
  · intro scope
    exact List.nodup_singleton _
  · intro tag _ ht
    exact Tag.addClass_of_setAttr blockClass ht fun value => ht.setAttr "class" value

/-- **The second run** only puts self-links in again. -/
theorem passes_passes : r.passes (r.passes document) =
    if r.config.linksHeadings then
      r.highlighter.highlight (linkHeadings r.config.anchorClass (r.passes document))
    else r.passes document := by
  rw [passes_eq, (alike_prepared_passes hs hcls hd).highlight_eq]
  split
  · rfl
  · exact r.highlight_passes document

/-- The second run changes nothing unless the first has hidden a heading in another. -/
theorem passes_passes_eq_self (hh : r.highlighter.hidesInHeading (r.prepared document) = false) :
    r.passes (r.passes document) = r.passes document := by
  rw [passes_passes hs hcls hd]
  split
  · next hlinks =>
    rw [linkHeadings_passes hlinks hh]
    exact r.highlight_passes document
  · rfl

/-- The second run hides no heading. -/
theorem hides_prepared_passes : r.highlighter.hides (r.prepared (r.passes document)) = false := by
  have hfirst : r.highlighter.hides (r.passes document) = false := by
    rw [passes_eq]
    exact Highlighter.hides_highlight _
  rw [(alike_prepared_passes hs hcls hd).hides_eq]
  split
  · exact hides_link rfl hfirst
  · exact hfirst

end

/-- **When all passes together are a fixed point.** Under the base schema the second run only puts
self-links in again. It changes nothing where headings are not linked, and nothing where highlighting
has hidden no heading in the content of another heading. The third run never changes anything. -/
theorem passes_again (r : Renderer) (hs : r.schema = Schema.base)
    (hcls : Text.IsWord r.config.anchorClass) {document : Forest}
    (hd : ∀ tag ∈ document.tags, tag.Distinct) :
    (r.passes (r.passes document) =
        if r.config.linksHeadings then
          r.highlighter.highlight (linkHeadings r.config.anchorClass (r.passes document))
        else r.passes document) ∧
      (r.highlighter.hidesInHeading (r.prepared document) = false →
        r.passes (r.passes document) = r.passes document) ∧
      r.passes (r.passes (r.passes document)) = r.passes (r.passes document) := by
  refine ⟨passes_passes hs hcls hd, passes_passes_eq_self hs hcls hd, ?_⟩
  exact passes_passes_eq_self hs hcls (distinct_of_mem_tags_passes hs hcls hd)
    (Highlighter.hidesInHeading_of_hides (hides_prepared_passes hs hcls hd))

end Renderer

/-- A heading with a code block, and a heading in the block. -/
def nestedHeading : Forest :=
  .single ⟨"h2", []⟩ (.text "Title " (.single ⟨"pre", []⟩
    (.single ⟨"code", [⟨"class", "language-txt"⟩]⟩ (.single ⟨"h3", []⟩ (.ofText "Inner")))))

/-- The renderer for the standard configuration. -/
def standardRenderer : Renderer where
  schema := Schema.base
  config := {}

/-- A heading with a code block that holds no heading. -/
def listingHeading : Forest :=
  .single ⟨"h2", []⟩ (.text "Title " (.single ⟨"pre", []⟩
    (.single ⟨"code", [⟨"class", "language-txt"⟩]⟩ (.ofText "x"))))

/-- The third run keeps the heading in which a heading was hidden, and the second run keeps the one in
which none was. -/
theorem passes_again_nestedHeading :
    standardRenderer.passes (standardRenderer.passes (standardRenderer.passes nestedHeading)) =
        standardRenderer.passes (standardRenderer.passes nestedHeading) ∧
      standardRenderer.highlighter.hidesInHeading (standardRenderer.prepared listingHeading) =
        false ∧
      standardRenderer.passes (standardRenderer.passes listingHeading) =
        standardRenderer.passes listingHeading := by
  have hcls : Text.IsWord standardRenderer.config.anchorClass := by decide
  have hnested : ∀ tag ∈ nestedHeading.tags, tag.Distinct := by decide
  have hlisting : ∀ tag ∈ listingHeading.tags, tag.Distinct := by decide
  have hhides : standardRenderer.highlighter.hidesInHeading
      (standardRenderer.prepared listingHeading) = false := by
    decide +kernel
  obtain ⟨-, -, hthird⟩ := standardRenderer.passes_again rfl hcls hnested
  obtain ⟨-, hsecond, -⟩ := standardRenderer.passes_again rfl hcls hlisting
  exact ⟨hthird, hhides, hsecond hhides⟩

/-- The link of the outer heading stops at the block while the inner heading is there, and takes it in
once it is gone. -/
theorem passes_again_changes_nestedHeading :
    ¬∀ (r : Renderer) (document : Forest), r.schema = Schema.base →
      Text.IsWord r.config.anchorClass → (∀ tag ∈ document.tags, tag.Distinct) →
      r.passes (r.passes document) = r.passes document := by
  intro hfixed
  have hsame := hfixed standardRenderer nestedHeading rfl (by decide) (by decide)
  -- heading, block, code and span enclose one another, and the second time the link does too
  have hdepth : (standardRenderer.passes nestedHeading).depth = 4 ∧
      (standardRenderer.passes (standardRenderer.passes nestedHeading)).depth = 5 := by
    decide +kernel
  rw [hsame] at hdepth
  exact absurd (hdepth.1.symm.trans hdepth.2) (by decide)

end ArticleMarkup
