import ArticleMarkup.Proofs.Heading.Ids
import ArticleMarkup.Proofs.Heading.SelfLinks
import ArticleMarkup.Proofs.Highlight.CodeBlocks
import ArticleMarkup.Proofs.Sanitize.Conformance
import ArticleMarkup.Render.Renderer

/-!
# Distinct attribute names

A tag is a list of attributes, and nothing in its type keeps a name from coming up twice. The passes do:
the sanitizer keeps a part of the list and sets what the schema forces, ids, addresses and classes are
set and never appended, and the tags that are new have one attribute of each name.

## Main definitions

- `Forest.DistinctNames` — on no element two attributes have the same name

## Main statements

- `Forest.DistinctNames.sanitize`, `Forest.DistinctNames.assignHeadingIds`,
  `Forest.DistinctNames.linkHeadings`, `Forest.DistinctNames.highlight` — each pass for itself
- `Renderer.distinctNames_passes` — **all passes keep attribute names distinct**
-/

namespace ArticleMarkup

open Highlight

/-- **On no element two attributes have the same name**, at any depth. -/
def Forest.DistinctNames (f : Forest) : Prop :=
  ∀ tag ∈ f.tags, tag.Distinct

instance (f : Forest) : Decidable f.DistinctNames :=
  inferInstanceAs (Decidable (∀ tag ∈ f.tags, tag.Distinct))

theorem Tag.Distinct.addClass {tag : Tag} (h : tag.Distinct) (cls : String) :
    (tag.addClass cls).Distinct := by
  apply Tag.addClass_of_setAttr (P := Tag.Distinct) cls h
  intro value
  exact h.setAttr "class" value

theorem distinct_selfLinkTag (cls id : String) : (selfLinkTag cls id).Distinct := by
  show ["class", "href"].Nodup
  decide

theorem distinct_spanTag (stem : String) (scope : Scope) : (spanTag stem scope).Distinct := by
  show ["class"].Nodup
  decide

namespace Forest.DistinctNames

variable {f : Forest}

/-- **The sanitizer** keeps names distinct, under any schema at all. -/
theorem sanitize (h : f.DistinctNames) (schema : Schema) :
    (ArticleMarkup.sanitize schema f).DistinctNames := by
  intro tag ht
  rw [ArticleMarkup.sanitize, Forest.tags_trimEdges] at ht
  obtain ⟨t, hmem, -, -, rfl⟩ := Schema.tag_of_mem_tags_clean ht
  exact Schema.distinct_cleanTag (h t hmem)

theorem assignHeadingIds (h : f.DistinctNames) :
    (ArticleMarkup.assignHeadingIds f).DistinctNames := by
  apply of_mem_tags_assignIds (P := Tag.Distinct) _ _ h
  intro tag id _ ht
  exact ht.setAttr "id" id

theorem linkHeadings (h : f.DistinctNames) (cls : String) :
    (ArticleMarkup.linkHeadings cls f).DistinctNames := by
  apply (relinked_linkHeadings cls f).of_mem (P := Tag.Distinct) (distinct_selfLinkTag cls) _ h
  intro tag id _ ht
  exact ht.setAttr "href" ("#" ++ id)

/-- **Highlighting** keeps names distinct, whatever becomes of the code. -/
theorem highlight (h : f.DistinctNames) (highlighter : Highlighter) :
    (highlighter.highlight f).DistinctNames := by
  apply highlighter.of_mem_tags_highlight (P := Tag.Distinct) (distinct_spanTag _) _ h
  intro tag _ ht
  exact ht.addClass blockClass

theorem headings (h : f.DistinctNames) (r : Renderer) : (r.headings f).1.DistinctNames := by
  unfold Renderer.headings
  by_cases hlinks : r.config.linksHeadings = true
  · simp only [if_pos hlinks]
    exact h.assignHeadingIds.linkHeadings r.config.anchorClass
  · simp only [if_neg hlinks]
    exact h.assignHeadingIds

theorem finish (h : f.DistinctNames) (r : Renderer) : (r.finish f).1.DistinctNames := by
  show (r.highlighter.highlight (r.headings f).1).DistinctNames
  exact (h.headings r).highlight r.highlighter

end Forest.DistinctNames

/-- **All passes keep attribute names distinct.** For every document without an element that has two
attributes of one name, each pass gives such a document again: the sanitizer under any schema, ids, links
with any class, and highlighting with any tokenizers. So does a whole rendering, under any configuration,
whether or not the document is sanitized. -/
theorem Renderer.distinctNames_passes (r : Renderer) {document : Forest}
    (h : document.DistinctNames) :
    (∀ schema, (sanitize schema document).DistinctNames) ∧
      (assignHeadingIds document).DistinctNames ∧
      (∀ cls, (linkHeadings cls document).DistinctNames) ∧
      (∀ highlighter : Highlighter, (highlighter.highlight document).DistinctNames) ∧
      (r.finish (sanitize r.schema document)).1.DistinctNames ∧
      (r.finish document).1.DistinctNames :=
  ⟨h.sanitize, h.assignHeadingIds, h.linkHeadings, h.highlight, (h.sanitize r.schema).finish r,
    h.finish r⟩

/-- A heading with an old self-link, an input that gets more attributes, and a code block. -/
def linkedHeading : Forest :=
  .element ⟨"h2", [⟨"title", "t"⟩, ⟨"id", " a "⟩]⟩
    (.single ⟨"a", [⟨"href", "#b"⟩, ⟨"class", "heading-anchor"⟩]⟩ (.ofText "A"))
    (.element ⟨"input", [⟨"type", "radio"⟩, ⟨"onclick", "x()"⟩]⟩ .nil
      (.single ⟨"pre", [⟨"class", "c"⟩, ⟨"lang", "en"⟩]⟩
        (.single ⟨"code", [⟨"class", "language-txt"⟩]⟩ (.ofText "x"))))

theorem distinctNames_passes_linkedHeading :
    ((Renderer.mk Schema.base {} standardHighlighter).finish
      (sanitize Schema.base linkedHeading)).1.DistinctNames := by
  have hnames : linkedHeading.DistinctNames := by decide
  exact ((Renderer.mk Schema.base {} standardHighlighter).distinctNames_passes hnames).2.2.2.2.1

end ArticleMarkup
