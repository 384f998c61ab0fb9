import ArticleMarkup.Proofs.Heading.Contents
import ArticleMarkup.Proofs.Heading.Ids
import ArticleMarkup.Proofs.Heading.SelfLinks
import ArticleMarkup.Proofs.Highlight.CodeBlocks
import ArticleMarkup.Render.Renderer

/-!
# The table of contents and the document

The headings of a rendering are recorded before code blocks are highlighted. They are the headings
of the final document, each with an id that comes up once, unless one of them stands in a code block
that is highlighted.

## Main statements

- `Renderer.headings_headings` — links change none of the headings that were recorded
- `Renderer.contents_perm` — a record belongs to a heading that is left, or to one in a code block
- `Renderer.contents_finish_iff` — exactly when the records are the headings of the final document
-/

namespace ArticleMarkup

namespace Renderer

variable (r : Renderer) (tree : Forest)

-- ════════════════════════════════════════════════════════════════════════
-- Headings
-- ════════════════════════════════════════════════════════════════════════

theorem headings_headings :
    (r.headings tree).1.headings = (assignHeadingIds tree).headings := by
  unfold headings
  simp only
  split
  · exact headings_linkHeadings r.config.anchorClass (assignHeadingIds tree)
  · rfl

theorem ids_headings_sublist : (r.headings tree).1.ids.Sublist (assignHeadingIds tree).ids := by
  unfold headings
  simp only
  split
  · exact ids_linkHeadings_sublist r.config.anchorClass (assignHeadingIds tree)
  · exact List.Sublist.refl _

/-- **The records** are those of the document with ids and links. -/
theorem snd_headings :
    (r.headings tree).2 = collectHeadings r.config.tocLevels (r.headings tree).1 := by
  rw [collectHeadings_eq, headings_headings, ← collectHeadings_eq]
  rfl

-- ════════════════════════════════════════════════════════════════════════
-- The final document
-- ════════════════════════════════════════════════════════════════════════

/-- The listed headings of the final document have records, in the same order. -/
theorem contents_sublist :
    (collectHeadings r.config.tocLevels (r.finish tree).1).Sublist (r.finish tree).2.1 := by
  change (collectHeadings r.config.tocLevels (r.highlighter.highlight (r.headings tree).1)).Sublist
    (r.headings tree).2
  rw [snd_headings, collectHeadings_eq, collectHeadings_eq]
  exact (r.highlighter.headings_highlight_sublist _).filterMap _

/-- **A record belongs to a listed heading** of the final document or to one in a code block that is
highlighted. -/
theorem contents_perm :
    (r.finish tree).2.1.Perm (collectHeadings r.config.tocLevels (r.finish tree).1 ++
      (r.highlighter.replaced (r.headings tree).1).flatMap
        (collectHeadings r.config.tocLevels)) := by
  change (r.headings tree).2.Perm
    (collectHeadings r.config.tocLevels (r.highlighter.highlight (r.headings tree).1) ++ _)
  have hblocks : (r.highlighter.replaced (r.headings tree).1).flatMap
      (collectHeadings r.config.tocLevels) =
      ((r.highlighter.replaced (r.headings tree).1).flatMap Forest.headings).filterMap
        (listed? r.config.tocLevels) := by
    rw [List.filterMap_flatMap]
    exact List.flatMap_congr fun f _ => collectHeadings_eq r.config.tocLevels f
  rw [snd_headings, collectHeadings_eq, collectHeadings_eq, hblocks, ← List.filterMap_append]
  exact (r.highlighter.headings_perm _).filterMap _

/-- The id of a listed heading of the final document comes up once in it. -/
theorem count_ids_finish {record : HeadingRecord}
    (h : record ∈ collectHeadings r.config.tocLevels (r.finish tree).1) :
    (r.finish tree).1.ids.count record.id = 1 := by
  obtain ⟨tag, htag, -, hid⟩ := exists_heading_of_mem_collectHeadings h
  have hpos : 0 < (r.finish tree).1.ids.count record.id :=
    List.count_pos_iff.mpr (List.mem_filterMap.mpr ⟨tag, htag, hid⟩)
  -- no pass after the assignment of ids adds one
  have hsub : (r.finish tree).1.ids.Sublist (assignHeadingIds tree).ids :=
    (r.highlighter.ids_highlight_sublist _).trans (r.ids_headings_sublist tree)
  have hrecord : record ∈ collectHeadings r.config.tocLevels (assignHeadingIds tree) :=
    (r.contents_sublist tree).subset h
  obtain ⟨tag', htag', hheading', hid'⟩ := exists_heading_of_mem_collectHeadings hrecord
  obtain ⟨id, hid, hcount⟩ := exists_id_of_mem_tags_assignHeadingIds htag' hheading'
  rw [hid'] at hid
  cases hid
  have hle := hsub.count_le record.id
  omega

end Renderer

/-- **When the table of contents fits the document.** The records are exactly the listed headings of
the final document, each with an id that one element carries, if and only if no listed heading
stands in a code block that is highlighted. -/
theorem Renderer.contents_finish_iff (r : Renderer) (document : Forest) :
    (collectHeadings r.config.tocLevels (r.finish (sanitize r.schema document)).1 =
        (r.finish (sanitize r.schema document)).2.1 ∧
      ∀ record ∈ (r.finish (sanitize r.schema document)).2.1,
        (r.finish (sanitize r.schema document)).1.ids.count record.id = 1) ↔
    ∀ content ∈ r.highlighter.replaced (r.headings (sanitize r.schema document)).1,
      collectHeadings r.config.tocLevels content = [] := by
  generalize sanitize r.schema document = tree
  have hperm := (r.contents_perm tree).length_eq
  rw [List.length_append] at hperm
  constructor
  · rintro ⟨heq, -⟩
    rw [heq] at hperm
    have hnil := List.length_eq_zero_iff.mp (Nat.left_eq_add.mp hperm)
    exact List.flatMap_eq_nil_iff.mp hnil
  · intro hblocks
    rw [List.flatMap_eq_nil_iff.mpr hblocks, List.length_nil, Nat.add_zero] at hperm
    have heq := (r.contents_sublist tree).eq_of_length hperm.symm
    exact ⟨heq, fun record hrecord => r.count_ids_finish tree (heq ▸ hrecord)⟩

/-- A heading inside a code block. -/
def codeHeading : Forest :=
  .single ⟨"pre", []⟩ (.single ⟨"code", [⟨"class", "language-txt"⟩]⟩
    (.single ⟨"h2", []⟩ (.ofText "Foo")))

/-- The heading is recorded, and no element of the final document has its id. -/
theorem contents_finish_codeHeading :
    (Renderer.finish { schema := Schema.base, config := {} }
        (sanitize Schema.base codeHeading)).2.1 = [⟨"foo", "Foo", 2⟩] ∧
      (Renderer.finish { schema := Schema.base, config := {} }
        (sanitize Schema.base codeHeading)).1.ids = [] := by
  decide +kernel

end ArticleMarkup
