import ArticleMarkup.Heading.Contents
import ArticleMarkup.Proofs.Forest.Tags

/-!
# Headings that are listed

The headings that a table of contents lists depend on the tags and texts of headings only.

## Main definitions

- `listed?` — the record of a heading with a given text

## Main statements

- `collectHeadings_eq` — the records of a document are made from its headings
-/

namespace ArticleMarkup

/-- The record of a heading with this text, if it is listed. -/
def listed? (levels : Levels) (heading : Tag × String) : Option HeadingRecord :=
  headingRecord? levels heading.1 (.ofText heading.2)

theorem headingRecord?_eq (levels : Levels) (tag : Tag) (cs : Forest) :
    headingRecord? levels tag cs = listed? levels (tag, cs.textContent) := by
  simp [listed?, headingRecord?, Forest.ofText, Forest.textContent]

theorem headingRecord?_eq_none (levels : Levels) {tag : Tag} (h : tag.isHeading = false)
    (cs : Forest) : headingRecord? levels tag cs = none := by
  have hlevel : tag.headingLevel? = none := by simpa [Tag.isHeading] using h
  simp [headingRecord?, hlevel]

/-- **The records of a document** are those of its headings. -/
theorem collectHeadings_eq (levels : Levels) (f : Forest) :
    collectHeadings levels f = f.headings.filterMap (listed? levels) := by
  induction f with
  | nil => rfl
  | text s rest ih => exact ih
  | element tag cs rest ihcs ihrest =>
    simp only [collectHeadings, Forest.headings, List.filterMap_append, ihcs, ihrest,
      List.append_assoc]
    by_cases h : tag.isHeading
    · rw [if_pos h, headingRecord?_eq]
      cases hl : listed? levels (tag, cs.textContent) <;> simp [hl]
    · rw [if_neg h, headingRecord?_eq_none levels (by simpa using h)]
      rfl

/-- A record has the id of a heading. -/
theorem exists_heading_of_mem_collectHeadings {levels : Levels} {f : Forest} {record : HeadingRecord}
    (h : record ∈ collectHeadings levels f) :
    ∃ tag ∈ f.tags, tag.isHeading = true ∧ tag.attr? "id" = some record.id := by
  rw [collectHeadings_eq] at h
  obtain ⟨e, he, hrecord⟩ := List.mem_filterMap.mp h
  obtain ⟨hmem, hheading⟩ := Forest.mem_tags_of_mem_headings he
  refine ⟨e.1, hmem, hheading, ?_⟩
  unfold listed? headingRecord? at hrecord
  split at hrecord
  · next hid =>
    split at hrecord
    · cases hrecord
      exact hid
    · cases hrecord
  · cases hrecord

end ArticleMarkup
