import ArticleMarkup.Forest

/-!
# Where forests are joined and trimmed

Merging append joins two forests at one place, and trimming changes a document at its two edges. What
they do there is said once here, in terms of appending, so that what appending keeps need not be shown
again for them.

## Main statements

- `Forest.glue_cases` — two forests are appended, or the texts that meet become one
- `Forest.exists_dropLeadingBlank` — what is removed in front
- `Forest.collapseTrailingBlank_cases` — what becomes of the last text
-/

namespace ArticleMarkup.Forest

/-- **Merging append** is appending, unless a text stands last in front: it is put in front of what
follows. -/
theorem glue_cases (a b : Forest) :
    a.glue b = a ++ b ∨
      ∃ front s, a = front ++ ofText s ∧ a.glue b = front ++ b.consText s := by
  fun_induction glue a b with
  | case1 b => exact .inl rfl
  | case2 s b => exact .inr ⟨nil, s, rfl, rfl⟩
  | case3 s rest b _ ih =>
    rcases ih with hglue | ⟨front, t, rfl, hglue⟩
    · exact .inl (congrArg (text s) hglue)
    · exact .inr ⟨text s front, t, rfl, congrArg (text s) hglue⟩
  | case4 tag cs rest b ih =>
    rcases ih with hglue | ⟨front, t, rfl, hglue⟩
    · exact .inl (congrArg (element tag cs) hglue)
    · exact .inr ⟨element tag cs front, t, rfl, congrArg (element tag cs) hglue⟩

-- ════════════════════════════════════════════════════════════════════════
-- Edges
-- ════════════════════════════════════════════════════════════════════════

theorem exists_dropLeadingBlank (f : Forest) :
    ∃ blanks, f = blanks ++ f.dropLeadingBlank ∧ blanks.allBlank = true ∧
      ∀ s rest, f.dropLeadingBlank = .text s rest → Text.isBlank s = false := by
  fun_induction dropLeadingBlank f with
  | case1 s rest hblank ih =>
    obtain ⟨blanks, hf, hall, hfirst⟩ := ih
    exact ⟨.text s blanks, congrArg (Forest.text s) hf, by simp [allBlank, hblank, hall], hfirst⟩
  | case2 s rest hblank =>
    refine ⟨nil, rfl, rfl, ?_⟩
    rintro _ _ ⟨⟩
    simpa using hblank
  | case3 f hno => exact ⟨nil, rfl, rfl, fun s rest h => absurd h (hno s rest)⟩

theorem append_ofText_ne_nil (front : Forest) (s : String) : front ++ ofText s ≠ nil := by
  cases front <;> exact Forest.noConfusion

/-- The last text stands behind a first text, unless it is that text itself. -/
theorem eq_append_ofText_of_text {s t : String} {rest front : Forest} (hne : rest ≠ nil)
    (h : text s rest = front ++ ofText t) : ∃ front', rest = front' ++ ofText t := by
  cases front with
  | nil => cases h; exact absurd rfl hne
  | text u front =>
    simp only [text_append, Forest.text.injEq] at h
    exact ⟨front, h.2⟩
  | element tag cs front => cases h

theorem eq_append_ofText_of_element {tag : Tag} {t : String} {cs rest front : Forest}
    (h : element tag cs rest = front ++ ofText t) : ∃ front', rest = front' ++ ofText t := by
  cases front with
  | nil => cases h
  | text u front => cases h
  | element tag' cs' front =>
    simp only [element_append, Forest.element.injEq] at h
    exact ⟨front, h.2.2⟩

/-- What becomes of a blank text at the end. -/
theorem collapseTrailingBlank_cases (f : Forest) :
    (∃ front s, f = front ++ .ofText s ∧ Text.isBlank s = true ∧
      f.collapseTrailingBlank = front ++ .ofText "\n") ∨
    ((∀ front s, f = front ++ .ofText s → Text.isBlank s = false) ∧
      f.collapseTrailingBlank = f) := by
  fun_induction collapseTrailingBlank f with
  | case1 => exact .inr ⟨fun front s h => absurd h.symm (append_ofText_ne_nil front s), rfl⟩
  | case2 s hblank => exact .inl ⟨nil, s, rfl, hblank, rfl⟩
  | case3 s hblank =>
    refine .inr ⟨fun front t h => ?_, rfl⟩
    cases front with
    | nil => cases h; simpa using hblank
    | text u front =>
      simp only [text_append, Forest.text.injEq] at h
      exact absurd h.2.symm (append_ofText_ne_nil front t)
    | element tag cs front => cases h
  | case4 s rest hne ih =>
    rcases ih with ⟨front, t, hrest, hblank, hlast⟩ | ⟨hlast, hsame⟩
    · exact .inl ⟨.text s front, t, congrArg (Forest.text s) hrest, hblank,
        congrArg (Forest.text s) hlast⟩
    · refine .inr ⟨fun front t h => ?_, congrArg (Forest.text s) hsame⟩
      obtain ⟨front', hrest⟩ := eq_append_ofText_of_text hne h
      exact hlast front' t hrest
  | case5 tag cs rest ih =>
    rcases ih with ⟨front, t, hrest, hblank, hlast⟩ | ⟨hlast, hsame⟩
    · exact .inl ⟨.element tag cs front, t, congrArg (Forest.element tag cs) hrest, hblank,
        congrArg (Forest.element tag cs) hlast⟩
    · refine .inr ⟨fun front t h => ?_, congrArg (Forest.element tag cs) hsame⟩
      obtain ⟨front', hrest⟩ := eq_append_ofText_of_element h
      exact hlast front' t hrest

end ArticleMarkup.Forest
