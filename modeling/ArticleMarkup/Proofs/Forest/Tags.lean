import ArticleMarkup.Proofs.Forest.Joins

/-!
# Tags and texts of a forest

What a forest holds, read in document order and without its nesting: the tags of all its elements,
its text, and its headings with the text of each. The operations on forests are described by what
they do to these.

## Main definitions

- `Forest.tags` — the tags of all elements
- `Forest.headings` — the tags of all headings, each with its text
- `Forest.ids` — the ids that elements carry
-/

namespace ArticleMarkup.Forest

/-- The tags of all elements, at any depth, in document order. -/
def tags : Forest → List Tag
  | nil => []
  | text _ rest => rest.tags
  | element tag cs rest => tag :: (cs.tags ++ rest.tags)

/-- The tags of all headings, at any depth, in document order, each with its text. -/
def headings : Forest → List (Tag × String)
  | nil => []
  | text _ rest => rest.headings
  | element tag cs rest =>
    (if tag.isHeading then [(tag, cs.textContent)] else []) ++ (cs.headings ++ rest.headings)

/-- The ids of all elements that have one, at any depth, in document order. -/
def ids (f : Forest) : List String :=
  f.tags.filterMap (·.attr? "id")

@[simp] theorem ids_nil : nil.ids = [] := rfl

@[simp] theorem ids_text (s : String) (rest : Forest) : (text s rest).ids = rest.ids := rfl

@[simp] theorem ids_element (tag : Tag) (cs rest : Forest) :
    (element tag cs rest).ids = (tag.attr? "id").toList ++ (cs.ids ++ rest.ids) := by
  cases h : tag.attr? "id" <;> simp [ids, tags, h]

/-- A heading is an element. -/
theorem mem_tags_of_mem_headings {f : Forest} {e : Tag × String} (h : e ∈ f.headings) :
    e.1 ∈ f.tags ∧ e.1.isHeading = true := by
  induction f with
  | nil => cases h
  | text s rest ih => exact ih h
  | element tag cs rest ihcs ihrest =>
    simp only [headings, List.mem_append] at h
    simp only [tags, List.mem_cons, List.mem_append]
    rcases h with h | h | h
    · split at h
      · next htag =>
        rw [List.mem_singleton.mp h]
        exact ⟨.inl rfl, htag⟩
      · cases h
    · exact ⟨.inr (.inl (ihcs h).1), (ihcs h).2⟩
    · exact ⟨.inr (.inr (ihrest h).1), (ihrest h).2⟩

-- ════════════════════════════════════════════════════════════════════════
-- Appending and merging
-- ════════════════════════════════════════════════════════════════════════

@[simp] theorem tags_append (a b : Forest) : (a ++ b).tags = a.tags ++ b.tags := by
  induction a with
  | nil => rfl
  | text s rest ih => simpa [tags] using ih
  | element tag cs rest _ ih => simp [tags, ih]

@[simp] theorem headings_append (a b : Forest) : (a ++ b).headings = a.headings ++ b.headings := by
  induction a with
  | nil => rfl
  | text s rest ih => simpa [headings] using ih
  | element tag cs rest _ ih => simp [headings, ih]

@[simp] theorem textContent_append (a b : Forest) :
    (a ++ b).textContent = a.textContent ++ b.textContent := by
  induction a with
  | nil => simp [textContent]
  | text s rest ih => simp [textContent, ih, String.append_assoc]
  | element tag cs rest _ ih => simp [textContent, ih, String.append_assoc]

theorem depth_append (a b : Forest) : (a ++ b).depth = max a.depth b.depth := by
  induction a with
  | nil => exact (Nat.zero_max _).symm
  | text s rest ih => exact ih
  | element tag cs rest _ ih => rw [element_append, depth, depth, ih, Nat.max_assoc]

@[simp] theorem ids_append (a b : Forest) : (a ++ b).ids = a.ids ++ b.ids := by
  simp [ids]

@[simp] theorem tags_consText (s : String) (f : Forest) : (f.consText s).tags = f.tags := by
  cases f <;> rfl

@[simp] theorem headings_consText (s : String) (f : Forest) :
    (f.consText s).headings = f.headings := by
  cases f <;> rfl

@[simp] theorem textContent_consText (s : String) (f : Forest) :
    (f.consText s).textContent = s ++ f.textContent := by
  cases f <;> simp [consText, textContent, String.append_assoc]

@[simp] theorem depth_consText (s : String) (f : Forest) : (f.consText s).depth = f.depth := by
  cases f <;> rfl

@[simp] theorem ids_consText (s : String) (f : Forest) : (f.consText s).ids = f.ids := by
  simp [ids]

@[simp] theorem tags_glue (a b : Forest) : (a.glue b).tags = a.tags ++ b.tags := by
  rcases glue_cases a b with hglue | ⟨front, s, rfl, hglue⟩
  · rw [hglue, tags_append]
  · rw [hglue]
    simp [ofText, tags]

@[simp] theorem headings_glue (a b : Forest) :
    (a.glue b).headings = a.headings ++ b.headings := by
  rcases glue_cases a b with hglue | ⟨front, s, rfl, hglue⟩
  · rw [hglue, headings_append]
  · rw [hglue]
    simp [ofText, headings]

@[simp] theorem textContent_glue (a b : Forest) :
    (a.glue b).textContent = a.textContent ++ b.textContent := by
  rcases glue_cases a b with hglue | ⟨front, s, rfl, hglue⟩
  · rw [hglue, textContent_append]
  · rw [hglue]
    simp [ofText, textContent, String.append_assoc]

theorem depth_glue (a b : Forest) : (a.glue b).depth = max a.depth b.depth := by
  rcases glue_cases a b with hglue | ⟨front, s, rfl, hglue⟩
  · rw [hglue, depth_append]
  · rw [hglue]
    simp [depth_append, ofText, depth]

@[simp] theorem ids_glue (a b : Forest) : (a.glue b).ids = a.ids ++ b.ids := by
  simp [ids]

-- ════════════════════════════════════════════════════════════════════════
-- Edges
-- ════════════════════════════════════════════════════════════════════════

theorem tags_of_allBlank {f : Forest} (h : f.allBlank = true) : f.tags = [] := by
  induction f with
  | nil => rfl
  | text s rest ih => exact ih (Bool.and_eq_true_iff.mp h).2
  | element tag cs rest => cases h

theorem depth_of_allBlank {f : Forest} (h : f.allBlank = true) : f.depth = 0 := by
  induction f with
  | nil => rfl
  | text s rest ih => exact ih (Bool.and_eq_true_iff.mp h).2
  | element tag cs rest => cases h

theorem tags_dropLeadingBlank (f : Forest) : f.dropLeadingBlank.tags = f.tags := by
  obtain ⟨blanks, hf, hblanks, -⟩ := exists_dropLeadingBlank f
  rw [congrArg tags hf, tags_append, tags_of_allBlank hblanks, List.nil_append]

theorem tags_collapseTrailingBlank (f : Forest) : f.collapseTrailingBlank.tags = f.tags := by
  rcases collapseTrailingBlank_cases f with ⟨front, s, rfl, -, hlast⟩ | ⟨-, hsame⟩
  · rw [hlast]
    simp [ofText, tags]
  · rw [hsame]

/-- Trimming the edges only changes texts. -/
@[simp] theorem tags_trimEdges (f : Forest) : f.trimEdges.tags = f.tags := by
  rw [trimEdges, tags_collapseTrailingBlank, tags_dropLeadingBlank]

theorem depth_dropLeadingBlank (f : Forest) : f.dropLeadingBlank.depth = f.depth := by
  obtain ⟨blanks, hf, hblanks, -⟩ := exists_dropLeadingBlank f
  rw [congrArg depth hf, depth_append, depth_of_allBlank hblanks, Nat.zero_max]

theorem depth_collapseTrailingBlank (f : Forest) : f.collapseTrailingBlank.depth = f.depth := by
  rcases collapseTrailingBlank_cases f with ⟨front, s, rfl, -, hlast⟩ | ⟨-, hsame⟩
  · rw [hlast]
    simp [depth_append, ofText, depth]
  · rw [hsame]

theorem depth_trimEdges (f : Forest) : f.trimEdges.depth = f.depth := by
  rw [trimEdges, depth_collapseTrailingBlank, depth_dropLeadingBlank]

end ArticleMarkup.Forest
