import ArticleMarkup.Proofs.Forest.Texts

/-!
# Forests with new tags

A pass that keeps every node and every text, and only writes new tags, is a map over the tags. Such a
map keeps what is said about the texts alone, and changes nothing exactly when each tag stays.

## Main definitions

- `Forest.retag` — the forest with each tag replaced by its image

## Main statements

- `Forest.retag_eq_self_iff` — when nothing changes
- `Forest.trimEdges_retag` — tags and edges do not meet
- `Forest.trimEdges_trimEdges` — edges are trimmed once and for all
-/

namespace ArticleMarkup.Forest

/-- **Replace each tag** by its image and keep everything else. -/
def retag (g : Tag → Tag) : Forest → Forest
  | nil => nil
  | text s rest => text s (rest.retag g)
  | element tag cs rest => element (g tag) (cs.retag g) (rest.retag g)

variable (g : Tag → Tag)

@[simp] theorem retag_nil : nil.retag g = nil := rfl

@[simp] theorem retag_text (s : String) (rest : Forest) :
    (text s rest).retag g = text s (rest.retag g) := rfl

@[simp] theorem retag_element (tag : Tag) (cs rest : Forest) :
    (element tag cs rest).retag g = element (g tag) (cs.retag g) (rest.retag g) := rfl

@[simp] theorem tags_retag (f : Forest) : (f.retag g).tags = f.tags.map g := by
  induction f with
  | nil => rfl
  | text s rest ih => exact ih
  | element tag cs rest ihcs ihrest => simp [tags, ihcs, ihrest]

@[simp] theorem startsWithText_retag (f : Forest) :
    (f.retag g).startsWithText = f.startsWithText := by
  cases f <;> rfl

@[simp] theorem textsApart_retag (f : Forest) : (f.retag g).textsApart = f.textsApart := by
  induction f with
  | nil => rfl
  | text s rest ih => simp [textsApart, ih]
  | element tag cs rest ihcs ihrest => simp [textsApart, ihcs, ihrest]

theorem retag_consText (s : String) (f : Forest) :
    (f.consText s).retag g = (f.retag g).consText s := by
  cases f <;> rfl

/-- Only the images of the tags that are there matter. -/
theorem retag_congr {g g' : Tag → Tag} {f : Forest} (h : ∀ tag ∈ f.tags, g tag = g' tag) :
    f.retag g = f.retag g' := by
  induction f with
  | nil => rfl
  | text s rest ih => exact congrArg (text s) (ih h)
  | element tag cs rest ihcs ihrest =>
    simp only [tags, List.forall_mem_cons, List.forall_mem_append] at h
    rw [retag_element, h.1, ihcs h.2.1, ihrest h.2.2, retag_element]

/-- **Nothing changes** exactly when each tag stays. -/
theorem retag_eq_self_iff (f : Forest) : f.retag g = f ↔ ∀ tag ∈ f.tags, g tag = tag := by
  induction f with
  | nil => simp [tags]
  | text s rest ih => simpa [tags] using ih
  | element tag cs rest ihcs ihrest =>
    simp [tags, ihcs, ihrest, or_imp, forall_and]

-- ════════════════════════════════════════════════════════════════════════
-- Edges
-- ════════════════════════════════════════════════════════════════════════

theorem dropLeadingBlank_retag (f : Forest) :
    (f.retag g).dropLeadingBlank = f.dropLeadingBlank.retag g := by
  fun_induction dropLeadingBlank f with
  | case1 s rest hblank ih => simpa [dropLeadingBlank, hblank] using ih
  | case2 s rest hblank => simp [dropLeadingBlank, hblank]
  | case3 f hno =>
    cases f with
    | nil => rfl
    | text s rest => exact absurd rfl (hno s rest)
    | element tag cs rest => rfl

theorem collapseTrailingBlank_retag (f : Forest) :
    (f.retag g).collapseTrailingBlank = f.collapseTrailingBlank.retag g := by
  fun_induction collapseTrailingBlank f with
  | case1 => rfl
  | case2 s hblank => simp [collapseTrailingBlank, hblank]
  | case3 s hblank => simp [collapseTrailingBlank, hblank]
  | case4 s rest hne ih =>
    cases rest with
    | nil => exact absurd rfl hne
    | text t rest => exact congrArg (text s) ih
    | element tag cs rest => exact congrArg (text s) ih
  | case5 tag cs rest ih => exact congrArg (element (g tag) (cs.retag g)) ih

/-- New tags do not change how the edges are trimmed. -/
theorem trimEdges_retag (f : Forest) : (f.retag g).trimEdges = f.trimEdges.retag g := by
  rw [trimEdges, dropLeadingBlank_retag, collapseTrailingBlank_retag, trimEdges]

theorem dropLeadingBlank_trimEdges (f : Forest) : f.trimEdges.dropLeadingBlank = f.trimEdges := by
  obtain ⟨blanks, -, -, hfirst⟩ := exists_dropLeadingBlank f
  unfold trimEdges
  cases hf : f.dropLeadingBlank with
  | nil => rfl
  | text s rest =>
    have hs : Text.isBlank s = false := hfirst s rest hf
    cases rest <;> simp [collapseTrailingBlank, dropLeadingBlank, hs]
  | element tag cs rest => rfl

theorem collapseTrailingBlank_collapseTrailingBlank (f : Forest) :
    f.collapseTrailingBlank.collapseTrailingBlank = f.collapseTrailingBlank := by
  have hnewline : Text.isBlank "\n" = true := by decide
  fun_induction collapseTrailingBlank f with
  | case1 => rfl
  | case2 s hblank => simp [collapseTrailingBlank, hnewline]
  | case3 s hblank => simp [collapseTrailingBlank, hblank]
  | case4 s rest hne ih =>
    have hkept : rest.collapseTrailingBlank ≠ nil := by
      fun_cases collapseTrailingBlank rest with
      | case1 => exact absurd rfl hne
      | case2 | case3 | case4 | case5 => exact Forest.noConfusion
    rw [collapseTrailingBlank, ih]
    exact hkept
  | case5 tag cs rest ih => exact congrArg (element tag cs) ih

/-- **Trimming the edges twice** is trimming them once. -/
theorem trimEdges_trimEdges (f : Forest) : f.trimEdges.trimEdges = f.trimEdges := by
  rw [trimEdges, dropLeadingBlank_trimEdges, trimEdges, collapseTrailingBlank_collapseTrailingBlank]

end ArticleMarkup.Forest
