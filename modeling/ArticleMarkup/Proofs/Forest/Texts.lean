import ArticleMarkup.Proofs.Forest.Tags

/-!
# Texts of a forest

The text nodes of a forest, and forests in which no two of them stand side by side. Merging keeps
texts apart, and so does trimming the edges of a document.

## Main definitions

- `Forest.texts` — the text nodes in document order
- `Forest.textsApart` — no two text nodes are neighbours
- `Forest.merged` — the forest with neighbouring text nodes merged
- `Forest.EdgesTrimmed` — a document without blank text at its edges, against the one before

## Main statements

- `Forest.textsApart_consText`, `Forest.textsApart_glue` — what is merged stays apart
- `Forest.glue_assoc` — merging may be done from either side
- `Forest.textsApart_trimEdges` — trimming brings no texts together
- `Forest.edgesTrimmed_trimEdges` — what trimming removes
-/

namespace ArticleMarkup.Forest

/-- The text nodes, at any depth, in document order. -/
def texts : Forest → List String
  | nil => []
  | text s rest => s :: rest.texts
  | element _ cs rest => cs.texts ++ rest.texts

/-- The first node is a text. -/
def startsWithText : Forest → Bool
  | text _ _ => true
  | _ => false

/-- **No two texts are neighbours**, at any depth. -/
def textsApart : Forest → Bool
  | nil => true
  | text _ rest => !rest.startsWithText && rest.textsApart
  | element _ cs rest => cs.textsApart && rest.textsApart

theorem textsApart_consText (s : String) {f : Forest} (h : f.textsApart = true) :
    (f.consText s).textsApart = true := by
  cases f with
  | nil => rfl
  | text t rest => exact h
  | element tag cs rest => exact h

theorem consText_eq {f : Forest} (hf : f.startsWithText = false) (s : String) :
    f.consText s = .text s f := by
  cases f with
  | nil => rfl
  | text t rest => cases hf
  | element tag cs rest => rfl

theorem startsWithText_glue {a : Forest} (h : a ≠ nil) (b : Forest) :
    (a.glue b).startsWithText = a.startsWithText := by
  fun_cases glue a b with
  | case1 b => exact absurd rfl h
  | case2 s b => cases b <;> rfl
  | case3 s rest b _ => rfl
  | case4 tag cs rest b => rfl

theorem textsApart_glue {a b : Forest} (ha : a.textsApart = true) (hb : b.textsApart = true) :
    (a.glue b).textsApart = true := by
  fun_induction glue a b with
  | case1 b => exact hb
  | case2 s b => exact textsApart_consText s hb
  | case3 s rest b hne ih =>
    simp only [textsApart, Bool.and_eq_true] at ha ⊢
    rw [startsWithText_glue hne]
    exact ⟨ha.1, ih ha.2 hb⟩
  | case4 tag cs rest b ih =>
    simp only [textsApart, Bool.and_eq_true] at ha ⊢
    exact ⟨ha.1, ih ha.2 hb⟩

-- ════════════════════════════════════════════════════════════════════════
-- Merged texts
-- ════════════════════════════════════════════════════════════════════════

/-- **Merge neighbouring texts**, at any depth. -/
def merged : Forest → Forest
  | nil => nil
  | text s rest => rest.merged.consText s
  | element tag cs rest => element tag cs.merged rest.merged

@[simp] theorem merged_text (s : String) (rest : Forest) :
    (text s rest).merged = rest.merged.consText s := rfl

@[simp] theorem merged_element (tag : Tag) (cs rest : Forest) :
    (element tag cs rest).merged = element tag cs.merged rest.merged := rfl

@[simp] theorem tags_merged (f : Forest) : f.merged.tags = f.tags := by
  induction f with
  | nil => rfl
  | text s rest ih => simpa [tags] using ih
  | element tag cs rest ihcs ihrest => simp [tags, ihcs, ihrest]

/-- Texts that stand apart are merged already. -/
theorem merged_eq_self {f : Forest} (h : f.textsApart = true) : f.merged = f := by
  induction f with
  | nil => rfl
  | text s rest ih =>
    simp only [textsApart, Bool.and_eq_true, Bool.not_eq_true'] at h
    rw [merged_text, ih h.2, consText_eq h.1]
  | element tag cs rest ihcs ihrest =>
    simp only [textsApart, Bool.and_eq_true] at h
    rw [merged_element, ihcs h.1, ihrest h.2]

-- ════════════════════════════════════════════════════════════════════════
-- Merging append
-- ════════════════════════════════════════════════════════════════════════

theorem glue_nil (f : Forest) : f.glue nil = f := by
  induction f with
  | nil => rfl
  | text s rest ih =>
    cases rest with
    | nil => rfl
    | text t rest => exact congrArg (text s) ih
    | element tag cs rest => exact congrArg (text s) ih
  | element tag cs rest _ ih => exact congrArg (element tag cs) ih

theorem consText_consText (s t : String) (f : Forest) :
    (f.consText t).consText s = f.consText (s ++ t) := by
  cases f with
  | nil => rfl
  | text u rest => exact congrArg (text · rest) String.append_assoc.symm
  | element tag cs rest => rfl

theorem glue_text_of_ne_nil {f : Forest} (h : f ≠ nil) (s : String) (g : Forest) :
    (text s f).glue g = text s (f.glue g) := by
  cases f with
  | nil => exact absurd rfl h
  | text t rest => rfl
  | element tag cs rest => rfl

theorem glue_ne_nil {f : Forest} (h : f ≠ nil) (g : Forest) : f.glue g ≠ nil := by
  fun_cases glue f g with
  | case1 g => exact absurd rfl h
  | case2 s g => cases g <;> exact Forest.noConfusion
  | case3 s rest g _ => exact Forest.noConfusion
  | case4 tag cs rest g => exact Forest.noConfusion

theorem glue_consText (s : String) (f g : Forest) :
    (f.consText s).glue g = (f.glue g).consText s := by
  cases f with
  | nil => rfl
  | element tag cs rest => rfl
  | text t rest =>
    by_cases hrest : rest = nil
    · rw [hrest]
      exact (consText_consText s t g).symm
    · rw [glue_text_of_ne_nil hrest]
      exact glue_text_of_ne_nil hrest (s ++ t) g

theorem glue_assoc (f g h : Forest) : (f.glue g).glue h = f.glue (g.glue h) := by
  fun_induction glue f g with
  | case1 g => rfl
  | case2 s g => exact glue_consText s g h
  | case3 s rest g hne ih =>
    rw [glue_text_of_ne_nil (glue_ne_nil hne g), ih, glue_text_of_ne_nil hne]
  | case4 tag cs rest g ih => exact congrArg (element tag cs) ih

-- ════════════════════════════════════════════════════════════════════════
-- Edges
-- ════════════════════════════════════════════════════════════════════════

theorem textsApart_dropLeadingBlank {f : Forest} (h : f.textsApart = true) :
    f.dropLeadingBlank.textsApart = true := by
  fun_induction dropLeadingBlank f with
  | case1 s rest _ ih => exact ih (Bool.and_eq_true_iff.mp h).2
  | case2 s rest _ => exact h
  | case3 f _ => exact h

theorem startsWithText_collapseTrailingBlank (f : Forest) :
    f.collapseTrailingBlank.startsWithText = f.startsWithText := by
  fun_cases collapseTrailingBlank f <;> rfl

theorem textsApart_collapseTrailingBlank {f : Forest} (h : f.textsApart = true) :
    f.collapseTrailingBlank.textsApart = true := by
  fun_induction collapseTrailingBlank f with
  | case1 => rfl
  | case2 s _ => rfl
  | case3 s _ => rfl
  | case4 s rest _ ih =>
    simp only [textsApart, Bool.and_eq_true] at h ⊢
    rw [startsWithText_collapseTrailingBlank]
    exact ⟨h.1, ih h.2⟩
  | case5 tag cs rest ih =>
    simp only [textsApart, Bool.and_eq_true] at h ⊢
    exact ⟨h.1, ih h.2⟩

/-- Trimming the edges brings no texts together. -/
theorem textsApart_trimEdges {f : Forest} (h : f.textsApart = true) :
    f.trimEdges.textsApart = true :=
  textsApart_collapseTrailingBlank (textsApart_dropLeadingBlank h)

/-- **A document with trimmed edges**, against the document before: blank texts in front of the first
other node are gone, and a blank text at the end is a newline. -/
def EdgesTrimmed (f f' : Forest) : Prop :=
  ∃ blanks core, f = blanks ++ core ∧ blanks.allBlank = true ∧
    (∀ s rest, core = .text s rest → Text.isBlank s = false) ∧
    ((∃ front s, core = front ++ .ofText s ∧ Text.isBlank s = true ∧ f' = front ++ .ofText "\n") ∨
      ((∀ front s, core = front ++ .ofText s → Text.isBlank s = false) ∧ f' = core))

/-- The edges hold no elements. -/
theorem EdgesTrimmed.tags_eq {f f' : Forest} (h : EdgesTrimmed f f') : f'.tags = f.tags := by
  obtain ⟨blanks, core, rfl, hall, -, hend⟩ := h
  rw [tags_append, tags_of_allBlank hall, List.nil_append]
  rcases hend with ⟨front, s, rfl, -, rfl⟩ | ⟨-, rfl⟩
  · simp [tags, ofText]
  · rfl

/-- **Trimming** trims the edges and does nothing else. -/
theorem edgesTrimmed_trimEdges (f : Forest) : EdgesTrimmed f f.trimEdges := by
  obtain ⟨blanks, hf, hall, hfirst⟩ := exists_dropLeadingBlank f
  exact ⟨blanks, f.dropLeadingBlank, hf, hall, hfirst, collapseTrailingBlank_cases _⟩

end ArticleMarkup.Forest
