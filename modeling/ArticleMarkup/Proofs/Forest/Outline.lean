import ArticleMarkup.Proofs.Forest.Retag

/-!
# The outline of a forest

Whether the edges of a document are trimmed depends on its top-level texts, and on where elements
stand between them, but on nothing inside the elements.

## Main definitions

- `Forest.outline` — the top-level nodes without what elements hold
- `TrimmedOutline` — no blank text in front, and none but a newline at the end

## Main statements

- `Forest.trimEdges_eq_self_iff` — the outline says whether the edges are trimmed
-/

namespace ArticleMarkup

namespace Forest

/-- The top-level nodes: texts as they are, elements without their tags and contents. -/
def outline : Forest → List (Option String)
  | nil => []
  | text s rest => some s :: rest.outline
  | element _ _ rest => none :: rest.outline

theorem outline_eq_nil_iff {f : Forest} : f.outline = [] ↔ f = nil := by
  cases f <;> simp [outline]

end Forest

/-- **An outline with trimmed edges**: it does not begin with a blank text, and does not end with one
other than a newline. -/
structure TrimmedOutline (nodes : List (Option String)) : Prop where
  /-- A text in front is not blank. -/
  front : ∀ s, nodes.head? = some (some s) → Text.isBlank s = false
  /-- A blank text at the end is a newline. -/
  back : ∀ s, nodes.getLast? = some (some s) → Text.isBlank s = true → s = "\n"

namespace Forest

theorem dropLeadingBlank_eq_self_iff (f : Forest) : f.dropLeadingBlank = f ↔
    ∀ s, f.outline.head? = some (some s) → Text.isBlank s = false := by
  constructor
  · intro h s hs
    obtain ⟨blanks, -, -, hfirst⟩ := exists_dropLeadingBlank f
    cases f with
    | nil => cases hs
    | text t rest =>
      simp only [outline, List.head?_cons, Option.some.injEq] at hs
      exact hs ▸ hfirst t rest h
    | element tag cs rest => simp [outline] at hs
  · intro h
    cases f with
    | nil => rfl
    | text s rest => rw [dropLeadingBlank, h s rfl, if_neg Bool.false_ne_true]
    | element tag cs rest => rfl

theorem collapseTrailingBlank_eq_self_iff (f : Forest) : f.collapseTrailingBlank = f ↔
    ∀ s, f.outline.getLast? = some (some s) → Text.isBlank s = true → s = "\n" := by
  fun_induction collapseTrailingBlank f with
  | case1 => simp [outline]
  | case2 s hblank =>
    have hsame : text "\n" nil = text s nil ↔ s = "\n" :=
      ⟨fun h => by cases h; rfl, fun h => by rw [h]⟩
    simp [hsame, outline, hblank]
  | case3 s hblank => simp [outline, hblank]
  | case4 s rest hne ih =>
    obtain ⟨node, nodes, hnodes⟩ := List.exists_cons_of_ne_nil (mt outline_eq_nil_iff.mp hne)
    simp only [text.injEq, true_and, ih, outline, hnodes, List.getLast?_cons_cons]
  | case5 tag cs rest ih =>
    simp only [element.injEq, true_and, ih, outline, List.getLast?_cons]
    cases rest.outline.getLast? <;> simp

/-- **The outline says whether the edges are trimmed.** -/
theorem trimEdges_eq_self_iff (f : Forest) : f.trimEdges = f ↔ TrimmedOutline f.outline := by
  constructor
  · intro h
    have hfront := dropLeadingBlank_trimEdges f
    have hback : f.trimEdges.collapseTrailingBlank = f.trimEdges :=
      collapseTrailingBlank_collapseTrailingBlank _
    rw [h] at hfront hback
    exact ⟨(dropLeadingBlank_eq_self_iff f).mp hfront, (collapseTrailingBlank_eq_self_iff f).mp hback⟩
  · intro h
    rw [trimEdges, (dropLeadingBlank_eq_self_iff f).mpr h.front,
      (collapseTrailingBlank_eq_self_iff f).mpr h.back]

end Forest

end ArticleMarkup
