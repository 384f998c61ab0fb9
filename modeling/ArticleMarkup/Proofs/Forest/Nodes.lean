import ArticleMarkup.Proofs.Forest.Tags

/-!
# The nodes of a forest

A forest taken apart: its elements, each with what it holds, and its top-level nodes. What is said of
every element of a document, or of the children of one element, is said with these.

## Main definitions

- `Forest.elements` — the elements with their children
- `Forest.nodes` — the top-level nodes, each as a forest
-/

namespace ArticleMarkup.Forest

/-- All elements, at any depth, in document order, each with its children. -/
def elements : Forest → List (Tag × Forest)
  | nil => []
  | text _ rest => rest.elements
  | element tag cs rest => (tag, cs) :: (cs.elements ++ rest.elements)

/-- The top-level nodes in order, each as a forest of its own. -/
def nodes : Forest → List Forest
  | nil => []
  | text s rest => ofText s :: rest.nodes
  | element tag cs rest => single tag cs :: rest.nodes

theorem elements_element (tag : Tag) (cs rest : Forest) :
    (element tag cs rest).elements = (tag, cs) :: (cs.elements ++ rest.elements) := rfl

theorem elements_append (f g : Forest) : (f ++ g).elements = f.elements ++ g.elements := by
  induction f with
  | nil => rfl
  | text s rest ih => exact ih
  | element tag cs rest _ ih => simp [elements_element, ih]

theorem nodes_append (f g : Forest) : (f ++ g).nodes = f.nodes ++ g.nodes := by
  induction f with
  | nil => rfl
  | text s rest ih => exact congrArg (ofText s :: ·) ih
  | element tag cs rest _ ih => exact congrArg (single tag cs :: ·) ih

theorem elements_consText (s : String) (f : Forest) : (f.consText s).elements = f.elements := by
  cases f <;> rfl

theorem elements_glue (f g : Forest) : (f.glue g).elements = f.elements ++ g.elements := by
  rcases glue_cases f g with hglue | ⟨front, s, rfl, hglue⟩
  · rw [hglue, elements_append]
  · rw [hglue]
    rw [elements_append, elements_append, elements_consText, List.append_assoc]
    rfl

/-- What all tags have, the elements and all that they hold have. -/
theorem forall_elements_of_tags {f : Forest} {P : Tag → Prop} (h : ∀ tag ∈ f.tags, P tag) :
    ∀ e ∈ f.elements, P e.1 ∧ ∀ tag ∈ e.2.tags, P tag := by
  induction f with
  | nil => intro e he; cases he
  | text s rest ih => exact ih h
  | element tag cs rest ihcs ihrest =>
    simp only [tags, List.forall_mem_cons, List.forall_mem_append] at h
    simp only [elements_element, List.forall_mem_cons, List.forall_mem_append]
    exact ⟨⟨h.1, h.2.1⟩, ihcs h.2.1, ihrest h.2.2⟩

/-- Blank nodes are texts. -/
theorem blank_of_mem_nodes {f : Forest} (h : f.allBlank = true) :
    ∀ node ∈ f.nodes, ∃ s, node = ofText s ∧ Text.isBlank s = true := by
  induction f with
  | nil => intro node hnode; cases hnode
  | text s rest ih =>
    simp only [allBlank, Bool.and_eq_true] at h
    simp only [nodes, List.forall_mem_cons]
    exact ⟨⟨s, rfl, h.1⟩, ih h.2⟩
  | element tag cs rest => cases h

end ArticleMarkup.Forest
