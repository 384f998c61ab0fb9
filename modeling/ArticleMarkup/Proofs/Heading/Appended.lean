import ArticleMarkup.Proofs.Forest.Nodes
import ArticleMarkup.Proofs.Heading.Labels

/-!
# Ids of a document that grows at its end

The ids of elements that are not headings are reserved from the whole document before any heading is
given one, and after that the headings are served in document order. So what is appended to a document
can only reach the headings in front of it through the ids that are reserved.

## Main definitions

- `Forest.ReservesNothing` — no element but a heading carries an id

## Main statements

- `assignHeadingIds_append` — the ids of what stands in front stay, and those behind come after them
- `take_nodes_assignHeadingIds` — the first nodes of a document that is appended to
-/

namespace ArticleMarkup

/-- **No id to reserve**: no element but a heading, at any depth, carries an id. -/
def Forest.ReservesNothing (f : Forest) : Prop :=
  ∀ tag ∈ f.tags, tag.isHeading = false → ∀ id, ¬tag.Carries id

theorem Forest.reservesNothing_element (tag : Tag) (cs rest : Forest) :
    (element tag cs rest).ReservesNothing ↔
      (tag.isHeading = false → ∀ id, ¬tag.Carries id) ∧ cs.ReservesNothing ∧
        rest.ReservesNothing := by
  unfold ReservesNothing
  rw [tags, List.forall_mem_cons, List.forall_mem_append]

-- ════════════════════════════════════════════════════════════════════════
-- Reserving
-- ════════════════════════════════════════════════════════════════════════

theorem reserveIds_append (a : Anchors) (f g : Forest) :
    reserveIds a (f ++ g) = reserveIds (reserveIds a f) g := by
  induction f generalizing a with
  | nil => rfl
  | text s rest ih => exact ih a
  | element tag cs rest _ ih =>
    rw [Forest.element_append, reserveIds_element, reserveIds_element, ih]

theorem reserveOwn_eq_self (a : Anchors) {tag : Tag}
    (h : tag.isHeading = false → ∀ id, ¬tag.Carries id) : reserveOwn a tag = a := by
  unfold reserveOwn
  split
  · next id hheading hown => exact absurd (ownId?_eq_some_iff.mp hown) (h hheading id)
  · rfl

/-- Where there is no id to reserve, the same ids are taken afterwards. -/
theorem reserveIds_eq_self {f : Forest} (hf : f.ReservesNothing) (a : Anchors) :
    reserveIds a f = a := by
  induction f generalizing a with
  | nil => rfl
  | text s rest ih => exact ih hf a
  | element tag cs rest ihcs ihrest =>
    obtain ⟨htag, hcs, hrest⟩ := (Forest.reservesNothing_element tag cs rest).mp hf
    rw [reserveIds_element, reserveOwn_eq_self a htag, ihcs hcs, ihrest hrest]

-- ════════════════════════════════════════════════════════════════════════
-- Serving the headings
-- ════════════════════════════════════════════════════════════════════════

/-- **Headings are served in order**: those of `g` after those of `f`, from the ids that are then
taken. -/
theorem assignIds_append (a : Anchors) (f g : Forest) :
    assignIds a (f ++ g) =
      ((assignIds a f).1 ++ (assignIds (assignIds a f).2 g).1, (assignIds (assignIds a f).2 g).2) := by
  induction f generalizing a with
  | nil => rfl
  | text s rest ih =>
    rw [Forest.text_append, assignIds, ih]
    rfl
  | element tag cs rest _ ih =>
    rw [Forest.element_append, assignIds_element, assignIds_element]
    simp only [ih, Forest.element_append]

/-- The pass keeps the number of top-level nodes. -/
theorem length_nodes_assignIds (a : Anchors) (f : Forest) :
    (assignIds a f).1.nodes.length = f.size := by
  induction f generalizing a with
  | nil => rfl
  | text s rest ih => exact congrArg (· + 1) (ih a)
  | element tag cs rest _ ih =>
    rw [assignIds_element]
    exact congrArg (· + 1) (ih _)

-- ════════════════════════════════════════════════════════════════════════
-- Whole documents
-- ════════════════════════════════════════════════════════════════════════

/-- **What is appended comes after**: the document in front gets the ids that it gets alone, and the
headings behind are served from the ids that are then taken. -/
theorem assignHeadingIds_append (front : Forest) {back : Forest} (h : back.ReservesNothing) :
    assignHeadingIds (front ++ back) =
      assignHeadingIds front ++
        (assignIds (assignIds (reserveIds {} front) front).2 back).1 := by
  have hreserved : reserveIds {} (front ++ back) = reserveIds {} front := by
    rw [reserveIds_append, reserveIds_eq_self h]
  unfold assignHeadingIds
  rw [hreserved, assignIds_append]

/-- **Appending never changes ids.** The first nodes of a document that is appended to are the nodes
of the document alone, if no element of what is appended, other than a heading, carries an id. -/
theorem take_nodes_assignHeadingIds (front back : Forest) (h : back.ReservesNothing) :
    (assignHeadingIds (front ++ back)).nodes.take front.size = (assignHeadingIds front).nodes := by
  have hlength : (assignHeadingIds front).nodes.length = front.size := length_nodes_assignIds _ _
  rw [assignHeadingIds_append front h, Forest.nodes_append, ← hlength, List.take_left]

/-- Two headings with one text, around an element that has the id with the first number. -/
def twinHeadings : Forest :=
  .element ⟨"h2", []⟩ (.ofText "A") (.element ⟨"p", [⟨"id", "a-1"⟩]⟩ .nil
    (.single ⟨"h3", []⟩ (.ofText "A")))

/-- A heading with the id that the first twin was given, and a third twin inside a section whose id is
blank. -/
def laterHeadings : Forest :=
  .element ⟨"h2", [⟨"id", "a"⟩]⟩ (.ofText "B")
    (.single ⟨"section", [⟨"id", " "⟩]⟩ (.single ⟨"h3", []⟩ (.ofText "A")))

theorem take_nodes_assignHeadingIds_laterHeadings :
    laterHeadings.ReservesNothing ∧
      (assignHeadingIds (twinHeadings ++ laterHeadings)).nodes.take 3 =
        [.single ⟨"h2", [⟨"id", "a"⟩]⟩ (.ofText "A"), .single ⟨"p", [⟨"id", "a-1"⟩]⟩ .nil,
          .single ⟨"h3", [⟨"id", "a-2"⟩]⟩ (.ofText "A")] := by
  have hquiet : laterHeadings.ReservesNothing := by
    have hnone : ∀ tag ∈ laterHeadings.tags, tag.isHeading = false → ownId? tag = none := by decide
    intro tag htag hother id hid
    rw [← ownId?_eq_some_iff, hnone tag htag hother] at hid
    cases hid
  have halone : (assignHeadingIds twinHeadings).nodes =
      [.single ⟨"h2", [⟨"id", "a"⟩]⟩ (.ofText "A"), .single ⟨"p", [⟨"id", "a-1"⟩]⟩ .nil,
        .single ⟨"h3", [⟨"id", "a-2"⟩]⟩ (.ofText "A")] := by
    decide
  exact ⟨hquiet, (take_nodes_assignHeadingIds twinHeadings laterHeadings hquiet).trans halone⟩

-- an id of another element that is appended does reach the headings in front
example : assignHeadingIds (.element ⟨"h2", []⟩ (.ofText "A") (.single ⟨"p", [⟨"id", "a"⟩]⟩ .nil)) =
    .element ⟨"h2", [⟨"id", "a-1"⟩]⟩ (.ofText "A") (.single ⟨"p", [⟨"id", "a"⟩]⟩ .nil) := by
  decide

end ArticleMarkup
