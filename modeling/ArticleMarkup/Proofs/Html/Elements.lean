import ArticleMarkup.Html.Builder

/-!
# The number of elements of a tree

What the operations of tree construction do to the number of elements: a change at one place adds to
the tree what it adds there, and moving a subtree adds nothing.

## Main statements

- `Builder.elementCount_changeAt_le` — a change at one place
- `Dom.elementCount_extract?` — an element that is taken out
-/

namespace ArticleMarkup.Html

namespace Dom

variable {target n : Nat} {f : Dom → Dom}

theorem elementCount_pushChar (c : Char) (dom : Dom) :
    (dom.pushChar c).elementCount = dom.elementCount := by
  cases dom <;> rfl

theorem elementCount_within? (hf : ∀ dom, (f dom).elementCount ≤ dom.elementCount + n)
    {dom dom' : Dom} (h : dom.within? target f = some dom') :
    dom'.elementCount ≤ dom.elementCount + n := by
  induction dom generalizing dom' with
  | nil => cases h
  | text s older ih =>
    obtain ⟨older', holder, rfl⟩ := Option.map_eq_some_iff.mp h
    have hle := ih holder
    exact hle
  | other older ih =>
    obtain ⟨older', holder, rfl⟩ := Option.map_eq_some_iff.mp h
    have hle := ih holder
    exact hle
  | element id space tag cs older ihcs iholder =>
    rw [within?] at h
    split at h
    · cases h
      have hcs := hf cs
      simp only [elementCount]
      omega
    · split at h
      · next cs' hcs =>
        cases h
        have hle := ihcs hcs
        simp only [elementCount]
        omega
      · obtain ⟨older', holder, rfl⟩ := Option.map_eq_some_iff.mp h
        have hle := iholder holder
        simp only [elementCount]
        omega

theorem elementCount_besideOlder? (hf : ∀ dom, (f dom).elementCount ≤ dom.elementCount + n)
    {dom dom' : Dom} (h : dom.besideOlder? target f = some dom') :
    dom'.elementCount ≤ dom.elementCount + n := by
  induction dom generalizing dom' with
  | nil => cases h
  | text s older ih =>
    obtain ⟨older', holder, rfl⟩ := Option.map_eq_some_iff.mp h
    have hle := ih holder
    exact hle
  | other older ih =>
    obtain ⟨older', holder, rfl⟩ := Option.map_eq_some_iff.mp h
    have hle := ih holder
    exact hle
  | element id space tag cs older ihcs iholder =>
    rw [besideOlder?] at h
    split at h
    · cases h
      have holder := hf older
      simp only [elementCount]
      omega
    · split at h
      · next cs' hcs =>
        cases h
        have hle := ihcs hcs
        simp only [elementCount]
        omega
      · obtain ⟨older', holder, rfl⟩ := Option.map_eq_some_iff.mp h
        have hle := iholder holder
        simp only [elementCount]
        omega

/-- **An element that is taken out** is missing from the tree with all that is in it. -/
theorem elementCount_extract? {dom node rest : Dom} (h : dom.extract? target = some (node, rest)) :
    node.elementCount + rest.elementCount = dom.elementCount := by
  induction dom generalizing node rest with
  | nil => cases h
  | text s older ih =>
    obtain ⟨⟨node', rest'⟩, holder, heq⟩ := Option.map_eq_some_iff.mp h
    cases heq
    have hle := ih holder
    exact hle
  | other older ih =>
    obtain ⟨⟨node', rest'⟩, holder, heq⟩ := Option.map_eq_some_iff.mp h
    cases heq
    have hle := ih holder
    exact hle
  | element id space tag cs older ihcs iholder =>
    rw [extract?] at h
    split at h
    · cases h
      simp only [elementCount]
      omega
    · split at h
      · next node' cs' hcs =>
        cases h
        have heq := ihcs hcs
        simp only [elementCount]
        omega
      · obtain ⟨⟨node', rest'⟩, holder, heq⟩ := Option.map_eq_some_iff.mp h
        cases heq
        have hsum := iholder holder
        simp only [elementCount]
        omega

theorem elementCount_onTop_le (node siblings : Dom) :
    (onTop node siblings).elementCount ≤ siblings.elementCount + node.elementCount := by
  cases node <;> simp only [onTop, elementCount] <;> omega

end Dom

/-- **A change at one place** adds no more to the tree than it adds there. -/
theorem Builder.elementCount_changeAt_le {n : Nat} {f : Dom → Dom}
    (hf : ∀ dom, (f dom).elementCount ≤ dom.elementCount + n) (dom : Dom) (place : Place) :
    (changeAt dom place f).elementCount ≤ dom.elementCount + n := by
  have hgetD : ∀ changed : Option Dom,
      (∀ dom', changed = some dom' → dom'.elementCount ≤ dom.elementCount + n) →
      (changed.getD dom).elementCount ≤ dom.elementCount + n := by
    intro changed hchanged
    cases changed with
    | none => exact Nat.le_add_right _ _
    | some dom' => exact hchanged dom' rfl
  unfold changeAt
  split
  · exact hf dom
  · exact hgetD _ fun _ => Dom.elementCount_within? hf
  · exact hgetD _ fun _ => Dom.elementCount_besideOlder? hf

end ArticleMarkup.Html
