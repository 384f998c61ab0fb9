import ArticleMarkup.Proofs.Heading.SelfLinks
import ArticleMarkup.Proofs.Render.Limits
import Mathlib.Order.MinMax

/-!
# The nesting of rendered documents

The limit on the nesting is checked when a tree is made, and the passes over the tree rely on it. The
sanitizer only takes elements away, ids change no element's place, and a self-link adds one level to
what it is put around. However headings are nested, nothing gets two links around it: a link goes around
content without headings, and what holds a heading stands outside the links of the heading around it.

## Main statements

- `depth_sanitize_le`, `depth_assignHeadingIds`, `depth_linkHeadings_le` — each pass for itself
- `Renderer.depth_headings_le` — ids and links together
- `Renderer.depth_headings_of_lowered` — **what the limit on the nesting means for the passes after it**
-/

namespace ArticleMarkup

-- ════════════════════════════════════════════════════════════════════════
-- Sanitized documents
-- ════════════════════════════════════════════════════════════════════════

theorem depth_clean_le (schema : Schema) (f : Forest) : (schema.clean f).depth ≤ f.depth := by
  induction f with
  | nil => exact le_rfl
  | text s rest ih =>
    rw [Schema.clean, Forest.depth_consText]
    exact ih
  | element tag cs rest ihcs ihrest =>
    rw [Schema.clean, Forest.depth]
    split
    · exact ihrest.trans (Nat.le_max_right _ _)
    · split
      · exact max_le_max (Nat.succ_le_succ ihcs) ihrest
      · rw [Forest.depth_glue]
        exact max_le_max (ihcs.trans (Nat.le_succ _)) ihrest

/-- **Sanitizing** does not nest elements any deeper. -/
theorem depth_sanitize_le (schema : Schema) (document : Forest) :
    (sanitize schema document).depth ≤ document.depth := by
  rw [sanitize, Forest.depth_trimEdges]
  exact depth_clean_le schema document

-- ════════════════════════════════════════════════════════════════════════
-- Documents with ids
-- ════════════════════════════════════════════════════════════════════════

theorem depth_assignIds (a : Anchors) (f : Forest) : (assignIds a f).1.depth = f.depth := by
  induction f generalizing a with
  | nil => rfl
  | text s rest ih => exact ih a
  | element tag cs rest ihcs ihrest =>
    simp only [assignIds, Forest.depth, ihcs, ihrest]

/-- **Ids** leave every element in its place. -/
theorem depth_assignHeadingIds (document : Forest) :
    (assignHeadingIds document).depth = document.depth :=
  depth_assignIds _ document

-- ════════════════════════════════════════════════════════════════════════
-- Linked documents
-- ════════════════════════════════════════════════════════════════════════

theorem Forest.depth_unwrapLinks_le (f : Forest) : f.unwrapLinks.depth ≤ f.depth := by
  induction f with
  | nil => exact le_rfl
  | text s rest ih =>
    rw [unwrapLinks_text, depth_consText]
    exact ih
  | element tag cs rest ihcs ihrest =>
    rw [unwrapLinks_element, depth]
    split
    · rw [depth_glue]
      exact max_le_max (ihcs.trans (Nat.le_succ _)) ihrest
    · exact max_le_max (Nat.succ_le_succ ihcs) ihrest

theorem depth_close_le (cls : String) (s : Surroundings) (rest : Forest) :
    (s.close cls rest).depth ≤ max (s.held.depth + 1) rest.depth := by
  cases s with
  | plain => exact Nat.le_max_right _ _
  | heading href run =>
    show (linkRun cls href run rest).depth ≤ max (run.depth + 1) rest.depth
    unfold linkRun
    split
    · rw [Forest.depth_append]
      exact max_le_max (Nat.le_succ _) le_rfl
    · exact max_le_max (Nat.succ_le_succ run.depth_unwrapLinks_le) le_rfl

variable {cls : String}

theorem depth_linkedContent_le {cs : Forest}
    (hcut : ∀ href, (link cls (.heading href .nil) cs).depth ≤ cs.depth + 1) (tag : Tag) :
    (linkedContent cls tag cs).depth ≤ cs.depth + 1 := by
  cases hid : tag.attr? "id" with
  | none =>
    rw [linkedContent_of_none hid]
    exact Nat.le_succ _
  | some id =>
    rcases linkedContent_cases hid cls cs with
      ⟨a, c, rfl, -, -, -, heq⟩ | ⟨-, heq⟩ | ⟨-, heq⟩
    · -- the link that is there stays the only one
      have hc := c.depth_unwrapLinks_le
      rw [heq]
      simp only [Forest.depth]
      omega
    · rw [heq]
      exact hcut _
    · have hcs := cs.depth_unwrapLinks_le
      rw [heq]
      simp only [Forest.depth]
      omega

/-- **Linking adds one level at most**, also to the content that waits for its link. -/
theorem depth_link_le (s : Surroundings) (f : Forest) :
    (link cls s f).depth ≤ (s.held ++ f).depth + 1 := by
  induction f generalizing s with
  | nil =>
    have hclose := depth_close_le cls s .nil
    rw [link_nil, Forest.append_nil]
    simpa [Forest.depth] using hclose
  | text t rest ih =>
    cases s with
    | plain => exact ih .plain
    | heading href run =>
      have h := ih (.heading href (run ++ .ofText t))
      rw [link_heading_text]
      simpa [Surroundings.held, Forest.append_assoc, Forest.ofText] using h
  | element tag cs rest ihcs ihrest =>
    rcases link_element_cases cls s tag cs rest with ⟨-, heq⟩ | ⟨href, run, rfl, -, -, heq⟩
    · -- the waiting content ends here, so the element and what is in it are in no link of the
      -- surroundings
      have hchildren : (linkedChildren cls tag cs).depth ≤ cs.depth + 1 := by
        unfold linkedChildren
        split
        · exact depth_linkedContent_le (fun href => ihcs (.heading href .nil)) tag
        · exact ihcs .plain
      have hafter := ihrest s.cleared
      rw [Surroundings.held_cleared, Forest.nil_append] at hafter
      have hclose := depth_close_le cls s
        (.element tag (linkedChildren cls tag cs) (link cls s.cleared rest))
      rw [heq, Forest.depth_append]
      simp only [Forest.depth] at hclose ⊢
      omega
    · have h := ihrest (.heading href (run ++ .single tag cs))
      rw [heq]
      simpa [Surroundings.held, Forest.append_assoc, Forest.single] using h

/-- **Self-links** add one level at most. -/
theorem depth_linkHeadings_le (cls : String) (document : Forest) :
    (linkHeadings cls document).depth ≤ document.depth + 1 :=
  depth_link_le .plain document

-- ════════════════════════════════════════════════════════════════════════
-- The passes together
-- ════════════════════════════════════════════════════════════════════════

namespace Renderer

variable (r : Renderer)

theorem depth_headings_le (document : Forest) :
    (r.headings document).1.depth ≤ document.depth + 1 := by
  unfold headings
  simp only
  split
  · have hlinked := depth_linkHeadings_le r.config.anchorClass (assignHeadingIds document)
    rwa [depth_assignHeadingIds] at hlinked
  · rw [depth_assignHeadingIds]
    exact Nat.le_succ _

/-- **What the limit on the nesting means for the passes after it.** For every document, the sanitizer
nests nothing deeper, ids leave the depth as it is, and links add one level at most. So a document that
was made within a limit is at most one deeper once its headings are done, sanitized or not. -/
theorem depth_headings_of_lowered (document : Forest) :
    (sanitize r.schema document).depth ≤ document.depth ∧
      (assignHeadingIds document).depth = document.depth ∧
      (∀ cls, (linkHeadings cls document).depth ≤ document.depth + 1) ∧
      ∀ html limit, lowerHtml html limit = .ok document →
        (r.headings (sanitize r.schema document)).1.depth ≤ limit + 1 ∧
          (r.headings document).1.depth ≤ limit + 1 := by
  refine ⟨depth_sanitize_le r.schema document, depth_assignHeadingIds document,
    fun cls => depth_linkHeadings_le cls document, ?_⟩
  intro html limit h
  have hmade : document.depth ≤ limit := depth_le_of_lowerHtml h
  have hclean : (sanitize r.schema document).depth ≤ limit :=
    (depth_sanitize_le r.schema document).trans hmade
  exact ⟨(r.depth_headings_le _).trans (Nat.succ_le_succ hclean),
    (r.depth_headings_le document).trans (Nat.succ_le_succ hmade)⟩

end Renderer

end ArticleMarkup
