import ArticleMarkup.Proofs.Highlight.Hidden

/-!
# What highlighting touches

Highlighting touches code blocks and nothing else. Around the `pre` elements a document stays as it is,
and so does a `pre` element, unless it is a code block in a known language that can be read. Of such a
block the class list changes, and the children of its `code` element give way to spans with the same text.

## Main definitions

- `Forest.hollow` — a document without what its `pre` elements hold, and without their class lists
- `Forest.outside` — the elements that stand in no `pre` element
- `Highlighter.Becomes` — what highlighting may make of an element

## Main statements

- `Highlighter.hollow_highlight`, `Highlighter.becomes_highlight` — what stays and what changes
- `Highlighter.highlight_touches` — what changes, what stays, and that a second time nothing changes
-/

namespace ArticleMarkup

namespace Forest

/-- **Around the code**: the document without the content of its outermost `pre` elements and without
their class lists. -/
def hollow : Forest → Forest
  | nil => nil
  | text s rest => text s rest.hollow
  | element tag cs rest =>
    if tag.name = "pre" then element tag.withoutClasses nil rest.hollow
    else element tag cs.hollow rest.hollow

/-- The elements that stand in no `pre` element, in document order, each with its children. -/
def outside : Forest → List (Tag × Forest)
  | nil => []
  | text _ rest => rest.outside
  | element tag cs rest =>
    if tag.name = "pre" then (tag, cs) :: rest.outside
    else (tag, cs) :: (cs.outside ++ rest.outside)

theorem outside_element_of_ne {tag : Tag} (hpre : tag.name ≠ "pre") (cs rest : Forest) :
    (element tag cs rest).outside = (tag, cs) :: (cs.outside ++ rest.outside) := by
  rw [outside, if_neg hpre]

theorem outside_pre {tag : Tag} (hpre : tag.name = "pre") (cs rest : Forest) :
    (element tag cs rest).outside = (tag, cs) :: rest.outside := by
  rw [outside, if_pos hpre]

end Forest

namespace Highlight.Highlighter

variable {h : Highlighter}

/-- **What may become of an element** that stands in no `pre` element. -/
inductive Becomes (h : Highlighter) : Tag × Forest → Tag × Forest → Prop where
  /-- Only a `pre` element can be a code block. The tag of another element stays, and so does its text. -/
  | other {tag : Tag} {cs cs' : Forest} (hname : tag.name ≠ "pre")
      (htext : cs'.textContent = cs.textContent) : Becomes h (tag, cs) (tag, cs')
  /-- What is no code block, or names no known language, or cannot be read, stays as it is. -/
  | kept {tag : Tag} {cs : Forest} (hname : tag.name = "pre")
      (hno : ¬∃ code content spans, h.Reads cs code content spans) : Becomes h (tag, cs) (tag, cs)
  /-- The spans take the place of what the `code` element held. -/
  | highlighted {tag tag' code : Tag} {content spans : Forest} (hname : tag.name = "pre")
      (hread : h.Reads (.single code content) code content spans)
      (hclass : tag'.hasClass blockClass = true)
      (htext : spans.textContent = content.textContent) :
      Becomes h (tag, .single code content) (tag', .single code spans)

-- ════════════════════════════════════════════════════════════════════════
-- One element
-- ════════════════════════════════════════════════════════════════════════

/-- **One `pre` element**: a code block that can be read gets its spans and its class, and all others
stay. -/
theorem becomes_pre (h : Highlighter) {tag : Tag} (hpre : tag.name = "pre") (cs rest : Forest) :
    ∃ tag' cs', h.highlight (.element tag cs rest) = .element tag' cs' (h.highlight rest) ∧
      tag'.name = "pre" ∧ tag'.withoutClasses = tag.withoutClasses ∧
      h.Becomes (tag, cs) (tag', cs') := by
  by_cases hr : ∃ code content spans, h.Reads cs code content spans
  · obtain ⟨code, content, spans, hr⟩ := hr
    refine ⟨_, _, highlight_of_reads hpre hr rest, (tag.name_addClass blockClass).trans hpre,
      tag.withoutClasses_addClass blockClass, ?_⟩
    obtain rfl := hr.only
    exact .highlighted hpre hr (tag.hasClass_addClass isWord_blockClass) hr.textContent_eq
  · exact ⟨tag, cs, highlight_of_not_reads hpre hr rest, hpre, rfl, .kept hpre hr⟩

-- ════════════════════════════════════════════════════════════════════════
-- Documents
-- ════════════════════════════════════════════════════════════════════════

theorem hollow_highlight (h : Highlighter) (f : Forest) : (h.highlight f).hollow = f.hollow := by
  induction f with
  | nil => rfl
  | text s rest ih => exact congrArg (Forest.text s) ih
  | element tag cs rest ihcs ihrest =>
    by_cases hpre : tag.name = "pre"
    · obtain ⟨tag', cs', heq, hpre', htag, -⟩ := h.becomes_pre hpre cs rest
      rw [heq, Forest.hollow, if_pos hpre', htag, ihrest, Forest.hollow, if_pos hpre]
    · rw [h.highlight_element_of_ne hpre, Forest.hollow, if_neg hpre, ihcs, ihrest, Forest.hollow,
        if_neg hpre]

theorem becomes_highlight (h : Highlighter) (f : Forest) :
    List.Forall₂ h.Becomes f.outside (h.highlight f).outside := by
  induction f with
  | nil => exact .nil
  | text s rest ih => exact ih
  | element tag cs rest ihcs ihrest =>
    by_cases hpre : tag.name = "pre"
    · obtain ⟨tag', cs', heq, hpre', -, hbecomes⟩ := h.becomes_pre hpre cs rest
      rw [heq, Forest.outside_pre hpre, Forest.outside_pre hpre']
      exact .cons hbecomes ihrest
    · rw [h.highlight_element_of_ne hpre, Forest.outside_element_of_ne hpre,
        Forest.outside_element_of_ne hpre]
      exact .cons (.other hpre (h.textContent_highlight cs)) (List.rel_append ihcs ihrest)

/-- **Highlighting touches code blocks and nothing else.** Around the `pre` elements nothing changes.
Each element that stands in no `pre` element keeps its text; a code block that can be read gets spans and
a class, and every other `pre` element stays as it is. The text of the document stays, and highlighting it
again changes nothing. -/
theorem highlight_touches (h : Highlighter) (f : Forest) :
    (h.highlight f).hollow = f.hollow ∧
      List.Forall₂ h.Becomes f.outside (h.highlight f).outside ∧
      (h.highlight f).textContent = f.textContent ∧
      h.highlight (h.highlight f) = h.highlight f :=
  ⟨h.hollow_highlight f, h.becomes_highlight f, h.textContent_highlight f, h.highlight_highlight f⟩

end Highlight.Highlighter

end ArticleMarkup
