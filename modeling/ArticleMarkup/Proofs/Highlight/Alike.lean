import ArticleMarkup.Proofs.Heading.SelfLinks
import ArticleMarkup.Proofs.Forest.Outline
import ArticleMarkup.Proofs.Highlight.CodeBlocks

/-!
# Documents that highlighting cannot tell apart

Highlighting makes the spans of a code block from its text. Two documents that differ only in the spans
of code blocks are therefore the same once they are highlighted, and the operations on forests keep them
alike.

## Main definitions

- `OnlySpans` — no element but spans without ids
- `Highlighter.Alike` — forests that differ only in the spans of code blocks

## Main statements

- `Highlighter.Alike.highlight_eq` — highlighting makes them equal
- `Highlighter.Alike.glue`, `Highlighter.Alike.unwrapLinks` — operations keep them alike
-/

namespace ArticleMarkup

namespace Forest

/-- Unwrapping links adds no element. -/
theorem mem_tags_of_mem_tags_unwrapLinks {f : Forest} {tag : Tag} (h : tag ∈ f.unwrapLinks.tags) :
    tag ∈ f.tags := by
  rw [tags_unwrapLinks] at h
  exact (List.mem_filter.mp h).1

end Forest

namespace Highlight

/-- **Nothing but spans** without ids. -/
def OnlySpans (f : Forest) : Prop :=
  ∀ tag ∈ f.tags, tag.name = "span" ∧ tag.attr? "id" = none

namespace OnlySpans

variable {f : Forest}

theorem hasHeading_eq (hf : OnlySpans f) : f.hasHeading = false := by
  refine (Forest.hasHeading_eq_false_iff f).mpr fun tag ht => ?_
  simp [Tag.isHeading, Tag.headingLevel?, (hf tag ht).1]

theorem unwrapLinks (hf : OnlySpans f) : OnlySpans f.unwrapLinks :=
  fun tag ht => hf tag (Forest.mem_tags_of_mem_tags_unwrapLinks ht)

end OnlySpans

/-- The spans of some code are nothing but spans. -/
theorem onlySpans_of_spans {t : Tokenizer} {stem source : String} {spans : Forest}
    (ht : t.spans stem source = .ok spans) : OnlySpans spans := by
  intro tag htag
  obtain ⟨scope, rfl⟩ := t.mem_tags_spans ht htag
  exact ⟨rfl, rfl⟩

namespace Highlighter

variable {h : Highlighter}

/-- The spans of a `code` element are made from its text. -/
theorem spans?_congr (h : Highlighter) (tag : Tag) {content content' : Forest}
    (hsame : content.textContent = content'.textContent) :
    h.spans? tag content = h.spans? tag content' := by
  unfold spans?
  rw [hsame]

/-- **Forests that differ only in the spans of code blocks.** The language of such a block is known,
so its content is going to be replaced; other `pre` elements are the same. -/
inductive Alike (h : Highlighter) : Forest → Forest → Prop where
  | nil : Alike h .nil .nil
  | text {rest rest' : Forest} (s : String) :
      Alike h rest rest' → Alike h (.text s rest) (.text s rest')
  /-- An element over forests that are alike. -/
  | element {cs cs' rest rest' : Forest} {tag : Tag} (hpre : tag.name = "pre" → cs = cs') :
      Alike h cs cs' → Alike h rest rest' → Alike h (.element tag cs rest) (.element tag cs' rest')
  /-- A code block with the same text. -/
  | block {content content' rest rest' spans : Forest} {tag code : Tag} :
      tag.name = "pre" → code.name = "code" → h.spans? code content = some (.ok spans) →
      OnlySpans content → OnlySpans content' → content.textContent = content'.textContent →
      Alike h rest rest' →
      Alike h (.element tag (.element code content .nil) rest)
        (.element tag (.element code content' .nil) rest')

namespace Alike

variable {f f' g g' : Forest}

theorem refl (h : Highlighter) (f : Forest) : h.Alike f f := by
  induction f with
  | nil => exact .nil
  | text s rest ih => exact .text s ih
  | element tag cs rest ihcs ihrest => exact .element (fun _ => rfl) ihcs ihrest

-- ════════════════════════════════════════════════════════════════════════
-- What is the same
-- ════════════════════════════════════════════════════════════════════════

theorem textContent_eq (ha : h.Alike f f') : f.textContent = f'.textContent := by
  induction ha with
  | nil => rfl
  | text s _ ih => exact congrArg (s ++ ·) ih
  | element _ _ _ ihcs ihrest => simp [Forest.textContent, ihcs, ihrest]
  | block _ _ _ _ _ htext _ ih => simp [Forest.textContent, htext, ih]

theorem outline_eq (ha : h.Alike f f') : f.outline = f'.outline := by
  induction ha with
  | nil => rfl
  | text s _ ih => exact congrArg (some s :: ·) ih
  | element _ _ _ _ ih => exact congrArg (none :: ·) ih
  | block _ _ _ _ _ _ _ ih => exact congrArg (none :: ·) ih

theorem allBlank_eq (ha : h.Alike f f') : f.allBlank = f'.allBlank := by
  induction ha with
  | nil => rfl
  | text s _ ih => exact congrArg (Text.isBlank s && ·) ih
  | element => rfl
  | block => rfl

theorem hasHeading_eq (ha : h.Alike f f') : f.hasHeading = f'.hasHeading := by
  induction ha with
  | nil => rfl
  | text s _ ih => exact ih
  | element _ _ _ ihcs ihrest => rw [Forest.hasHeading_element, ihcs, ihrest]; rfl
  | block _ _ _ hf hf' _ _ ih =>
    simp only [Forest.hasHeading_element, hf.hasHeading_eq, hf'.hasHeading_eq, ih]

/-- **Highlighting makes them equal.** -/
theorem highlight_eq (ha : h.Alike f f') : h.highlight f = h.highlight f' := by
  induction ha with
  | nil => rfl
  | text s _ ih => exact congrArg (Forest.text s) ih
  | @element cs cs' rest rest' tag hsame _ _ ihcs ihrest =>
    by_cases hpre : tag.name = "pre"
    · have hsplit := h.highlight_append (.single tag cs')
      rw [hsame hpre]
      exact (hsplit rest).trans ((congrArg _ ihrest).trans (hsplit rest').symm)
    · rw [h.highlight_element_of_ne hpre, h.highlight_element_of_ne hpre, ihcs, ihrest]
  | @block content content' rest rest' spans tag code hpre hcode hspans _ _ htext _ ih =>
    have hb : h.blockSpans? (.element code content .nil) = some (.ok spans) := by
      rw [blockSpans?, if_pos hcode, hspans]
    have hb' : h.blockSpans? (.element code content' .nil) = some (.ok spans) := by
      rw [blockSpans?, if_pos hcode, ← h.spans?_congr code htext, hspans]
    rw [highlight_of_blockSpans hpre hb, highlight_of_blockSpans hpre hb', ih]
    rfl

-- ════════════════════════════════════════════════════════════════════════
-- What keeps them alike
-- ════════════════════════════════════════════════════════════════════════

theorem append (ha : h.Alike f f') (hb : h.Alike g g') : h.Alike (f ++ g) (f' ++ g') := by
  induction ha with
  | nil => exact hb
  | text s _ ih => exact .text s ih
  | element hpre hcs _ _ ih => exact .element hpre hcs ih
  | block hpre hcode hspans hf hf' htext _ ih => exact .block hpre hcode hspans hf hf' htext ih

theorem consText (s : String) (ha : h.Alike f f') : h.Alike (f.consText s) (f'.consText s) := by
  cases ha with
  | nil => exact .text s .nil
  | text t hrest => exact .text (s ++ t) hrest
  | element hpre hcs hrest => exact .text s (.element hpre hcs hrest)
  | block hpre hcode hspans hf hf' htext hrest =>
    exact .text s (.block hpre hcode hspans hf hf' htext hrest)

theorem glue (ha : h.Alike f f') (hb : h.Alike g g') : h.Alike (f.glue g) (f'.glue g') := by
  induction ha with
  | nil => exact hb
  | text s hrest ih =>
    cases hrest with
    | nil => exact hb.consText s
    | text t hrest => exact .text s ih
    | element hpre hcs hrest => exact .text s ih
    | block hpre hcode hspans hf hf' htext hrest => exact .text s ih
  | element hpre hcs _ _ ih => exact .element hpre hcs ih
  | block hpre hcode hspans hf hf' htext _ ih => exact .block hpre hcode hspans hf hf' htext ih

theorem unwrapLinks (ha : h.Alike f f') : h.Alike f.unwrapLinks f'.unwrapLinks := by
  induction ha with
  | nil => exact .nil
  | text s _ ih => exact ih.consText s
  | @element cs cs' rest rest' tag hsame _ _ ihcs ihrest =>
    rw [Forest.unwrapLinks_element, Forest.unwrapLinks_element]
    split
    · exact ihcs.glue ihrest
    · exact .element (fun hpre => congrArg Forest.unwrapLinks (hsame hpre)) ihcs ihrest
  | @block content content' rest rest' spans tag code hpre hcode hspans hf hf' htext _ ih =>
    have hlink : tag.name ≠ "a" := by rw [hpre]; decide
    have hlink' : code.name ≠ "a" := by rw [hcode]; decide
    have htext' : content.unwrapLinks.textContent = content'.unwrapLinks.textContent := by
      rw [Forest.textContent_unwrapLinks, Forest.textContent_unwrapLinks, htext]
    have hspans' : h.spans? code content.unwrapLinks = some (.ok spans) := by
      rw [← hspans]
      exact h.spans?_congr code (Forest.textContent_unwrapLinks content)
    simp only [Forest.unwrapLinks_element_of_ne hlink, Forest.unwrapLinks_element_of_ne hlink']
    exact .block hpre hcode hspans' hf.unwrapLinks hf'.unwrapLinks htext' ih

end Alike

end Highlighter

end Highlight

end ArticleMarkup
