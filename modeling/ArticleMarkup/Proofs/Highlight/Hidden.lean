import ArticleMarkup.Proofs.Highlight.Alike

/-!
# Headings that highlighting hides

Highlighting replaces the content of a code block by spans, so a heading in it is no longer there. Apart
from that a highlighted document is much like the document before: its texts stand apart, it holds the
same links, and highlighting it again changes nothing.

## Main definitions

- `Highlighter.hides` — some code block that is highlighted holds a heading
- `Highlighter.hidesInHeading` — such a block stands in the content of a heading
- `Highlighter.blind` — the highlighter that knows no language

## Main statements

- `Highlighter.hasHeading_highlight` — unless one is hidden, the headings are still there
- `Highlighter.hides_highlight` — a highlighted document hides none
- `Highlighter.textsApart_highlight` — highlighting brings no texts together
-/

namespace ArticleMarkup

namespace Highlight

-- ════════════════════════════════════════════════════════════════════════
-- Spans
-- ════════════════════════════════════════════════════════════════════════

theorem textsApart_spanAround {stem : String} {scope : Scope} {inner rest : Forest}
    (hinner : inner.textsApart = true) (hrest : rest.textsApart = true) :
    (spanAround stem scope inner rest).textsApart = true := by
  unfold spanAround
  split
  · exact hrest
  · simp [Forest.textsApart, hinner, hrest]

/-- A piece brings no texts together. -/
theorem textsApart_consPiece (stem : String) (piece : Piece) {row : List Forest}
    (hrow : ∀ f ∈ row, f.textsApart = true) :
    ∀ f ∈ consPiece stem piece row, f.textsApart = true := by
  match piece, row with
  | .text s, [] => simp [consPiece, Forest.ofText, Forest.textsApart, Forest.startsWithText]
  | .text s, inner :: outer =>
    rw [List.forall_mem_cons] at hrow
    exact List.forall_mem_cons.mpr ⟨Forest.textsApart_consText s hrow.1, hrow.2⟩
  | .mark .pop, row => exact List.forall_mem_cons.mpr ⟨rfl, hrow⟩
  | .mark (.push _), [] => exact hrow
  | .mark (.push scope), [inner] =>
    rw [List.forall_mem_singleton] at hrow
    exact List.forall_mem_singleton.mpr (textsApart_spanAround hrow rfl)
  | .mark (.push scope), inner :: rest :: outer =>
    simp only [List.forall_mem_cons] at hrow
    exact List.forall_mem_cons.mpr ⟨textsApart_spanAround hrow.1 hrow.2.1, hrow.2.2⟩

/-- **In spans no two texts are neighbours.** -/
theorem textsApart_spans (stem : String) (pieces : List Piece) :
    (spans stem pieces).textsApart = true := by
  apply spans_of_row (P := fun f => f.textsApart = true) rfl
  · intro f g hf hg
    exact Forest.textsApart_glue hf hg
  · intro piece _ row hrow
    exact textsApart_consPiece stem piece hrow

namespace Highlighter

variable (h : Highlighter)

-- ════════════════════════════════════════════════════════════════════════
-- Highlighted forests
-- ════════════════════════════════════════════════════════════════════════

/-- **The cases of a highlighted `pre` element**: a code block whose content is replaced, or an element
that stays as it is. -/
theorem highlight_pre {tag : Tag} (hpre : tag.name = "pre") (cs rest : Forest) :
    (∃ code content spans, cs = .element code content .nil ∧ code.name = "code" ∧
      h.spans? code content = some (.ok spans) ∧
      (∃ t : Tokenizer, t.spans h.stem content.textContent = .ok spans) ∧
      h.highlight (.element tag cs rest) =
        .element (tag.addClass blockClass) (.element code spans .nil) (h.highlight rest)) ∨
    h.highlight (.element tag cs rest) = .element tag cs (h.highlight rest) := by
  by_cases hr : ∃ code content spans, h.Reads cs code content spans
  · obtain ⟨code, content, spans, hr⟩ := hr
    obtain ⟨-, t, -, -, ht⟩ := hr.read
    exact .inl ⟨code, content, spans, hr.only, hr.name, hr.spans?_eq, ⟨t, ht⟩,
      highlight_of_reads hpre hr rest⟩
  · exact .inr (highlight_of_not_reads hpre hr rest)

/-- Blank texts hold no code. -/
theorem highlight_of_allBlank {f : Forest} (hf : f.allBlank = true) : h.highlight f = f := by
  induction f with
  | nil => rfl
  | text s rest ih => exact congrArg (Forest.text s) (ih (Bool.and_eq_true_iff.mp hf).2)
  | element tag cs rest => cases hf

theorem outline_highlight (f : Forest) : (h.highlight f).outline = f.outline := by
  induction f with
  | nil => rfl
  | text s rest ih => exact congrArg (some s :: ·) ih
  | element tag cs rest _ ih =>
    rcases h.highlight_element tag cs rest with
      ⟨code, content, spans, -, -, -, -, heq, -⟩ | ⟨-, heq, -⟩ | ⟨-, heq, -⟩ <;>
    · rw [heq]
      exact congrArg (none :: ·) ih

theorem startsWithText_highlight (f : Forest) :
    (h.highlight f).startsWithText = f.startsWithText := by
  cases f with
  | nil => rfl
  | text s rest => rfl
  | element tag cs rest =>
    rcases h.highlight_element tag cs rest with
      ⟨code, content, spans, -, -, -, -, heq, -⟩ | ⟨-, heq, -⟩ | ⟨-, heq, -⟩ <;>
    · rw [heq]
      rfl

/-- **Highlighting brings no texts together.** -/
theorem textsApart_highlight {f : Forest} (hf : f.textsApart = true) :
    (h.highlight f).textsApart = true := by
  induction f with
  | nil => rfl
  | text s rest ih =>
    simp only [Forest.textsApart, Bool.and_eq_true] at hf
    simp only [highlight_text, Forest.textsApart, Bool.and_eq_true, startsWithText_highlight]
    exact ⟨hf.1, ih hf.2⟩
  | element tag cs rest ihcs ihrest =>
    simp only [Forest.textsApart, Bool.and_eq_true] at hf
    rcases h.highlight_element tag cs rest with
      ⟨code, content, spans, -, -, -, ⟨t, ht⟩, heq, -⟩ | ⟨-, heq, -⟩ | ⟨-, heq, -⟩
    · obtain ⟨ps, rfl, -⟩ := t.spans_eq_ok ht
      rw [heq]
      simp [Forest.textsApart, textsApart_spans, ihrest hf.2]
    · simp [heq, Forest.textsApart, hf.1, ihrest hf.2]
    · simp [heq, Forest.textsApart, ihcs hf.1, ihrest hf.2]

-- ════════════════════════════════════════════════════════════════════════
-- Hidden headings
-- ════════════════════════════════════════════════════════════════════════

/-- **A heading is hidden**: some code block that is highlighted holds one. -/
def hides (h : Highlighter) (f : Forest) : Bool :=
  (h.replaced f).any Forest.hasHeading

/-- **A heading is hidden in a heading**: the code block stands in the content of a heading. -/
def hidesInHeading (h : Highlighter) : Forest → Bool
  | .nil => false
  | .text _ rest => h.hidesInHeading rest
  | .element tag cs rest =>
    (if tag.name = "pre" then false else if tag.isHeading then h.hides cs else h.hidesInHeading cs)
      || h.hidesInHeading rest

/-- **Highlighting twice** is highlighting once. -/
theorem highlight_highlight (f : Forest) : h.highlight (h.highlight f) = h.highlight f := by
  induction f with
  | nil => rfl
  | text s rest ih => exact congrArg (Forest.text s) ih
  | element tag cs rest ihcs ihrest =>
    by_cases hpre : tag.name = "pre"
    · by_cases hr : ∃ code content spans, h.Reads cs code content spans
      · obtain ⟨code, content, spans, hr⟩ := hr
        have hname : (tag.addClass blockClass).name = "pre" := by simpa using hpre
        rw [highlight_of_reads hpre hr, highlight_of_reads hname hr.again,
          tag.addClass_addClass isWord_blockClass, ihrest]
      · rw [highlight_of_not_reads hpre hr, highlight_of_not_reads hpre hr, ihrest]
    · rw [highlight_element_of_ne h hpre, highlight_element_of_ne h hpre, ihcs, ihrest]

variable {h}

@[simp] theorem hides_nil : h.hides .nil = false := rfl

@[simp] theorem hides_text (s : String) (rest : Forest) :
    h.hides (.text s rest) = h.hides rest := rfl

theorem hides_append (f g : Forest) : h.hides (f ++ g) = (h.hides f || h.hides g) := by
  rw [hides, h.replaced_append, List.any_append]
  rfl

theorem hides_element_of_ne {tag : Tag} (hpre : tag.name ≠ "pre") (cs rest : Forest) :
    h.hides (.element tag cs rest) = (h.hides cs || h.hides rest) := by
  rw [hides, replaced_element_of_ne h hpre, List.any_append]
  rfl

theorem hides_pre {tag : Tag} (hpre : tag.name = "pre") (cs rest : Forest) :
    h.hides (.element tag cs rest) = false ↔
      (∀ code content spans, cs = .element code content .nil →
        h.blockSpans? cs = some (.ok spans) → content.hasHeading = false) ∧
      h.hides rest = false := by
  by_cases hr : ∃ spans, h.blockSpans? cs = some (.ok spans)
  · obtain ⟨spans, hb⟩ := hr
    obtain ⟨code, content, rfl, -⟩ := blockSpans?_eq_ok hb
    rw [hides, replaced_of_blockSpans hpre hb, List.any_cons, Bool.or_eq_false_iff]
    refine and_congr_left fun _ => ⟨?_, fun hall => hall _ _ _ rfl hb⟩
    rintro hc _ _ _ ⟨⟩ -
    exact hc
  · have hno : ∀ spans, h.blockSpans? cs ≠ some (.ok spans) := fun spans hb => hr ⟨spans, hb⟩
    rw [hides, replaced_of_no_blockSpans hpre hno]
    exact ⟨fun hrest => ⟨fun _ _ spans _ hb => absurd hb (hno spans), hrest⟩, fun hall => hall.2⟩

/-- Without headings none is hidden. -/
theorem hides_of_hasHeading {f : Forest} (hf : f.hasHeading = false) : h.hides f = false := by
  induction f with
  | nil => rfl
  | text s rest ih => exact ih hf
  | element tag cs rest ihcs ihrest =>
    simp only [Forest.hasHeading_element, Bool.or_eq_false_iff] at hf
    by_cases hpre : tag.name = "pre"
    · refine (hides_pre hpre cs rest).mpr ⟨?_, ihrest hf.2⟩
      rintro code content spans rfl -
      simp only [Forest.hasHeading_element, Bool.or_eq_false_iff] at hf
      exact hf.1.2.1.2
    · rw [hides_element_of_ne hpre, ihcs hf.1.2, ihrest hf.2]
      rfl

theorem hidesInHeading_of_hides {f : Forest} (hf : h.hides f = false) :
    h.hidesInHeading f = false := by
  induction f with
  | nil => rfl
  | text s rest ih => exact ih hf
  | element tag cs rest ihcs ihrest =>
    by_cases hpre : tag.name = "pre"
    · simp [hidesInHeading, hpre, ihrest ((hides_pre hpre cs rest).mp hf).2]
    · rw [hides_element_of_ne hpre, Bool.or_eq_false_iff] at hf
      simp [hidesInHeading, hf.1, ihcs hf.1, ihrest hf.2]

/-- **Unless one is hidden**, the headings are still there. -/
theorem hasHeading_highlight {f : Forest} (hf : h.hides f = false) :
    (h.highlight f).hasHeading = f.hasHeading := by
  induction f with
  | nil => rfl
  | text s rest ih => exact ih hf
  | element tag cs rest ihcs ihrest =>
    rcases h.highlight_element tag cs rest with
      ⟨code, content, spans, hpre, rfl, -, ⟨t, ht⟩, heq, hreplaced⟩ | ⟨hpre, heq, -⟩ | ⟨hpre, heq, -⟩
    · rw [hides, hreplaced, List.any_cons, Bool.or_eq_false_iff] at hf
      have hclass : (tag.addClass blockClass).isHeading = tag.isHeading := by
        simp [Tag.isHeading, Tag.headingLevel?]
      simp only [heq, Forest.hasHeading_element, hclass, hf.1,
        (onlySpans_of_spans ht).hasHeading_eq, ihrest hf.2]
    · simp only [heq, Forest.hasHeading_element, ihrest ((hides_pre hpre cs rest).mp hf).2]
    · rw [hides_element_of_ne hpre, Bool.or_eq_false_iff] at hf
      simp only [heq, Forest.hasHeading_element, ihcs hf.1, ihrest hf.2]

/-- **A highlighted document hides no heading.** -/
theorem hides_highlight (f : Forest) : h.hides (h.highlight f) = false := by
  induction f with
  | nil => rfl
  | text s rest ih => exact ih
  | element tag cs rest ihcs ihrest =>
    by_cases hpre : tag.name = "pre"
    · rcases h.highlight_element tag cs rest with
        ⟨code, content, spans, -, -, -, ⟨t, ht⟩, heq, -⟩ | ⟨-, heq, -⟩ | ⟨hno, -⟩
      · rw [heq]
        refine (hides_pre (by simpa using hpre) _ _).mpr ⟨?_, ihrest⟩
        rintro _ _ _ ⟨⟩ -
        exact (onlySpans_of_spans ht).hasHeading_eq
      · -- a block that stays is not highlighted now either
        rw [heq]
        refine (hides_pre hpre _ _).mpr ⟨?_, ihrest⟩
        rintro code content spans rfl hb
        rw [highlight_of_blockSpans hpre hb] at heq
        simp only [withCode, Forest.element.injEq, true_and, and_true] at heq
        obtain ⟨t, ht⟩ := (blockSpans?_eq_ok hb).choose_spec.choose_spec.2.2
        rw [← heq.2]
        exact (onlySpans_of_spans ht).hasHeading_eq
      · exact absurd hpre hno
    · rw [highlight_element_of_ne h hpre, hides_element_of_ne hpre, ihcs, ihrest]
      rfl

/-- Alike forests hide alike. -/
theorem Alike.hides_eq {f f' : Forest} (ha : h.Alike f f') : h.hides f = h.hides f' := by
  induction ha with
  | nil => rfl
  | text s _ ih => exact ih
  | @element cs cs' rest rest' tag hsame _ _ ihcs ihrest =>
    by_cases hpre : tag.name = "pre"
    · cases hsame hpre
      rw [Bool.eq_iff_iff, ← not_iff_not, Bool.not_eq_true, Bool.not_eq_true, hides_pre hpre,
        hides_pre hpre, ihrest]
    · rw [hides_element_of_ne hpre, hides_element_of_ne hpre, ihcs, ihrest]
  | block hpre _ _ hf hf' _ _ ih =>
    rw [Bool.eq_iff_iff, ← not_iff_not, Bool.not_eq_true, Bool.not_eq_true, hides_pre hpre,
      hides_pre hpre, ih]
    refine and_congr_left fun _ => ⟨?_, ?_⟩
    · rintro - _ _ _ ⟨⟩ -
      exact hf'.hasHeading_eq
    · rintro - _ _ _ ⟨⟩ -
      exact hf.hasHeading_eq

/-- The highlighter that knows no language. -/
def blind : Highlighter where
  tokenizer? := fun _ => none

/-- It changes nothing, and so it hides nothing. -/
theorem blind_spec (f : Forest) : blind.highlight f = f ∧ blind.hides f = false := by
  have hno : ∀ cs spans, blind.blockSpans? cs ≠ some (.ok spans) := by
    intro cs spans hb
    unfold blockSpans? spans? blind at hb
    repeat' split at hb
    all_goals simp_all
  induction f with
  | nil => exact ⟨rfl, rfl⟩
  | text s rest ih => exact ⟨congrArg (Forest.text s) ih.1, ih.2⟩
  | element tag cs rest ihcs ihrest =>
    by_cases hpre : tag.name = "pre"
    · refine ⟨?_, (hides_pre hpre cs rest).mpr ⟨?_, ihrest.2⟩⟩
      · rw [highlight_of_no_blockSpans hpre (hno cs), ihrest.1]
      · rintro code content spans - hb
        exact absurd hb (hno _ _)
    · rw [highlight_element_of_ne _ hpre, hides_element_of_ne hpre, ihcs.1, ihcs.2, ihrest.1,
        ihrest.2]
      exact ⟨rfl, rfl⟩

end Highlighter

end Highlight

end ArticleMarkup
