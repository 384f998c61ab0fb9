import ArticleMarkup.Highlight.CodeBlocks
import ArticleMarkup.Proofs.Attributes.Classes
import ArticleMarkup.Proofs.Highlight.Spans

/-!
# What highlighting keeps

Highlighting keeps the text of a document and all its elements, apart from those inside the code
blocks that it replaces. A heading in such a code block is lost; no other heading is, and none is
added or moved.

## Main definitions

- `Highlighter.replaced` — the contents of the code blocks that are highlighted
- `Highlighter.Reads` — a code block that can be read, with its spans

## Main statements

- `Highlighter.reads_iff` — the code blocks that can be read are those that have spans
- `Highlighter.textContent_highlight` — the text stays
- `Highlighter.of_mem_tags_highlight` — the tags stay, but for classes and spans
- `Highlighter.headings_perm` — a heading is kept or stands in a block that is highlighted
-/

namespace ArticleMarkup

namespace Highlight

theorem isWord_blockClass : Text.IsWord blockClass := by
  decide

namespace Highlighter

variable {h : Highlighter}

/-- The contents of the `code` elements that highlighting replaces by spans. -/
def replaced (h : Highlighter) : Forest → List Forest
  | .nil => []
  | .text _ rest => h.replaced rest
  | .element tag cs rest =>
    if tag.name = "pre" then
      match h.blockSpans? cs, cs with
      | some (.ok _), .element _ content _ => content :: h.replaced rest
      | _, _ => h.replaced rest
    else h.replaced cs ++ h.replaced rest

-- ════════════════════════════════════════════════════════════════════════
-- One code block
-- ════════════════════════════════════════════════════════════════════════

/-- **A code block that can be read**: it holds one `code` element and nothing else, the classes of that
element name a language, the language is known, and its tokenizer finds these spans in the text. -/
structure Reads (h : Highlighter) (block : Forest) (code : Tag) (content spans : Forest) : Prop where
  only : block = .single code content
  name : code.name = "code"
  read : ∃ language t, codeLanguage? code = some language ∧ h.tokenizer? language = some t ∧
    t.spans h.stem content.textContent = .ok spans

theorem Reads.spans?_eq {block content spans : Forest} {code : Tag}
    (hr : h.Reads block code content spans) : h.spans? code content = some (.ok spans) := by
  obtain ⟨language, t, hlanguage, ht, hspans⟩ := hr.read
  simp [spans?, hlanguage, ht, hspans]

theorem Reads.textContent_eq {block content spans : Forest} {code : Tag}
    (hr : h.Reads block code content spans) : spans.textContent = content.textContent := by
  obtain ⟨-, t, -, -, hspans⟩ := hr.read
  exact t.textContent_spans hspans

/-- Once it holds its spans, a block is read to the same spans. -/
theorem Reads.again {block content spans : Forest} {code : Tag}
    (hr : h.Reads block code content spans) : h.Reads (.single code spans) code spans spans := by
  obtain ⟨language, t, hlanguage, ht, hspans⟩ := hr.read
  refine ⟨rfl, hr.name, language, t, hlanguage, ht, ?_⟩
  rw [hr.textContent_eq, hspans]

/-- **The code blocks that can be read** are the blocks that have spans. -/
theorem reads_iff {block spans : Forest} :
    h.blockSpans? block = some (.ok spans) ↔ ∃ code content, h.Reads block code content spans := by
  constructor
  · intro hb
    unfold blockSpans? at hb
    split at hb
    · next code content =>
      split at hb
      · next hname =>
        refine ⟨code, content, rfl, hname, ?_⟩
        unfold spans? at hb
        split at hb
        · cases hb
        · next language hlanguage =>
          split at hb
          · cases hb
          · next t ht =>
            split at hb
            · cases hb
            · next f hf =>
              cases hb
              exact ⟨language, t, hlanguage, ht, hf⟩
      · cases hb
    · cases hb
  · rintro ⟨code, content, hr⟩
    have hspans := hr.spans?_eq
    obtain ⟨rfl, hcode, -⟩ := hr
    rw [Forest.single, blockSpans?, if_pos hcode, hspans]

/-- A block that is highlighted is a `code` element, and the spans are made from its text. -/
theorem blockSpans?_eq_ok {cs spans : Forest} (hb : h.blockSpans? cs = some (.ok spans)) :
    ∃ tag content, cs = .element tag content .nil ∧ tag.name = "code" ∧
      ∃ t : Tokenizer, t.spans h.stem content.textContent = .ok spans := by
  obtain ⟨code, content, hr⟩ := reads_iff.mp hb
  obtain ⟨-, t, -, -, hspans⟩ := hr.read
  exact ⟨code, content, hr.only, hr.name, t, hspans⟩

@[simp] theorem highlight_text (h : Highlighter) (s : String) (rest : Forest) :
    h.highlight (.text s rest) = .text s (h.highlight rest) := rfl

theorem highlight_element_of_ne (h : Highlighter) {tag : Tag} (hpre : tag.name ≠ "pre")
    (cs rest : Forest) :
    h.highlight (.element tag cs rest) = .element tag (h.highlight cs) (h.highlight rest) :=
  if_neg hpre

theorem highlight_of_blockSpans {tag : Tag} {cs spans : Forest} (hpre : tag.name = "pre")
    (hb : h.blockSpans? cs = some (.ok spans)) (rest : Forest) :
    h.highlight (.element tag cs rest) =
      .element (tag.addClass blockClass) (withCode spans cs) (h.highlight rest) := by
  refine (if_pos hpre).trans ?_
  rw [hb]

/-- Without spans a `pre` element stays as it is. -/
theorem highlight_of_no_blockSpans {tag : Tag} {cs : Forest} (hpre : tag.name = "pre")
    (hno : ∀ spans, h.blockSpans? cs ≠ some (.ok spans)) (rest : Forest) :
    h.highlight (.element tag cs rest) = .element tag cs (h.highlight rest) := by
  refine (if_pos hpre).trans ?_
  split
  · next spans hb => exact absurd hb (hno spans)
  · rfl

theorem replaced_element_of_ne (h : Highlighter) {tag : Tag} (hpre : tag.name ≠ "pre")
    (cs rest : Forest) : h.replaced (.element tag cs rest) = h.replaced cs ++ h.replaced rest :=
  if_neg hpre

theorem replaced_of_blockSpans {tag code : Tag} {content spans : Forest} (hpre : tag.name = "pre")
    (hb : h.blockSpans? (.element code content .nil) = some (.ok spans)) (rest : Forest) :
    h.replaced (.element tag (.element code content .nil) rest) = content :: h.replaced rest := by
  refine (if_pos hpre).trans ?_
  rw [hb]

theorem replaced_of_no_blockSpans {tag : Tag} {cs : Forest} (hpre : tag.name = "pre")
    (hno : ∀ spans, h.blockSpans? cs ≠ some (.ok spans)) (rest : Forest) :
    h.replaced (.element tag cs rest) = h.replaced rest := by
  refine (if_pos hpre).trans ?_
  split
  · next hb => exact absurd hb (hno _)
  · rfl

theorem replaced_append (h : Highlighter) (f g : Forest) :
    h.replaced (f ++ g) = h.replaced f ++ h.replaced g := by
  induction f with
  | nil => rfl
  | text s rest ih => exact ih
  | element tag cs rest _ ih =>
    rw [Forest.element_append]
    by_cases hpre : tag.name = "pre"
    · by_cases hr : ∃ spans, h.blockSpans? cs = some (.ok spans)
      · obtain ⟨spans, hb⟩ := hr
        obtain ⟨code, content, rfl, -⟩ := blockSpans?_eq_ok hb
        rw [replaced_of_blockSpans hpre hb, replaced_of_blockSpans hpre hb, ih]
        rfl
      · have hno : ∀ spans, h.blockSpans? cs ≠ some (.ok spans) := fun spans hb => hr ⟨spans, hb⟩
        rw [replaced_of_no_blockSpans hpre hno, replaced_of_no_blockSpans hpre hno, ih]
    · rw [h.replaced_element_of_ne hpre, h.replaced_element_of_ne hpre, ih, List.append_assoc]

theorem highlight_append (h : Highlighter) (f g : Forest) :
    h.highlight (f ++ g) = h.highlight f ++ h.highlight g := by
  induction f with
  | nil => rfl
  | text s rest ih => exact congrArg (Forest.text s) ih
  | element tag cs rest _ ih =>
    rw [Forest.element_append]
    by_cases hpre : tag.name = "pre"
    · by_cases hr : ∃ spans, h.blockSpans? cs = some (.ok spans)
      · obtain ⟨spans, hb⟩ := hr
        rw [highlight_of_blockSpans hpre hb, highlight_of_blockSpans hpre hb, ih]
        rfl
      · have hno : ∀ spans, h.blockSpans? cs ≠ some (.ok spans) := fun spans hb => hr ⟨spans, hb⟩
        rw [highlight_of_no_blockSpans hpre hno, highlight_of_no_blockSpans hpre hno, ih]
        rfl
    · rw [h.highlight_element_of_ne hpre, h.highlight_element_of_ne hpre, ih]
      rfl

theorem highlight_of_reads {tag code : Tag} {cs content spans : Forest} (hpre : tag.name = "pre")
    (hr : h.Reads cs code content spans) (rest : Forest) :
    h.highlight (.element tag cs rest) =
      .element (tag.addClass blockClass) (.single code spans) (h.highlight rest) := by
  have hb := reads_iff.mpr ⟨code, content, hr⟩
  rw [highlight_of_blockSpans hpre hb, hr.only]
  rfl

theorem highlight_of_not_reads {tag : Tag} {cs : Forest} (hpre : tag.name = "pre")
    (hno : ¬∃ code content spans, h.Reads cs code content spans) (rest : Forest) :
    h.highlight (.element tag cs rest) = .element tag cs (h.highlight rest) := by
  refine highlight_of_no_blockSpans hpre (fun spans hb => ?_) rest
  obtain ⟨code, content, hr⟩ := reads_iff.mp hb
  exact hno ⟨code, content, spans, hr⟩

/-- **The cases of a highlighted element**: a code block whose content is replaced, a `pre` element
that stays as it is, or any other element. -/
theorem highlight_element (h : Highlighter) (tag : Tag) (cs rest : Forest) :
    (∃ code content spans, tag.name = "pre" ∧ cs = .element code content .nil ∧
      code.name = "code" ∧ (∃ t : Tokenizer, t.spans h.stem content.textContent = .ok spans) ∧
      h.highlight (.element tag cs rest) =
        .element (tag.addClass blockClass) (.element code spans .nil) (h.highlight rest) ∧
      h.replaced (.element tag cs rest) = content :: h.replaced rest) ∨
    (tag.name = "pre" ∧
      h.highlight (.element tag cs rest) = .element tag cs (h.highlight rest) ∧
      h.replaced (.element tag cs rest) = h.replaced rest) ∨
    (tag.name ≠ "pre" ∧
      h.highlight (.element tag cs rest) = .element tag (h.highlight cs) (h.highlight rest) ∧
      h.replaced (.element tag cs rest) = h.replaced cs ++ h.replaced rest) := by
  by_cases hpre : tag.name = "pre"
  · by_cases hr : ∃ spans, h.blockSpans? cs = some (.ok spans)
    · obtain ⟨spans, hb⟩ := hr
      obtain ⟨code, content, rfl, hcode, ht⟩ := blockSpans?_eq_ok hb
      exact .inl ⟨code, content, spans, hpre, rfl, hcode, ht, highlight_of_blockSpans hpre hb rest,
        replaced_of_blockSpans hpre hb rest⟩
    · have hno : ∀ spans, h.blockSpans? cs ≠ some (.ok spans) := fun spans hb => hr ⟨spans, hb⟩
      exact .inr (.inl ⟨hpre, highlight_of_no_blockSpans hpre hno rest,
        replaced_of_no_blockSpans hpre hno rest⟩)
  · exact .inr (.inr ⟨hpre, h.highlight_element_of_ne hpre cs rest,
      h.replaced_element_of_ne hpre cs rest⟩)

-- ════════════════════════════════════════════════════════════════════════
-- Texts and tags
-- ════════════════════════════════════════════════════════════════════════

/-- **Highlighting keeps the text.** -/
@[simp] theorem textContent_highlight (h : Highlighter) (f : Forest) :
    (h.highlight f).textContent = f.textContent := by
  induction f with
  | nil => rfl
  | text s rest ih => simp [Forest.textContent, ih]
  | element tag cs rest ihcs ihrest =>
    rcases h.highlight_element tag cs rest with
      ⟨code, content, spans, -, rfl, -, ⟨t, ht⟩, heq, -⟩ | ⟨-, heq, -⟩ | ⟨-, heq, -⟩
    · simp [heq, Forest.textContent, ihrest, t.textContent_spans ht]
    · simp [heq, Forest.textContent, ihrest]
    · simp [heq, Forest.textContent, ihcs, ihrest]

/-- **A property of tags survives highlighting** if spans have it and it survives another class. -/
theorem of_mem_tags_highlight {P : Tag → Prop} (hspan : ∀ scope, P (spanTag h.stem scope))
    (hclass : ∀ tag, tag.name = "pre" → P tag → P (tag.addClass blockClass)) {f : Forest}
    (hf : ∀ tag ∈ f.tags, P tag) : ∀ tag ∈ (h.highlight f).tags, P tag := by
  induction f with
  | nil => exact hf
  | text s rest ih => exact ih hf
  | element tag cs rest ihcs ihrest =>
    simp only [Forest.tags, List.forall_mem_cons, List.forall_mem_append] at hf
    obtain ⟨htag, hcs, hrest⟩ := hf
    rcases h.highlight_element tag cs rest with
      ⟨code, content, spans, hpre, rfl, -, ⟨t, ht⟩, heq, -⟩ | ⟨-, heq, -⟩ | ⟨-, heq, -⟩
    · rw [heq]
      simp only [Forest.tags, List.forall_mem_cons, List.forall_mem_append] at hcs ⊢
      refine ⟨hclass tag hpre htag, ⟨hcs.1, ?_, by simp⟩, ihrest hrest⟩
      intro u hu
      obtain ⟨scope, rfl⟩ := t.mem_tags_spans ht hu
      exact hspan scope
    · rw [heq]
      simp only [Forest.tags, List.forall_mem_cons, List.forall_mem_append]
      exact ⟨htag, hcs, ihrest hrest⟩
    · rw [heq]
      simp only [Forest.tags, List.forall_mem_cons, List.forall_mem_append]
      exact ⟨htag, ihcs hcs, ihrest hrest⟩

-- ════════════════════════════════════════════════════════════════════════
-- Ids and headings
-- ════════════════════════════════════════════════════════════════════════

/-- Spans hold no heading and no id. -/
theorem headings_eq_nil_of_spans {t : Tokenizer} {source : String} {spans : Forest}
    (ht : t.spans h.stem source = .ok spans) : spans.headings = [] ∧ spans.ids = [] := by
  constructor
  · refine List.eq_nil_iff_forall_not_mem.mpr fun e he => ?_
    obtain ⟨hmem, hheading⟩ := Forest.mem_tags_of_mem_headings he
    obtain ⟨scope, hscope⟩ := t.mem_tags_spans ht hmem
    rw [hscope] at hheading
    cases hheading
  · refine List.filterMap_eq_nil_iff.mpr fun tag htag => ?_
    obtain ⟨scope, rfl⟩ := t.mem_tags_spans ht htag
    rfl

/-- Highlighting adds no id. -/
theorem ids_highlight_sublist (h : Highlighter) (f : Forest) :
    (h.highlight f).ids.Sublist f.ids := by
  induction f with
  | nil => exact List.Sublist.slnil
  | text s rest ih => exact ih
  | element tag cs rest ihcs ihrest =>
    rcases h.highlight_element tag cs rest with
      ⟨code, content, spans, -, rfl, -, ⟨t, ht⟩, heq, -⟩ | ⟨-, heq, -⟩ | ⟨-, heq, -⟩
    · simp only [heq, Forest.ids_element, Tag.attr?_addClass blockClass (by decide : "id" ≠ "class"),
        (headings_eq_nil_of_spans ht).2, Forest.ids_nil, List.append_nil, List.append_assoc]
      refine (List.Sublist.refl _).append ((List.Sublist.refl _).append ?_)
      exact ihrest.trans (List.sublist_append_right _ _)
    · simp only [heq, Forest.ids_element]
      exact (List.Sublist.refl _).append ((List.Sublist.refl _).append ihrest)
    · simp only [heq, Forest.ids_element]
      exact (List.Sublist.refl _).append (ihcs.append ihrest)

theorem isHeading_of_name {tag : Tag} (hname : tag.name = "pre" ∨ tag.name = "code") :
    tag.isHeading = false := by
  rcases hname with hname | hname <;> simp [Tag.isHeading, Tag.headingLevel?, hname]

/-- The headings that are left keep their order and their texts. -/
theorem headings_highlight_sublist (h : Highlighter) (f : Forest) :
    (h.highlight f).headings.Sublist f.headings := by
  induction f with
  | nil => exact List.Sublist.slnil
  | text s rest ih => exact ih
  | element tag cs rest ihcs ihrest =>
    rcases h.highlight_element tag cs rest with
      ⟨code, content, spans, hpre, rfl, hcode, ⟨t, ht⟩, heq, -⟩ | ⟨-, heq, -⟩ | ⟨-, heq, -⟩
    · have hclass := isHeading_of_name (.inl ((tag.name_addClass blockClass).trans hpre))
      simp only [heq, Forest.headings, hclass, isHeading_of_name (.inr hcode),
        (headings_eq_nil_of_spans ht).1, Bool.false_eq_true, if_false, List.nil_append]
      exact ihrest.trans ((List.sublist_append_right _ _).trans (List.sublist_append_right _ _))
    · simp only [heq, Forest.headings]
      exact (List.Sublist.refl _).append ((List.Sublist.refl _).append ihrest)
    · simp only [heq, Forest.headings, textContent_highlight]
      exact (List.Sublist.refl _).append (ihcs.append ihrest)

/-- **No heading gets lost** but those in code blocks that are highlighted. -/
theorem headings_perm (h : Highlighter) (f : Forest) :
    f.headings.Perm ((h.highlight f).headings ++ (h.replaced f).flatMap Forest.headings) := by
  induction f with
  | nil => exact List.Perm.refl _
  | text s rest ih => exact ih
  | element tag cs rest ihcs ihrest =>
    rcases h.highlight_element tag cs rest with
      ⟨code, content, spans, hpre, rfl, hcode, ⟨t, ht⟩, heq, hreplaced⟩ | ⟨-, heq, hreplaced⟩ |
        ⟨-, heq, hreplaced⟩
    · have hclass := isHeading_of_name (.inl ((tag.name_addClass blockClass).trans hpre))
      simp only [heq, hreplaced, Forest.headings, hclass, isHeading_of_name (.inr hcode),
        isHeading_of_name (.inl hpre), (headings_eq_nil_of_spans ht).1, Bool.false_eq_true,
        if_false, List.nil_append, List.append_nil, List.flatMap_cons]
      exact (ihrest.append_left _).trans (List.perm_append_comm_assoc _ _ _)
    · simp only [heq, hreplaced, Forest.headings, List.append_assoc]
      exact (ihrest.append_left _).append_left _
    · simp only [heq, hreplaced, Forest.headings, List.flatMap_append, List.append_assoc,
        textContent_highlight]
      refine List.Perm.append_left _ ?_
      refine (ihcs.append ihrest).trans ?_
      rw [List.append_assoc]
      exact (List.perm_append_comm_assoc _ _ _).append_left _

end Highlighter

end Highlight

end ArticleMarkup
