import ArticleMarkup.Proofs.Html.Scanning
import ArticleMarkup.Proofs.Written.Reading

/-!
# Line ends of the written form

A parser reads every line end as a line feed before anything else. In the written form of a forest
only carriage returns are touched by that: what remains still spells the texts and values, with line
feeds in the place of their line ends.

## Main definitions

- `lineEnd` — a carriage return becomes a line feed
- `valueInk` — how a value is written, once line ends are normalized

## Main statements

- `normalizeNewlines_startChars_append` — a start tag
- `exists_normalizeNewlines_layOut` — a text
-/

namespace ArticleMarkup.Html

theorem normalizeNewlines_return_feed (cs : List Char) :
    normalizeNewlines ('\r' :: '\n' :: cs) = '\n' :: normalizeNewlines cs := rfl

theorem normalizeNewlines_cons_of_ne {c : Char} (h : c ≠ '\r') (cs : List Char) :
    normalizeNewlines (c :: cs) = c :: normalizeNewlines cs := by
  rw [normalizeNewlines] <;> intros <;> exact absurd ‹_› h

theorem normalizeNewlines_return {cs : List Char} (h : cs.head? ≠ some '\n') :
    normalizeNewlines ('\r' :: cs) = '\n' :: normalizeNewlines cs := by
  cases cs with
  | nil => rfl
  | cons c cs =>
    rw [normalizeNewlines]
    rintro _ ⟨rfl⟩
    exact h rfl

theorem normalizeNewlines_append_of_not_mem {a : List Char} (h : '\r' ∉ a) (b : List Char) :
    normalizeNewlines (a ++ b) = a ++ normalizeNewlines b := by
  induction a with
  | nil => rfl
  | cons c a ih =>
    simp only [List.mem_cons, not_or] at h
    rw [List.cons_append, normalizeNewlines_cons_of_ne (Ne.symm h.1), ih h.2, List.cons_append]

theorem normalizeNewlines_of_not_mem {cs : List Char} (h : '\r' ∉ cs) : normalizeNewlines cs = cs := by
  have happ := normalizeNewlines_append_of_not_mem h []
  rwa [List.append_nil, show normalizeNewlines [] = [] from rfl, List.append_nil] at happ

/-- No carriage return is left. -/
theorem not_mem_normalizeNewlines (cs : List Char) : '\r' ∉ normalizeNewlines cs := by
  fun_induction normalizeNewlines cs with
  | case1 => simp
  | case2 cs ih => simpa using ih
  | case3 cs _ ih => simpa using ih
  | case4 c cs _ hc ih => simpa [Ne.symm hc] using ih

theorem normalizeNewlines_ne_nil {cs : List Char} (h : cs ≠ []) : normalizeNewlines cs ≠ [] := by
  fun_cases normalizeNewlines cs <;> simp_all

-- ════════════════════════════════════════════════════════════════════════
-- Tags
-- ════════════════════════════════════════════════════════════════════════

/-- A carriage return becomes a line feed. -/
def lineEnd (c : Char) : Char :=
  if c = '\r' then '\n' else c

/-- How a value is written, once line ends are normalized: a carriage return is not escaped. -/
def valueInk (cs : List Char) : List Char :=
  cs.flatMap fun c => if c = '\r' then ['\n'] else valueChars c

theorem head?_flatMap_valueChars (cs : List Char) {rest : List Char} (h : rest.head? ≠ some '\n') :
    (cs.flatMap valueChars ++ rest).head? ≠ some '\n' := by
  cases cs with
  | nil => exact h
  | cons c cs =>
    have hne : valueChars c ≠ [] ∧ (valueChars c).head? ≠ some '\n' := by
      unfold valueChars
      repeat' split
      all_goals simp_all
    obtain ⟨d, ds, hd⟩ := List.exists_cons_of_ne_nil hne.1
    rw [List.flatMap_cons, hd]
    rw [hd] at hne
    simpa using hne.2

theorem return_not_mem_valueChars {c : Char} (h : c ≠ '\r') : '\r' ∉ valueChars c := by
  unfold valueChars
  repeat' split
  all_goals simp [Ne.symm h]

theorem normalizeNewlines_value_append (cs : List Char) {rest : List Char}
    (h : rest.head? ≠ some '\n') :
    normalizeNewlines (cs.flatMap valueChars ++ rest) = valueInk cs ++ normalizeNewlines rest := by
  induction cs with
  | nil => rfl
  | cons c cs ih =>
    have hink : valueInk (c :: cs) = (if c = '\r' then ['\n'] else valueChars c) ++ valueInk cs := rfl
    rw [hink, List.append_assoc, ← ih, List.flatMap_cons, List.append_assoc]
    split
    · next hc =>
      subst hc
      exact normalizeNewlines_return (head?_flatMap_valueChars cs h)
    · next hc => exact normalizeNewlines_append_of_not_mem (return_not_mem_valueChars hc) _

/-- The value that is spelled has line feeds for its carriage returns. -/
theorem spells_valueInk {cs : List Char} (h : Scanner.nul ∉ cs) :
    Spells '"' (valueInk cs) (cs.map lineEnd) := by
  induction cs with
  | nil => exact .nil
  | cons c cs ih =>
    simp only [List.mem_cons, not_or] at h
    have hrest := ih h.2
    have href : ∀ {name : List Char} {d : Char}, (name, d) ∈ writtenReferences →
        Spells '"' ('&' :: (name ++ valueInk cs)) (d :: cs.map lineEnd) := fun hname =>
      .reference hname hrest
    rw [List.map_cons, show valueInk (c :: cs) =
      (if c = '\r' then ['\n'] else valueChars c) ++ valueInk cs from rfl, lineEnd]
    split
    · exact .plain (by decide) (by decide) (by decide) hrest
    · unfold valueChars
      split
      · next hc => subst hc; exact href (by decide)
      split
      · next hc => subst hc; exact href (by decide)
      split
      · next hc => subst hc; exact href (by decide)
      split
      · next hc => subst hc; exact href (by decide)
      split
      · next hc => subst hc; exact href (by decide)
      split
      · next hc => subst hc; exact href (by decide)
      · next hamp hquote _ _ _ _ => exact .plain hamp hquote (Ne.symm h.1) hrest

theorem return_not_mem_of_isSmallName {name : String} (h : Scanner.IsSmallName name) :
    '\r' ∉ name.toList := fun hmem =>
  absurd (List.all_eq_true.mp h.2 _ hmem) (by decide)

/-- **A start tag** with its line ends normalized. -/
theorem normalizeNewlines_startChars_append {tag : Tag} (hname : Scanner.IsSmallName tag.name)
    (hnames : ∀ a ∈ tag.attrs, Scanner.IsSmallName a.name) (rest : List Char) :
    normalizeNewlines (tag.startChars ++ rest) =
      '<' :: (tag.name.toList ++
        ((tag.attrs.flatMap fun a => Scanner.attrInk a.name (valueInk a.value.toList)) ++
          Scanner.selfClosingInk (voidTags.contains tag.name))) ++
        '>' :: normalizeNewlines rest := by
  have hattrs : ∀ (attrs : List Attribute) (more : List Char),
      (∀ a ∈ attrs, Scanner.IsSmallName a.name) →
      normalizeNewlines (attrs.flatMap Attribute.chars ++ more) =
        (attrs.flatMap fun a => Scanner.attrInk a.name (valueInk a.value.toList)) ++
          normalizeNewlines more := by
    intro attrs more hsmall
    induction attrs with
    | nil => rfl
    | cons a attrs ih =>
      rw [List.forall_mem_cons] at hsmall
      have hchars : a.chars ++ (attrs.flatMap Attribute.chars ++ more) =
          (' ' :: (a.name.toList ++ ['=', '"'])) ++ (a.value.toList.flatMap valueChars ++
            ('"' :: (attrs.flatMap Attribute.chars ++ more))) := by
        simp [Attribute.chars]
      have hfront : '\r' ∉ ' ' :: (a.name.toList ++ ['=', '"']) := by
        simpa using return_not_mem_of_isSmallName hsmall.1
      rw [List.flatMap_cons, List.append_assoc, hchars, normalizeNewlines_append_of_not_mem hfront,
        normalizeNewlines_value_append _ (by simp), normalizeNewlines_cons_of_ne (by decide),
        ih hsmall.2, List.flatMap_cons]
      simp [Scanner.attrInk]
  have hstart : tag.startChars ++ rest = ('<' :: tag.name.toList) ++
      (tag.attrs.flatMap Attribute.chars ++
        ((Scanner.selfClosingInk (voidTags.contains tag.name) ++ ['>']) ++ rest)) := by
    rw [Tag.startChars_eq, Tag.inside]
    cases voidTags.contains tag.name <;> simp [Scanner.selfClosingInk]
  have hfront : '\r' ∉ '<' :: tag.name.toList := by
    simpa using return_not_mem_of_isSmallName hname
  have hclose : '\r' ∉ Scanner.selfClosingInk (voidTags.contains tag.name) ++ ['>'] := by
    cases voidTags.contains tag.name <;> decide
  rw [hstart, normalizeNewlines_append_of_not_mem hfront, hattrs _ _ hnames,
    normalizeNewlines_append_of_not_mem hclose]
  simp

-- ════════════════════════════════════════════════════════════════════════
-- Texts
-- ════════════════════════════════════════════════════════════════════════

/-- A character of a text is written as itself or as a reference. -/
theorem exists_layOut_textPiece {c : Char} (hr : c ≠ '\r') (hnul : c ≠ Scanner.nul) (blank : Bool)
    (ps : List Piece) :
    ∃ front blank', Piece.layOut blank (textPiece c :: ps) = front ++ Piece.layOut blank' ps ∧
      '\r' ∉ front ∧ front ≠ [] ∧ (c ≠ '\n' → front.head? ≠ some '\n') ∧
      ∀ ink cs, Spells '<' ink cs → Spells '<' (front ++ ink) (c :: cs) := by
  have href : ∀ name, (name, c) ∈ writtenReferences → textPiece c = .ink ('&' :: name) →
      '\r' ∉ name →
      ∃ front blank', Piece.layOut blank (textPiece c :: ps) = front ++ Piece.layOut blank' ps ∧
        '\r' ∉ front ∧ front ≠ [] ∧ (c ≠ '\n' → front.head? ≠ some '\n') ∧
        ∀ ink cs, Spells '<' ink cs → Spells '<' (front ++ ink) (c :: cs) := by
    intro name hname hpiece hreturn
    refine ⟨'&' :: name, false, by rw [hpiece, Piece.layOut], by simpa using hreturn, by simp,
      by simp, fun ink cs h => .reference hname h⟩
  have hplain : c ≠ '&' → c ≠ '<' → ∀ ink cs, Spells '<' ink cs → Spells '<' ([c] ++ ink) (c :: cs) :=
    fun hamp hlt ink cs h => .plain hamp hlt hnul h
  have hself : ∀ blank', Piece.layOut blank (textPiece c :: ps) = [c] ++ Piece.layOut blank' ps →
      c ≠ '&' → c ≠ '<' →
      ∃ front blank', Piece.layOut blank (textPiece c :: ps) = front ++ Piece.layOut blank' ps ∧
        '\r' ∉ front ∧ front ≠ [] ∧ (c ≠ '\n' → front.head? ≠ some '\n') ∧
        ∀ ink cs, Spells '<' ink cs → Spells '<' (front ++ ink) (c :: cs) := by
    intro blank' hout hamp hlt
    exact ⟨[c], blank', hout, by simpa using Ne.symm hr, by simp, fun h => by simpa using h,
      fun ink cs h => .plain hamp hlt hnul h⟩
  by_cases hn : c = '\n'
  · subst hn
    cases blank with
    | false => exact hself true rfl (by decide) (by decide)
    | true =>
      exact ⟨"&#10;".toList, false, rfl, by decide, by simp, fun h => absurd rfl h,
        fun ink cs h => @Spells.reference '<' ['#', '1', '0', ';'] _ _ _ (by decide) h⟩
  by_cases hspace : c = ' ' ∨ c = '\t'
  · refine hself blank ?_ ?_ ?_ <;> rcases hspace with rfl | rfl <;> first | rfl | decide
  by_cases hamp : c = '&'
  · subst hamp; exact href ['a', 'm', 'p', ';'] (by decide) rfl (by decide)
  by_cases hlt : c = '<'
  · subst hlt; exact href ['l', 't', ';'] (by decide) rfl (by decide)
  by_cases hgt : c = '>'
  · subst hgt; exact href ['g', 't', ';'] (by decide) rfl (by decide)
  by_cases hnbsp : c = '\u00a0'
  · subst hnbsp; exact href ['n', 'b', 's', 'p', ';'] (by decide) rfl (by decide)
  · have hpiece : textPiece c = .ink [c] := by
      rw [not_or] at hspace
      simp [textPiece, hn, hspace, hamp, hlt, hgt, hnbsp]
    exact hself false (by rw [hpiece, Piece.layOut]) hamp hlt

/-- **A text** with its line ends normalized spells itself with its line ends normalized. -/
theorem exists_normalizeNewlines_layOut {cs : List Char} (hnul : Scanner.nul ∉ cs) (blank : Bool)
    {ps : List Piece} (hps : ∀ blank, AtTag (Piece.layOut blank ps)) :
    ∃ ink blank', normalizeNewlines (Piece.layOut blank (cs.map textPiece ++ ps)) =
        ink ++ normalizeNewlines (Piece.layOut blank' ps) ∧
      Spells '<' ink (normalizeNewlines cs) := by
  fun_induction normalizeNewlines cs generalizing blank with
  | case1 => exact ⟨[], blank, rfl, .nil⟩
  | case2 cs ih =>
    -- the carriage return is ink, so the line feed behind it is written as such
    simp only [List.mem_cons, not_or] at hnul
    obtain ⟨ink, last, hink, hspells⟩ := ih hnul.2.2 true
    refine ⟨'\n' :: ink, last, ?_, .plain (by decide) (by decide) (by decide) hspells⟩
    have hout : Piece.layOut blank (('\r' :: '\n' :: cs).map textPiece ++ ps) =
        '\r' :: '\n' :: Piece.layOut true (cs.map textPiece ++ ps) := rfl
    rw [hout, normalizeNewlines_return_feed, hink, List.cons_append]
  | case3 cs hno ih =>
    simp only [List.mem_cons, not_or] at hnul
    obtain ⟨ink, last, hink, hspells⟩ := ih hnul.2 false
    refine ⟨'\n' :: ink, last, ?_, .plain (by decide) (by decide) (by decide) hspells⟩
    have hout : Piece.layOut blank (('\r' :: cs).map textPiece ++ ps) =
        '\r' :: Piece.layOut false (cs.map textPiece ++ ps) := rfl
    have hhead : (Piece.layOut false (cs.map textPiece ++ ps)).head? ≠ some '\n' := by
      cases cs with
      | nil => exact (hps false).head?_ne
      | cons c cs =>
        have hc : c ≠ '\n' := by
          rintro rfl
          exact hno cs rfl
        by_cases hr : c = '\r'
        · subst hr
          simp [textPiece, Piece.layOut]
        · simp only [List.mem_cons, not_or] at hnul
          obtain ⟨front, last, hfront, -, hne, hhead, -⟩ :=
            exists_layOut_textPiece hr (Ne.symm hnul.2.1) false (cs.map textPiece ++ ps)
          obtain ⟨d, ds, rfl⟩ := List.exists_cons_of_ne_nil hne
          rw [List.map_cons, List.cons_append, hfront]
          exact hhead hc
    rw [hout, normalizeNewlines_return hhead, hink, List.cons_append]
  | case4 c cs _ hr ih =>
    simp only [List.mem_cons, not_or] at hnul
    obtain ⟨front, mid, hfront, hreturn, -, -, hspell⟩ :=
      exists_layOut_textPiece hr (Ne.symm hnul.1) blank (cs.map textPiece ++ ps)
    obtain ⟨ink, last, hink, hspells⟩ := ih hnul.2 mid
    refine ⟨front ++ ink, last, ?_, hspell _ _ hspells⟩
    rw [List.map_cons, List.cons_append, hfront, normalizeNewlines_append_of_not_mem hreturn, hink,
      List.append_assoc]

end ArticleMarkup.Html
