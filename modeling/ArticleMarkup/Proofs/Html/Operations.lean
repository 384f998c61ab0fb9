import ArticleMarkup.Html.Construction
import ArticleMarkup.Proofs.Html.Worth

/-!
# The operations of the tree builder and its worth

The rules of tree construction are made of a few operations. Closing elements shrinks the shape of the
state, opening formatting elements again keeps its worth, and only new elements add to it.

## Main statements

- `Builder.shrinks_close`, `Builder.shrinks_closeTo`, `Builder.shrinks_implied` — closing
- `Builder.keeps_reopenFormatting` — formatting elements are opened again
- `Builder.shape_openIn`, `Builder.shape_insertElement` — new elements
-/

namespace ArticleMarkup.Html

open Shape

-- ════════════════════════════════════════════════════════════════════════
-- Closing elements
-- ════════════════════════════════════════════════════════════════════════

theorem popThrough_suffix (wanted : OpenElement → Bool) (stack : List OpenElement) :
    popThrough wanted stack <:+ stack := by
  induction stack with
  | nil => exact List.suffix_rfl
  | cons e stack ih =>
    rw [popThrough]
    split
    · exact List.suffix_cons e stack
    · exact ih.trans (List.suffix_cons e stack)

theorem popTo_split (wanted : OpenElement → Bool) (stack : List OpenElement) :
    ∃ front, front ++ popTo wanted stack = stack ∧ ∀ e ∈ front, wanted e = false := by
  induction stack with
  | nil => exact ⟨[], rfl, fun e he => absurd he List.not_mem_nil⟩
  | cons e stack ih =>
    obtain ⟨front, hfront, hwanted⟩ := ih
    rw [popTo]
    split
    · exact ⟨[], rfl, fun e he => absurd he List.not_mem_nil⟩
    · next h =>
      exact ⟨e :: front, congrArg (e :: ·) hfront,
        List.forall_mem_cons.mpr ⟨Bool.not_eq_true _ ▸ h, hwanted⟩⟩

theorem popTo_suffix (wanted : OpenElement → Bool) (stack : List OpenElement) :
    popTo wanted stack <:+ stack := by
  obtain ⟨front, hfront, -⟩ := popTo_split wanted stack
  exact ⟨front, hfront⟩

theorem popImplied_suffix (names : List String) (stack : List OpenElement) :
    popImplied names stack <:+ stack := by
  induction stack with
  | nil => exact List.suffix_rfl
  | cons e stack ih =>
    rw [popImplied]
    split
    · exact ih.trans (List.suffix_cons e stack)
    · exact List.suffix_rfl

theorem clearToBorder_sublist (marks : List Mark) : (Mark.clearToBorder marks).Sublist marks := by
  induction marks with
  | nil => exact .refl _
  | cons m marks ih =>
    cases m with
    | border => exact List.sublist_cons_self _ _
    | element id tag => exact ih.cons _

namespace Builder

variable {b : Builder}

theorem shrinks_pop (b : Builder) : b.shape.Shrinks b.pop.shape :=
  .of_suffix (List.tail_suffix _)

theorem shrinks_close (b : Builder) (name : String) : b.shape.Shrinks (b.close name).shape :=
  .of_suffix (popThrough_suffix _ _)

theorem shrinks_closeTo (b : Builder) (names : List String) :
    b.shape.Shrinks (b.closeTo names).shape :=
  .of_suffix (popTo_suffix _ _)

theorem shrinks_impliedExcept (b : Builder) (name : String) :
    b.shape.Shrinks (b.impliedExcept name).shape :=
  .of_suffix (popImplied_suffix _ _)

theorem shrinks_implied (b : Builder) : b.shape.Shrinks b.implied.shape :=
  .of_suffix (popImplied_suffix _ _)

theorem shrinks_clearMarks (b : Builder) : b.shape.Shrinks b.clearMarks.shape :=
  .of_marks (clearToBorder_sublist _)

theorem shrinks_closeParagraph (b : Builder) : b.shape.Shrinks b.closeParagraph.shape :=
  (b.shrinks_impliedExcept "p").trans (shrinks_close _ "p")

theorem shrinks_endParagraph (b : Builder) : b.shape.Shrinks b.endParagraph.shape := by
  unfold endParagraph
  split
  · exact b.shrinks_closeParagraph
  · exact .refl _

theorem shrinks_impliedExcept_close (b : Builder) (except name : String) :
    b.shape.Shrinks ((b.impliedExcept except).close name).shape :=
  (b.shrinks_impliedExcept except).trans (shrinks_close _ name)

theorem shrinks_implied_close (b : Builder) (name : String) :
    b.shape.Shrinks (b.implied.close name).shape :=
  b.shrinks_implied.trans (shrinks_close _ name)

theorem shrinks_closeGeneric (b : Builder) (name : String) :
    b.shape.Shrinks (b.closeGeneric name).shape := by
  unfold closeGeneric
  split
  · exact b.shrinks_impliedExcept_close name name
  · exact .refl _

theorem shrinks_closeItem (b : Builder) (names : List String) :
    b.shape.Shrinks (b.closeItem names).shape := by
  have hgo : ∀ stack, b.shape.Shrinks (closeItem.go b names
      (fun e => e.isSpecial && !e.isHtmlIn ["address", "div", "p"]) stack).shape := by
    intro stack
    induction stack with
    | nil => exact .refl _
    | cons e stack ih =>
      rw [closeItem.go]
      split
      · exact b.shrinks_impliedExcept_close e.name e.name
      · split
        · exact .refl _
        · exact ih
  exact hgo b.stack

theorem shrinks_closeCell (b : Builder) : b.shape.Shrinks b.closeCell.shape := by
  have hpop : b.implied.shape.Shrinks
      (b.implied.shape.withStack (popThrough (·.isHtmlIn ["td", "th"]) b.implied.stack)) :=
    .of_suffix (popThrough_suffix _ _)
  exact (b.shrinks_implied.trans hpop).trans (.of_marks (clearToBorder_sublist _))

theorem shrinks_endTemplate (b : Builder) : b.shape.Shrinks b.endTemplate.shape := by
  unfold endTemplate
  split
  · have hpop : b.shape.Shrinks (b.shape.withStack (popImplied allImpliedEnds b.stack)) :=
      .of_suffix (popImplied_suffix _ _)
    have hclose := hpop.trans (shrinks_close { b with stack := popImplied allImpliedEnds b.stack }
      "template")
    have hclear := hclose.trans (shrinks_clearMarks
      ({ b with stack := popImplied allImpliedEnds b.stack }.close "template"))
    exact ⟨hclear.next, hclear.elements, hclear.stack, hclear.weight, hclear.marks, hclear.form,
      fun hm => hclear.modes (List.mem_of_mem_tail hm)⟩
  · exact .refl _

theorem shrinks_breakOut (b : Builder) (token : Token) : b.shape.Shrinks (b.breakOut token).shape := by
  unfold breakOut
  split
  · exact .of_suffix (popTo_suffix _ _)
  · exact .refl _

-- ════════════════════════════════════════════════════════════════════════
-- New nodes
-- ════════════════════════════════════════════════════════════════════════

theorem keeps_insertChar (hb : b.shape.WellFormed) (c : Char) :
    b.shape.Keeps (b.insertChar c).shape := by
  have hpush : ∀ dom : Dom, (dom.pushChar c).elementCount ≤ dom.elementCount + 0 :=
    fun dom => Nat.le_of_eq (Dom.elementCount_pushChar c dom)
  exact .of_elements hb (elementCount_changeAt_le hpush b.dom b.place)

theorem keeps_insertOther (hb : b.shape.WellFormed) : b.shape.Keeps b.insertOther.shape := by
  have hother : ∀ dom : Dom, (Dom.other dom).elementCount ≤ dom.elementCount + 0 :=
    fun dom => Nat.le_refl _
  exact .of_elements hb (elementCount_changeAt_le hother b.dom _)

theorem elementCount_changeAt_element_le (id : Nat) (space : Space) (tag : NodeTag) (dom : Dom)
    (place : Place) :
    (changeAt dom place (.element id space tag .nil)).elementCount ≤ dom.elementCount + 1 := by
  refine elementCount_changeAt_le (fun dom => ?_) dom place
  rw [Dom.elementCount, Dom.elementCount]
  omega

theorem shape_insertElement (b : Builder) (space : Space) (tag : Tag) :
    ∃ n ≤ b.shape.elements + 1, (b.insertElement space tag).shape = b.shape.insert n :=
  ⟨_, elementCount_changeAt_element_le b.next space _ b.dom b.place, rfl⟩

theorem shape_openIn (b : Builder) (space : Space) (tag : Tag) :
    ∃ n ≤ b.shape.elements + 1, (b.openIn space tag).shape =
      b.shape.push n ⟨b.next, space, tag.name, annotationHoldsHtml space tag⟩ :=
  ⟨_, elementCount_changeAt_element_le b.next space _ b.dom b.place, rfl⟩

theorem makeRoom_sublist (tag : Tag) (marks : List Mark) :
    (Mark.makeRoom tag marks).Sublist marks := by
  unfold Mark.makeRoom
  dsimp only
  split
  · split
    · exact List.filter_sublist
    · exact .refl _
  · exact .refl _

/-- **A formatting element** is opened and remembered, for which another may be forgotten. -/
theorem shape_openFormatting (b : Builder) (tag : Tag) :
    ∃ n ≤ b.shape.elements + 1, (b.openFormatting tag).shape =
      (b.shape.withMarks (Mark.makeRoom tag b.marks)).remember n
        ⟨b.next, .html, tag.name, false⟩ tag :=
  ⟨_, elementCount_changeAt_element_le b.next .html _ b.dom b.place, rfl⟩

-- ════════════════════════════════════════════════════════════════════════
-- Formatting elements that are opened again
-- ════════════════════════════════════════════════════════════════════════

theorem isElement_of_isOpenOn {stack : List OpenElement} {m : Mark}
    (h : m.isOpenOn stack = false) : m.isElement = true := by
  cases m with
  | border => exact absurd h.symm Bool.false_ne_true
  | element id tag => rfl

/-- Entries that are not open are worth four each: one to be opened again, three for its end tag. -/
theorem worth_drop {front back : List Mark} {s : Shape} (hmarks : s.marks = front ++ back)
    (hfront : ∀ m ∈ front, m.isOpenOn s.stack = false) :
    (s.withMarks back).worth + 4 * front.length ≤ s.worth ∧
      (s.withMarks back).remembered + front.length = s.remembered := by
  have hclosed : front.countP (fun m => !m.isOpenOn s.stack) = front.length :=
    List.countP_eq_length.mpr fun m hm => by simp [hfront m hm]
  have helement : front.countP Mark.isElement = front.length :=
    List.countP_eq_length.mpr fun m hm => isElement_of_isOpenOn (hfront m hm)
  simp only [worth, reach, closed, remembered, withMarks, hmarks, List.countP_append, List.map_append,
    List.sum_append, hclosed, helement]
  omega

/-- The builder after one entry is opened again. -/
def reopenOne (b : Builder) (tag : Tag) : Builder :=
  { b.open tag with marks := .element b.next tag :: (b.open tag).marks }

theorem shape_reopenOne (b : Builder) (tag : Tag) :
    ∃ n ≤ b.shape.elements + 1, (b.reopenOne tag).shape =
      b.shape.remember n ⟨b.next, .html, tag.name, false⟩ tag :=
  ⟨_, elementCount_changeAt_element_le b.next .html _ b.dom b.place, rfl⟩

/-- Each entry is opened again as an element of its own. -/
theorem reopen_spec {marks : List Mark} (hb : b.shape.WellFormed)
    (hmarks : ∀ m ∈ marks, ∃ id tag, m = .element id tag ∧ tag.name ∈ formattingTags) :
    (b.reopen marks).shape.WellFormed ∧
      (b.reopen marks).shape.remembered = b.shape.remembered + marks.length ∧
      (b.reopen marks).shape.worth ≤ b.shape.worth + 4 * marks.length := by
  induction marks generalizing b with
  | nil => exact ⟨hb, rfl, Nat.le_refl _⟩
  | cons m marks ih =>
    rw [List.forall_mem_cons] at hmarks
    obtain ⟨⟨id, tag, rfl, htag⟩, hmarks⟩ := hmarks
    obtain ⟨n, hn, hshape⟩ := b.shape_reopenOne tag
    have hformatting := isHtmlIn_of_mem htag b.next false
    have hwell : (b.reopenOne tag).shape.WellFormed := by
      rw [hshape]
      exact hb.remember hn rfl hformatting htag
    have hone : (b.reopenOne tag).shape.worth ≤ b.shape.worth + 4 := by
      rw [hshape]
      exact worth_remember_le hb rfl hformatting
    have hmore : (b.reopenOne tag).shape.remembered = b.shape.remembered + 1 := by
      rw [hshape]
      exact List.countP_cons_of_pos rfl
    obtain ⟨hwell', hremembered, hworth⟩ := ih hwell hmarks
    have hstep : b.reopen (.element id tag :: marks) = (b.reopenOne tag).reopen marks := rfl
    rw [hstep, List.length_cons]
    exact ⟨hwell', by omega, by omega⟩

/-- **Opening formatting elements again** keeps the worth: they were counted while they were closed. -/
theorem keeps_reopenFormatting (hb : b.shape.WellFormed) :
    b.shape.Keeps b.reopenFormatting.shape := by
  unfold reopenFormatting
  generalize hclosed : b.marks.takeWhile (fun m => !b.standsOpen m) = front
  have hsplit : b.shape.marks = front ++ b.marks.drop front.length := by
    have hprefix : front <+: b.marks := hclosed ▸ List.takeWhile_prefix _
    obtain ⟨back, hback⟩ := hprefix
    rw [← hback, List.drop_left, hback]
    rfl
  have hfront : ∀ m ∈ front, m.isOpenOn b.shape.stack = false := by
    intro m hm
    rw [← hclosed] at hm
    have hopen := List.all_eq_true.mp List.all_takeWhile m hm
    cases m with
    | border => cases hopen
    | element id tag => exact (Bool.not_eq_true' _).mp hopen
  have hmarks : ∀ m ∈ front.reverse, ∃ id tag, m = .element id tag ∧ tag.name ∈ formattingTags := by
    intro m hm
    have hfirst := List.mem_reverse.mp hm
    have hmem : m ∈ b.shape.marks := hsplit ▸ List.mem_append_left _ hfirst
    have helement := isElement_of_isOpenOn (hfront m hfirst)
    cases m with
    | border => cases helement
    | element id tag => exact ⟨id, tag, rfl, hb.formatting id tag hmem⟩
  have hdrop : b.shape.Shrinks { b with marks := b.marks.drop front.length }.shape :=
    .of_marks (List.drop_sublist _ _)
  obtain ⟨hwell, hremembered, hworth⟩ := reopen_spec (hdrop.wellFormed hb) hmarks
  obtain ⟨hworth', hremembered'⟩ := worth_drop hsplit hfront
  rw [List.length_reverse] at hremembered hworth
  exact ⟨hwell, hremembered.trans hremembered',
    hworth.trans hworth'⟩

end Builder

end ArticleMarkup.Html
