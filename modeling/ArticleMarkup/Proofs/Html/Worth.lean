import ArticleMarkup.Html.Budget
import ArticleMarkup.Proofs.Html.Elements
import Mathlib.Algebra.GroupWithZero.Nat
import Mathlib.Algebra.Order.BigOperators.Group.List
import Mathlib.Algebra.Order.Group.Nat

/-!
# What a state of the tree builder is worth

The number of elements that the tree builder can still make without being told to is bounded by what
it remembers. A formatting element that is not open is opened again by the next text, and one that is
open is renewed for each block in it when its end tag comes. The worth of a state counts the elements
there are and all of these, so that only tags raise it.

## Main definitions

- `Shape` — the part of the state that matters
- `Shape.worth` — the elements made, and those that the formatting elements may still cost
- `Shape.WellFormed` — what holds of every state
- `Shape.Shrinks` — elements are closed and formatting elements forgotten
- `Shape.Keeps`, `Shape.Settles`, `Shape.Starts` — what a token may do to the worth

## Main statements

- `Shape.Shrinks.settles` — closing elements costs at most the formatting elements that remain
- `Shape.worth_push_le` — opening an element costs at most as much again
-/

namespace ArticleMarkup.Html

open OpenElement (endsScope)

-- ════════════════════════════════════════════════════════════════════════
-- Scopes
-- ════════════════════════════════════════════════════════════════════════

/-- The element is open, and no boundary of scope is open in it. -/
def visible (id : Nat) (stack : List OpenElement) : Bool :=
  inScope endsScope (·.id == id) stack

theorem visible_cons (id : Nat) (e : OpenElement) (stack : List OpenElement) :
    visible id (e :: stack) = (e.id == id || (!e.endsScope && visible id stack)) := rfl

theorem visible_of_filter {id : Nat} {p : OpenElement → Bool} {stack : List OpenElement}
    (hp : ∀ e ∈ stack, p e = false → e.endsScope = false)
    (h : visible id (stack.filter p) = true) : visible id stack = true := by
  induction stack with
  | nil => exact h
  | cons e stack ih =>
    rw [List.forall_mem_cons] at hp
    rw [visible_cons]
    cases hpe : p e with
    | false =>
      rw [List.filter_cons_of_neg (by simp [hpe])] at h
      simp [hp.1 hpe, ih hp.2 h]
    | true =>
      rw [List.filter_cons_of_pos hpe, visible_cons] at h
      by_cases hid : (e.id == id) = true
      · simp [hid]
      · simp only [hid, Bool.false_or, Bool.and_eq_true] at h ⊢
        exact ⟨h.1, ih hp.2 h.2⟩

/-- The element is a block that an end tag around it moves out. -/
def OpenElement.isBlock (e : OpenElement) : Bool :=
  e.isSpecial && !e.endsScope

/-- **The blocks in an element**, up to the first boundary of scope. -/
def weight (id : Nat) : List OpenElement → Nat
  | [] => 0
  | e :: rest => weight id rest + if e.isBlock && visible id rest then 1 else 0

theorem weight_cons_le (id : Nat) (e : OpenElement) (stack : List OpenElement) :
    weight id (e :: stack) ≤ weight id stack + 1 := by
  rw [weight]
  split <;> omega

theorem weight_le_cons (id : Nat) (e : OpenElement) (stack : List OpenElement) :
    weight id stack ≤ weight id (e :: stack) :=
  Nat.le_add_right _ _

theorem weight_le_of_suffix (id : Nat) {stack stack' : List OpenElement} (h : stack' <:+ stack) :
    weight id stack' ≤ weight id stack := by
  obtain ⟨front, rfl⟩ := h
  induction front with
  | nil => exact Nat.le_refl _
  | cons e front ih => exact ih.trans (weight_le_cons id e _)

theorem weight_filter_le (id : Nat) {p : OpenElement → Bool} {stack : List OpenElement}
    (hp : ∀ e ∈ stack, p e = false → e.endsScope = false) :
    weight id (stack.filter p) ≤ weight id stack := by
  induction stack with
  | nil => exact Nat.le_refl _
  | cons e stack ih =>
    rw [List.forall_mem_cons] at hp
    have hrest := ih hp.2
    cases hpe : p e with
    | false =>
      rw [List.filter_cons_of_neg (by simp [hpe])]
      exact hrest.trans (weight_le_cons id e stack)
    | true =>
      rw [List.filter_cons_of_pos hpe, weight, weight]
      by_cases hblock : (e.isBlock && visible id (stack.filter p)) = true
      · rw [Bool.and_eq_true] at hblock
        have hvisible := visible_of_filter hp.2 hblock.2
        simp only [hblock.1, hblock.2, hvisible, Bool.and_self, if_true]
        omega
      · rw [if_neg hblock]
        omega

theorem isHtmlIn_of_mem {names : List String} {name : String} (h : name ∈ names) (id : Nat)
    (holdsHtml : Bool) : OpenElement.isHtmlIn ⟨id, .html, name, holdsHtml⟩ names = true := by
  simpa [OpenElement.isHtmlIn] using h

namespace Mark

/-- The entry is not a border. -/
def isElement : Mark → Bool
  | border => false
  | element _ _ => true

/-- The entry needs no element to be opened. -/
def isOpenOn (stack : List OpenElement) : Mark → Bool
  | border => true
  | element id _ => stack.any (·.id == id)

/-- The blocks in the element of the entry. -/
def weight (stack : List OpenElement) : Mark → Nat
  | border => 0
  | element id _ => Html.weight id stack

end Mark

-- ════════════════════════════════════════════════════════════════════════
-- Shapes
-- ════════════════════════════════════════════════════════════════════════

/-- **The part of the state** of the tree builder that says how many elements it may make. -/
structure Shape where
  /-- The elements of the tree. -/
  elements : Nat
  /-- The number of the next element. -/
  next : Nat
  /-- The open elements. -/
  stack : List OpenElement
  /-- The formatting elements. -/
  marks : List Mark
  /-- The form that is open. -/
  form : Option Nat
  /-- The modes of the open templates. -/
  templateModes : List Mode

/-- The shape of a state. -/
def Builder.shape (b : Builder) : Shape :=
  ⟨b.dom.elementCount, b.next, b.stack, b.marks, b.form, b.templateModes⟩

namespace Shape

variable {s s' s'' : Shape}

/-- The formatting elements that are remembered. -/
def remembered (s : Shape) : Nat :=
  s.marks.countP Mark.isElement

/-- Those of them that are to be opened again. -/
def closed (s : Shape) : Nat :=
  s.marks.countP fun m => !m.isOpenOn s.stack

/-- The elements made, and three for each block that stands in a formatting element. -/
def reach (s : Shape) : Nat :=
  s.next + 3 * (s.marks.map (Mark.weight s.stack)).sum

/-- **What the state is worth**. -/
def worth (s : Shape) : Nat :=
  s.reach + s.closed + 3 * s.remembered

theorem closed_le_remembered (s : Shape) : s.closed ≤ s.remembered := by
  refine List.countP_mono_left fun m _ h => ?_
  cases m with
  | border => exact h
  | element id tag => rfl

/-- **What holds of every state.** -/
structure WellFormed (s : Shape) : Prop where
  /-- The elements of the tree are among those that have been numbered; the root is numbered too. -/
  elements : s.elements < s.next
  /-- Open elements have been numbered. -/
  stack_lt : ∀ e ∈ s.stack, e.id < s.next
  /-- No two of them have one number. -/
  distinct : s.stack.Pairwise (·.id ≠ ·.id)
  /-- So have formatting elements. -/
  marks_lt : ∀ id tag, .element id tag ∈ s.marks → id < s.next
  /-- Only formatting elements are remembered as such. -/
  formatting : ∀ id tag, .element id tag ∈ s.marks → tag.name ∈ formattingTags
  /-- An open element that is remembered is one of them. -/
  same : ∀ e ∈ s.stack, ∀ id tag, .element id tag ∈ s.marks → e.id = id →
    e.isHtmlIn formattingTags = true
  /-- The open form has been numbered. -/
  form_lt : ∀ id, s.form = some id → id < s.next
  /-- If it is on the stack, then as a form. -/
  form : ∀ id, s.form = some id → ∀ e ∈ s.stack, e.id = id → e.isHtml "form" = true
  /-- No template is in the midst of table text. -/
  modes : Mode.tableText ∉ s.templateModes

-- ════════════════════════════════════════════════════════════════════════
-- Closing elements
-- ════════════════════════════════════════════════════════════════════════

/-- **Elements are closed** and formatting elements forgotten. -/
structure Shrinks (s s' : Shape) : Prop where
  /-- No element is made. -/
  next : s'.next = s.next
  /-- The tree does not grow. -/
  elements : s'.elements ≤ s.elements
  /-- The open elements were open. -/
  stack : s'.stack.Sublist s.stack
  /-- No blocks come into an element. -/
  weight : ∀ id, Html.weight id s'.stack ≤ Html.weight id s.stack
  /-- The formatting elements were remembered. -/
  marks : s'.marks.Sublist s.marks
  /-- No form is opened. -/
  form : ∀ id, s'.form = some id → s.form = some id
  /-- Templates may change their mode. -/
  modes : Mode.tableText ∈ s'.templateModes → Mode.tableText ∈ s.templateModes

theorem Shrinks.refl (s : Shape) : s.Shrinks s :=
  ⟨rfl, Nat.le_refl _, .refl _, fun _ => Nat.le_refl _, .refl _, fun _ h => h, fun h => h⟩

theorem Shrinks.trans (h : s.Shrinks s') (h' : s'.Shrinks s'') : s.Shrinks s'' :=
  ⟨h'.next.trans h.next, h'.elements.trans h.elements, h'.stack.trans h.stack,
    fun id => (h'.weight id).trans (h.weight id), h'.marks.trans h.marks,
    fun id hid => h.form id (h'.form id hid), fun hm => h.modes (h'.modes hm)⟩

/-- The shape with other open elements. -/
def withStack (s : Shape) (stack : List OpenElement) : Shape :=
  { s with stack := stack }

/-- The newest elements are closed. -/
theorem Shrinks.of_suffix {stack : List OpenElement} (h : stack <:+ s.stack) :
    s.Shrinks (s.withStack stack) :=
  ⟨rfl, Nat.le_refl _, h.sublist, fun id => weight_le_of_suffix id h, .refl _, fun _ h => h,
    fun h => h⟩

/-- Some elements are closed in the midst of others. -/
theorem Shrinks.of_filter {p : OpenElement → Bool}
    (hp : ∀ e ∈ s.stack, p e = false → e.endsScope = false) :
    s.Shrinks (s.withStack (s.stack.filter p)) :=
  ⟨rfl, Nat.le_refl _, List.filter_sublist, fun id => weight_filter_le id hp, .refl _, fun _ h => h,
    fun h => h⟩

/-- The shape with other formatting elements. -/
def withMarks (s : Shape) (marks : List Mark) : Shape :=
  { s with marks := marks }

theorem Shrinks.of_marks {marks : List Mark} (h : marks.Sublist s.marks) :
    s.Shrinks (s.withMarks marks) :=
  ⟨rfl, Nat.le_refl _, .refl _, fun _ => Nat.le_refl _, h, fun _ h => h, fun h => h⟩

theorem Shrinks.wellFormed (h : s.Shrinks s') (hs : s.WellFormed) : s'.WellFormed where
  elements := by
    rw [h.next]
    exact Nat.lt_of_le_of_lt h.elements hs.elements
  stack_lt e he := h.next ▸ hs.stack_lt e (h.stack.subset he)
  distinct := hs.distinct.sublist h.stack
  marks_lt id tag hm := h.next ▸ hs.marks_lt id tag (h.marks.subset hm)
  formatting id tag hm := hs.formatting id tag (h.marks.subset hm)
  same e he id tag hm := hs.same e (h.stack.subset he) id tag (h.marks.subset hm)
  form_lt id hid := h.next ▸ hs.form_lt id (h.form id hid)
  form id hid e he := hs.form id (h.form id hid) e (h.stack.subset he)
  modes hm := hs.modes (h.modes hm)

theorem Shrinks.remembered_le (h : s.Shrinks s') : s'.remembered ≤ s.remembered :=
  h.marks.countP_le

theorem Shrinks.reach_le (h : s.Shrinks s') : s'.reach ≤ s.reach := by
  have hweight : (s'.marks.map (Mark.weight s'.stack)).sum ≤
      (s'.marks.map (Mark.weight s.stack)).sum := by
    refine List.sum_le_sum fun m _ => ?_
    cases m with
    | border => exact Nat.le_refl 0
    | element id tag => exact h.weight id
  have hmarks : (s'.marks.map (Mark.weight s.stack)).sum ≤
      (s.marks.map (Mark.weight s.stack)).sum :=
    (h.marks.map _).sum_le_sum fun _ _ => Nat.zero_le _
  have hnext := h.next
  unfold reach
  omega

-- ════════════════════════════════════════════════════════════════════════
-- Making elements
-- ════════════════════════════════════════════════════════════════════════

/-- A new element that is not opened, in a tree that has `n` elements then. -/
def insert (s : Shape) (n : Nat) : Shape :=
  { s with elements := n, next := s.next + 1 }

/-- A new element that is opened. -/
def push (s : Shape) (n : Nat) (e : OpenElement) : Shape :=
  { s with elements := n, next := s.next + 1, stack := e :: s.stack }

/-- A new formatting element. -/
def remember (s : Shape) (n : Nat) (e : OpenElement) (tag : Tag) : Shape :=
  { s.push n e with marks := .element s.next tag :: s.marks }

variable {n : Nat} {e : OpenElement} {tag : Tag}

theorem WellFormed.insert (hs : s.WellFormed) (hn : n ≤ s.elements + 1) :
    (s.insert n).WellFormed where
  elements := Nat.lt_succ_of_le (hn.trans hs.elements)
  stack_lt e he := Nat.lt_succ_of_lt (hs.stack_lt e he)
  distinct := hs.distinct
  marks_lt id tag hm := Nat.lt_succ_of_lt (hs.marks_lt id tag hm)
  formatting := hs.formatting
  same := hs.same
  form_lt id hid := Nat.lt_succ_of_lt (hs.form_lt id hid)
  form := hs.form
  modes := hs.modes

theorem WellFormed.push (hs : s.WellFormed) (hn : n ≤ s.elements + 1) (he : e.id = s.next) :
    (s.push n e).WellFormed where
  elements := Nat.lt_succ_of_le (hn.trans hs.elements)
  stack_lt := List.forall_mem_cons.mpr
    ⟨he ▸ Nat.lt_succ_self _, fun e he => Nat.lt_succ_of_lt (hs.stack_lt e he)⟩
  distinct := List.pairwise_cons.mpr
    ⟨fun e' he' => he ▸ Nat.ne_of_gt (hs.stack_lt e' he'), hs.distinct⟩
  marks_lt id tag hm := Nat.lt_succ_of_lt (hs.marks_lt id tag hm)
  formatting := hs.formatting
  same := List.forall_mem_cons.mpr
    ⟨fun id tag hm hid => absurd (hs.marks_lt id tag hm) (by omega), hs.same⟩
  form_lt id hid := Nat.lt_succ_of_lt (hs.form_lt id hid)
  form id hid := List.forall_mem_cons.mpr
    ⟨fun h => absurd (hs.form_lt id hid) (by omega), hs.form id hid⟩
  modes := hs.modes

/-- A formatting element is no block. -/
theorem isBlock_of_formatting (h : e.isHtmlIn formattingTags = true) :
    e.isBlock = false ∧ e.endsScope = false := by
  obtain ⟨id, space, name, holdsHtml⟩ := e
  simp only [OpenElement.isHtmlIn, Bool.and_eq_true, beq_iff_eq, List.contains_iff_mem] at h
  obtain ⟨rfl, hname⟩ := h
  have hall : formattingTags.all (fun name =>
      !(OpenElement.isSpecial ⟨0, .html, name, false⟩) &&
        !(OpenElement.endsScope ⟨0, .html, name, false⟩)) = true := by decide
  have h := List.all_eq_true.mp hall name hname
  rw [Bool.and_eq_true, Bool.not_eq_true', Bool.not_eq_true'] at h
  have hspecial : OpenElement.isSpecial ⟨id, .html, name, holdsHtml⟩ = false := h.1
  refine ⟨?_, h.2⟩
  rw [OpenElement.isBlock, hspecial, Bool.false_and]

theorem WellFormed.remember (hs : s.WellFormed) (hn : n ≤ s.elements + 1) (he : e.id = s.next)
    (hformatting : e.isHtmlIn formattingTags = true) (htag : tag.name ∈ formattingTags) :
    (s.remember n e tag).WellFormed where
  elements := (hs.push hn he).elements
  stack_lt := (hs.push hn he).stack_lt
  distinct := (hs.push hn he).distinct
  marks_lt id t hm := by
    rcases List.mem_cons.mp hm with hm | hm
    · cases hm; exact Nat.lt_succ_self _
    · exact Nat.lt_succ_of_lt (hs.marks_lt id t hm)
  formatting id t hm := by
    rcases List.mem_cons.mp hm with hm | hm
    · cases hm; exact htag
    · exact hs.formatting id t hm
  same e' he' id t hm hid := by
    rcases List.mem_cons.mp he' with rfl | he'
    · exact hformatting
    rcases List.mem_cons.mp hm with hm | hm
    · cases hm
      exact absurd (hs.stack_lt e' he') (by omega)
    · exact hs.same e' he' id t hm hid
  form_lt := (hs.push hn he).form_lt
  form := (hs.push hn he).form
  modes := hs.modes

/-- The element comes into no formatting element as a block. -/
def Light (s : Shape) (e : OpenElement) : Prop :=
  e.isBlock = false ∨ ∀ id tag, .element id tag ∈ s.marks → visible id s.stack = false

theorem sum_weight_cons_le (marks : List Mark) (stack : List OpenElement) (e : OpenElement) :
    (marks.map (Mark.weight (e :: stack))).sum ≤
      (marks.map (Mark.weight stack)).sum + marks.countP Mark.isElement := by
  induction marks with
  | nil => exact Nat.le_refl 0
  | cons m marks ih =>
    cases m with
    | border => simpa [Mark.weight, Mark.isElement] using ih
    | element id tag =>
      have hid := weight_cons_le id e stack
      simp only [List.map_cons, List.sum_cons, Mark.weight, List.countP_cons, Mark.isElement, if_true]
      omega

theorem closed_push_le (s : Shape) (n : Nat) (e : OpenElement) : (s.push n e).closed ≤ s.closed := by
  refine List.countP_mono_left fun m _ h => ?_
  cases m with
  | border => exact h
  | element id tag =>
    simp only [Mark.isOpenOn, push, List.any_cons, Bool.not_or, Bool.and_eq_true] at h ⊢
    exact h.2

theorem reach_push_le (s : Shape) (n : Nat) (e : OpenElement) :
    (s.push n e).reach ≤ s.reach + 1 + 3 * s.remembered := by
  have hsum := sum_weight_cons_le s.marks s.stack e
  simp only [reach, push, remembered]
  omega

theorem reach_push_of_light (h : s.Light e) : (s.push n e).reach = s.reach + 1 := by
  have hsum : s.marks.map (Mark.weight (e :: s.stack)) = s.marks.map (Mark.weight s.stack) := by
    refine List.map_congr_left fun m hm => ?_
    cases m with
    | border => rfl
    | element id tag =>
      rw [Mark.weight, Mark.weight, Html.weight]
      rcases h with hblock | hnone
      · rw [hblock, Bool.false_and]
        exact Nat.add_zero _
      · rw [hnone id tag hm, Bool.and_false]
        exact Nat.add_zero _
  simp only [reach, push, hsum]
  omega

/-- **An opened element** costs as much again as there are formatting elements around it. -/
theorem worth_push_le (s : Shape) (n : Nat) (e : OpenElement) :
    (s.push n e).worth ≤ s.worth + 1 + 3 * s.remembered := by
  have hreach := reach_push_le s n e
  have hclosed := closed_push_le s n e
  have hremembered : (s.push n e).remembered = s.remembered := rfl
  simp only [worth]
  omega

theorem worth_push_of_light (h : s.Light e) : (s.push n e).worth ≤ s.worth + 1 := by
  have hreach := @reach_push_of_light s n e h
  have hclosed := closed_push_le s n e
  have hremembered : (s.push n e).remembered = s.remembered := rfl
  simp only [worth]
  omega

theorem worth_insert (s : Shape) (n : Nat) : (s.insert n).worth = s.worth + 1 := by
  have hclosed : (s.insert n).closed = s.closed := rfl
  have hremembered : (s.insert n).remembered = s.remembered := rfl
  simp only [worth, reach, insert] at *
  omega

theorem weight_of_not_mem {id : Nat} {stack : List OpenElement} (h : ∀ e ∈ stack, e.id ≠ id) :
    visible id stack = false ∧ Html.weight id stack = 0 := by
  induction stack with
  | nil => exact ⟨rfl, rfl⟩
  | cons e stack ih =>
    rw [List.forall_mem_cons] at h
    obtain ⟨hvisible, hweight⟩ := ih h.2
    rw [visible_cons, Html.weight, hvisible, hweight]
    simp [h.1]

/-- A new formatting element has no blocks in it yet. -/
theorem worth_remember_le (hs : s.WellFormed) (he : e.id = s.next)
    (hformatting : e.isHtmlIn formattingTags = true) :
    (s.remember n e tag).worth ≤ s.worth + 4 := by
  have hblock := (isBlock_of_formatting hformatting).1
  have hlight : s.Light e := .inl hblock
  have hpush := @worth_push_of_light s n e hlight
  have hnone : ∀ e ∈ s.stack, e.id ≠ s.next := fun e he => Nat.ne_of_lt (hs.stack_lt e he)
  have hweight : Mark.weight (e :: s.stack) (.element s.next tag) = 0 := by
    rw [Mark.weight, Html.weight, hblock, (weight_of_not_mem hnone).2]
    rfl
  have hopen : Mark.isOpenOn (e :: s.stack) (.element s.next tag) = true := by
    simp [Mark.isOpenOn, he]
  have hreach : (s.remember n e tag).reach = (s.push n e).reach := by
    simp [reach, remember, push, hweight]
  have hclosed : (s.remember n e tag).closed = (s.push n e).closed := by
    simp [closed, remember, push, hopen]
  have hremembered : (s.remember n e tag).remembered = (s.push n e).remembered + 1 := by
    exact List.countP_cons_of_pos rfl
  simp only [worth] at *
  omega

/-- Forgetting formatting elements costs nothing. -/
theorem worth_of_marks_le {marks : List Mark} (h : marks.Sublist s.marks) :
    (s.withMarks marks).worth ≤ s.worth := by
  have hreach : (s.withMarks marks).reach ≤ s.reach := (Shrinks.of_marks h).reach_le
  have hremembered : (s.withMarks marks).remembered ≤ s.remembered :=
    (Shrinks.of_marks h).remembered_le
  have hclosed : (s.withMarks marks).closed ≤ s.closed := h.countP_le
  simp only [worth]
  omega

-- ════════════════════════════════════════════════════════════════════════
-- What tokens do
-- ════════════════════════════════════════════════════════════════════════

/-- Nothing is added to the worth, and what is remembered stays. -/
structure Keeps (s s' : Shape) : Prop where
  /-- The state is one that can be. -/
  wellFormed : s'.WellFormed
  /-- As many formatting elements are remembered. -/
  remembered : s'.remembered = s.remembered
  /-- What they may cost is the same. -/
  worth : s'.worth ≤ s.worth

/-- **Elements are closed** and opened again: that costs at most the formatting elements that remain,
and `k` besides. -/
structure Settles (k : Nat) (s s' : Shape) : Prop where
  /-- The state is one that can be. -/
  wellFormed : s'.WellFormed
  /-- No more formatting elements are remembered. -/
  remembered : s'.remembered ≤ s.remembered
  /-- All of them may be closed. -/
  worth : s'.worth ≤ s.reach + 4 * s'.remembered + k

/-- **An element is made**, at the cost of the formatting elements around it. -/
structure Starts (k : Nat) (s s' : Shape) : Prop where
  /-- The state is one that can be. -/
  wellFormed : s'.WellFormed
  /-- All formatting elements may be closed, and a block may come into each. -/
  worth : s'.worth ≤ s.reach + 7 * s.remembered + k

variable {k : Nat}

theorem Keeps.refl (hs : s.WellFormed) : s.Keeps s :=
  ⟨hs, rfl, Nat.le_refl _⟩

theorem Keeps.of_elements (hs : s.WellFormed) (hn : n ≤ s.elements) :
    s.Keeps { s with elements := n } :=
  ⟨⟨Nat.lt_of_le_of_lt hn hs.elements, hs.stack_lt, hs.distinct, hs.marks_lt, hs.formatting,
    hs.same, hs.form_lt, hs.form, hs.modes⟩, rfl, Nat.le_refl _⟩

/-- Elements are closed that are not remembered. -/
theorem Keeps.of_suffix {front back : List OpenElement} (hs : s.WellFormed)
    (hstack : s.stack = front ++ back) (hfront : ∀ e ∈ front, e.isHtmlIn formattingTags = false) :
    s.Keeps (s.withStack back) := by
  have hshrinks : s.Shrinks (s.withStack back) := .of_suffix (hstack ▸ List.suffix_append _ _)
  refine ⟨hshrinks.wellFormed hs, rfl, ?_⟩
  have hclosed : (s.withStack back).closed = s.closed := by
    refine List.countP_congr fun m hm => ?_
    cases m with
    | border => exact Iff.rfl
    | element id tag =>
      have hother : front.any (·.id == id) = false := by
        refine List.any_eq_false.mpr fun e he hid => ?_
        have hsame := hs.same e (hstack ▸ List.mem_append_left _ he) id tag hm (beq_iff_eq.mp hid)
        rw [hfront e he] at hsame
        cases hsame
      simp only [Mark.isOpenOn, withStack, hstack, List.any_append, hother, Bool.false_or]
  have hreach := hshrinks.reach_le
  have hremembered : (s.withStack back).remembered = s.remembered := rfl
  rw [Shape.worth, Shape.worth]
  omega

theorem Keeps.trans (h : s.Keeps s') (h' : s'.Keeps s'') : s.Keeps s'' :=
  ⟨h'.wellFormed, h'.remembered.trans h.remembered, h'.worth.trans h.worth⟩

/-- **Closing elements** costs at most the formatting elements that remain. -/
theorem Shrinks.settles (h : s.Shrinks s') (hs : s.WellFormed) : Settles 0 s s' := by
  refine ⟨h.wellFormed hs, h.remembered_le, ?_⟩
  have hreach := h.reach_le
  have hclosed := s'.closed_le_remembered
  simp only [worth]
  omega

theorem Settles.mono (h : Settles k s s') {k' : Nat} (hk : k ≤ k') : Settles k' s s' :=
  ⟨h.wellFormed, h.remembered, h.worth.trans (by omega)⟩

theorem Settles.keeps (h : Settles k s s') (h' : s'.Keeps s'') : Settles k s s'' := by
  refine ⟨h'.wellFormed, ?_, ?_⟩
  · rw [h'.remembered]
    exact h.remembered
  · rw [h'.remembered]
    exact h'.worth.trans h.worth

/-- What follows on an opened element. -/
theorem Settles.after_push (h : Settles k (s.push n e) s') : Starts (k + 1) s s' := by
  have hreach := reach_push_le s n e
  have hremembered : (s.push n e).remembered = s.remembered := rfl
  have hless := h.remembered
  exact ⟨h.wellFormed, h.worth.trans (by omega)⟩

theorem Starts.after_push_of_light (hlight : s.Light e) (h : Starts k (s.push n e) s') :
    Starts (k + 1) s s' := by
  have hreach := @reach_push_of_light s n e hlight
  have hremembered : (s.push n e).remembered = s.remembered := rfl
  exact ⟨h.wellFormed, h.worth.trans (by omega)⟩

/-- Opening formatting elements again costs at most all of them. -/
theorem Keeps.settles_trans (h : s.Keeps s') (h' : Settles k s' s'') :
    Settles (s.remembered + k) s s'' := by
  have hworth := h.worth
  have hremembered := h.remembered
  have hclosed := s.closed_le_remembered
  have hworth' := h'.worth
  have hless := h'.remembered
  refine ⟨h'.wellFormed, by omega, ?_⟩
  rw [Shape.worth, Shape.worth] at hworth
  omega

theorem Settles.starts (h : Settles k s s') : Starts k s s' := by
  refine ⟨h.wellFormed, h.worth.trans ?_⟩
  have := h.remembered
  omega

theorem Shrinks.settles_trans (h : s.Shrinks s') (h' : Settles k s' s'') : Settles k s s'' := by
  have hreach := h.reach_le
  exact ⟨h'.wellFormed, h'.remembered.trans h.remembered_le, h'.worth.trans (by omega)⟩

theorem Starts.keeps (h : Starts k s s') (h' : s'.Keeps s'') : Starts k s s'' :=
  ⟨h'.wellFormed, h'.worth.trans h.worth⟩

theorem Starts.mono (h : Starts k s s') {k' : Nat} (hk : k ≤ k') : Starts k' s s' :=
  ⟨h.wellFormed, h.worth.trans (by omega)⟩

theorem Shrinks.starts_trans (h : s.Shrinks s') (h' : Starts k s' s'') : Starts k s s'' := by
  have hreach := h.reach_le
  have hremembered := h.remembered_le
  exact ⟨h'.wellFormed, h'.worth.trans (by omega)⟩

theorem Settles.insert (h : Settles k s s') (hn : n ≤ s'.elements + 1) :
    Settles (k + 1) s (s'.insert n) := by
  refine ⟨h.wellFormed.insert hn, h.remembered, ?_⟩
  have hworth := h.worth
  have hremembered : (s'.insert n).remembered = s'.remembered := rfl
  rw [worth_insert, hremembered]
  omega

theorem Settles.push_of_light (h : Settles k s s') (hn : n ≤ s'.elements + 1) (he : e.id = s'.next)
    (hlight : s'.Light e) : Settles (k + 1) s (s'.push n e) := by
  refine ⟨h.wellFormed.push hn he, h.remembered, ?_⟩
  have hworth := h.worth
  have hpush := @worth_push_of_light s' n e hlight
  have hremembered : (s'.push n e).remembered = s'.remembered := rfl
  omega

/-- A block is opened when all else is settled. -/
theorem Settles.push (h : Settles k s s') (hn : n ≤ s'.elements + 1) (he : e.id = s'.next) :
    Starts (k + 1) s (s'.push n e) := by
  refine ⟨h.wellFormed.push hn he, ?_⟩
  have hworth := h.worth
  have hle := h.remembered
  have hpush := worth_push_le s' n e
  omega

/-- **What a start tag may do.** -/
structure AfterStart (s s' : Shape) : Prop where
  /-- The state is one that can be. -/
  wellFormed : s'.WellFormed
  /-- Each formatting element costs four, for itself or a block in it, and so does the element. -/
  worth : s'.worth ≤ s.worth + 4 * s.remembered + 4

/-- **What an end tag may do** that makes `k` elements. -/
structure AfterEnd (k : Nat) (s s' : Shape) : Prop where
  /-- The state is one that can be. -/
  wellFormed : s'.WellFormed
  /-- No more formatting elements are remembered. -/
  remembered : s'.remembered ≤ s.remembered
  /-- Each of them costs four. -/
  worth : s'.worth ≤ s.worth + 4 * s'.remembered + k

theorem Starts.afterStart (h : Starts 4 s s') : AfterStart s s' := by
  refine ⟨h.wellFormed, ?_⟩
  have hworth := h.worth
  have hparts : s.worth = s.reach + s.closed + 3 * s.remembered := rfl
  omega

theorem Keeps.afterStart (h : s.Keeps s') (h' : AfterStart s' s'') : AfterStart s s'' := by
  refine ⟨h'.wellFormed, ?_⟩
  have hworth := h.worth
  have hremembered := h.remembered
  have hworth' := h'.worth
  omega

theorem Keeps.afterEnd (h : s.Keeps s') (h' : AfterEnd k s' s'') : AfterEnd k s s'' := by
  refine ⟨h'.wellFormed, h'.remembered.trans (Nat.le_of_eq h.remembered), ?_⟩
  have hworth := h.worth
  have hworth' := h'.worth
  omega

theorem AfterEnd.mono (h : AfterEnd k s s') {k' : Nat} (hk : k ≤ k') : AfterEnd k' s s' :=
  ⟨h.wellFormed, h.remembered, h.worth.trans (by omega)⟩

end Shape

end ArticleMarkup.Html
