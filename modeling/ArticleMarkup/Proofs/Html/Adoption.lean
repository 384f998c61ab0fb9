import ArticleMarkup.Proofs.Html.Renewal

/-!
# What the end tag of a formatting element may cost

Such an end tag moves the block out of the formatting element in up to eight rounds. Each of them
makes one new element in the block and at most three around it. But one block less stands in the
formatting element then, which pays for three new elements, so that a round costs at most one, and
only where four formatting elements or more are remembered.

## Main definitions

- `Shape.Adopts` — what some rounds may do

## Main statements

- `Shape.adopts_of_renews` — one round
- `Builder.adopts_adopt` — the end tag
-/

namespace ArticleMarkup.Html

open Shape
open Builder (Adoption insertBehind)
open OpenElement (endsScope isBlock)

variable {id : Nat} {e : OpenElement}

-- ════════════════════════════════════════════════════════════════════════
-- Rounds
-- ════════════════════════════════════════════════════════════════════════

namespace Shape

variable {s s' s'' : Shape} {k k' : Nat}

/-- What `k` rounds may cost. -/
def surplus (s : Shape) (k : Nat) : Nat :=
  if 4 ≤ s.remembered then k else 0

theorem surplus_le (s : Shape) : s.surplus 8 ≤ 2 * s.remembered := by
  unfold surplus
  split <;> omega

theorem surplus_mono (h : s'.remembered ≤ s.remembered) (k : Nat) : s'.surplus k ≤ s.surplus k := by
  unfold surplus
  split <;> split <;> omega

/-- **What `k` rounds** of the end tag of a formatting element may do. -/
structure Adopts (k : Nat) (s s' : Shape) : Prop where
  /-- The state is one that can be. -/
  wellFormed : s'.WellFormed
  /-- Elements are made. -/
  next : s.next ≤ s'.next
  /-- The open elements were open or are new. -/
  stack : ∀ e ∈ s'.stack, e ∈ s.stack ∨ s.next ≤ e.id
  /-- No more formatting elements are remembered. -/
  remembered : s'.remembered ≤ s.remembered
  /-- Each round costs at most one. -/
  reach : s'.reach ≤ s.reach + s.surplus k

theorem Shrinks.adopts (h : s.Shrinks s') (hs : s.WellFormed) (k : Nat) : Adopts k s s' :=
  ⟨h.wellFormed hs, Nat.le_of_eq h.next.symm, fun _ he => .inl (h.stack.subset he),
    h.remembered_le, h.reach_le.trans (Nat.le_add_right _ _)⟩

theorem Adopts.trans (h : Adopts k s s') (h' : Adopts k' s' s'') : Adopts (k + k') s s'' where
  wellFormed := h'.wellFormed
  next := h.next.trans h'.next
  stack e he := by
    rcases h'.stack e he with hold | hnew
    · exact h.stack e hold
    · exact .inr (h.next.trans hnew)
  remembered := h'.remembered.trans h.remembered
  reach := by
    have hfirst := h.reach
    have hsecond := h'.reach
    have hless := h.remembered
    unfold surplus at *
    split at hfirst <;> split at hsecond <;> split <;> omega

theorem Adopts.settles (h : Adopts k s s') : Settles (s.surplus k) s s' := by
  refine ⟨h.wellFormed, h.remembered, ?_⟩
  have hreach := h.reach
  have hclosed := s'.closed_le_remembered
  rw [worth]
  omega

/-- An end tag whose cost is that of its rounds and `k` elements. -/
theorem Settles.afterEnd (h : Settles (s.surplus 8 + k) s s') : AfterEnd k s s' := by
  refine ⟨h.wellFormed, h.remembered, ?_⟩
  have hworth := h.worth
  have hsurplus := s.surplus_le
  have hparts : s.worth = s.reach + s.closed + 3 * s.remembered := rfl
  omega

section Round

variable {inner between below : List OpenElement} {block : OpenElement} {tag : Tag}
  {a : Adoption} {marks : List Mark} {n size : Nat}

/-- The open elements after a round in which some elements were renewed. -/
def adoptedStack (a : Adoption) (tag : Tag) (inner : List OpenElement) (block : OpenElement)
    (below : List OpenElement) : List OpenElement :=
  inner ++ ⟨a.next, .html, tag.name, false⟩ :: block :: (a.renewed.reverse ++ below)

theorem mem_adoptedStack (ha : a.Renews s (inner.countP isBlock + 1) size)
    (htag : tag.name ∈ formattingTags)
    (hstack : s.stack = inner ++ block :: (between ++ e :: below)) {x : OpenElement}
    (hx : x ∈ adoptedStack a tag inner block below) :
    x ∈ s.stack ∨ (s.next ≤ x.id ∧ x.id < a.next + 1 ∧ x.isHtmlIn formattingTags = true) := by
  rcases List.mem_append.mp hx with hinner | hx
  · rw [hstack]
    exact .inl (List.mem_append_left _ hinner)
  rcases List.mem_cons.mp hx with rfl | hx
  · exact .inr ⟨ha.next, Nat.lt_succ_self _, isHtmlIn_of_mem htag _ _⟩
  rcases List.mem_cons.mp hx with rfl | hx
  · rw [hstack]
    exact .inl (List.mem_append_right _ List.mem_cons_self)
  rcases List.mem_append.mp hx with hrenewed | hbelow
  · obtain ⟨hle, hlt, hformatting⟩ := ha.renewed x (List.mem_reverse.mp hrenewed)
    exact .inr ⟨hle, Nat.lt_succ_of_lt hlt, hformatting⟩
  · rw [hstack]
    exact .inl (List.mem_append_right _ (List.mem_cons_of_mem _
      (List.mem_append_right _ (List.mem_cons_of_mem _ hbelow))))

theorem distinct_adoptedStack (hs : s.WellFormed)
    (ha : a.Renews s (inner.countP isBlock + 1) size)
    (hstack : s.stack = inner ++ block :: (between ++ e :: below)) :
    (adoptedStack a tag inner block below).Pairwise (·.id ≠ ·.id) := by
  have hold : (inner ++ block :: below).Pairwise (·.id ≠ ·.id) := by
    refine (hstack ▸ hs.distinct).sublist (.append (.refl _) (.cons_cons _ ?_))
    exact (List.sublist_cons_self e below).trans (List.sublist_append_right _ _)
  have hlt : ∀ x ∈ inner ++ block :: below, x.id < s.next := by
    intro x hx
    refine hs.stack_lt x (hstack ▸ ?_)
    rcases List.mem_append.mp hx with hinner | hx
    · exact List.mem_append_left _ hinner
    rcases List.mem_cons.mp hx with rfl | hbelow
    · exact List.mem_append_right _ List.mem_cons_self
    · exact List.mem_append_right _ (List.mem_cons_of_mem _
        (List.mem_append_right _ (List.mem_cons_of_mem _ hbelow)))
  -- the new elements in front of the old ones
  have hnew : (⟨a.next, .html, tag.name, false⟩ :: a.renewed ++
      (inner ++ block :: below)).Pairwise (fun x y : OpenElement => x.id ≠ y.id) := by
    refine List.pairwise_append.mpr ⟨List.pairwise_cons.mpr ⟨fun x hx => ?_, ha.distinct⟩, hold,
      fun x hx y hy => ?_⟩
    · exact Nat.ne_of_gt (ha.renewed x hx).2.1
    · have hy := hlt y hy
      have hnext := ha.next
      rcases List.mem_cons.mp hx with rfl | hx
      · exact Nat.ne_of_gt (Nat.lt_of_lt_of_le hy hnext)
      · have hx := (ha.renewed x hx).1
        omega
  have hperm : (adoptedStack a tag inner block below).Perm
      (⟨a.next, .html, tag.name, false⟩ :: a.renewed ++ (inner ++ block :: below)) := by
    have hrenewed : (block :: (a.renewed.reverse ++ below)).Perm
        (a.renewed ++ block :: below) :=
      (((List.reverse_perm _).append_right below).cons block).trans List.perm_middle.symm
    exact List.perm_middle.trans (.cons _ ((hrenewed.append_left inner).trans
      (List.perm_append_comm_assoc _ _ _)))
  exact (hperm.pairwise_iff fun h => h.symm).mpr hnew

/-- Old elements have no more blocks in them. -/
theorem noHeavier_adoptedStack (ha : a.Renews s (inner.countP isBlock + 1) size)
    (htag : tag.name ∈ formattingTags)
    (hstack : s.stack = inner ++ block :: (between ++ e :: below))
    (hopen : ∀ x ∈ between ++ [e], x.endsScope = false) (hid : id < s.next) :
    NoHeavier id (adoptedStack a tag inner block below) s.stack := by
  have hclosed : NoHeavier id below ((between ++ [e]) ++ below) :=
    (NoHeavier.refl id below).of_closed_all hopen
  have hrenewed : NoHeavier id (a.renewed.reverse ++ below) ((between ++ [e]) ++ below) := by
    refine hclosed.of_opened_all fun x hx => ?_
    obtain ⟨hle, -, hformatting⟩ := ha.renewed x (List.mem_reverse.mp hx)
    exact ⟨(isBlock_of_formatting hformatting).1, by omega⟩
  have hfresh : OpenElement.isBlock ⟨a.next, .html, tag.name, false⟩ = false :=
    (isBlock_of_formatting (isHtmlIn_of_mem htag _ _)).1
  have hnext := ha.next
  have hall := ((hrenewed.cons block).of_opened hfresh (by dsimp only; omega)).append inner
  rw [List.append_assoc, List.singleton_append] at hall
  rw [hstack]
  exact hall

/-- New elements have those in them that stood in the block or were the block. -/
theorem weight_adoptedStack_le (hs : s.WellFormed)
    (ha : a.Renews s (inner.countP isBlock + 1) size) (htag : tag.name ∈ formattingTags)
    (hstack : s.stack = inner ++ block :: (between ++ e :: below)) (hid : s.next ≤ id) :
    weight id (adoptedStack a tag inner block below) ≤ inner.countP isBlock + 1 ∧
      (id = a.next → weight id (adoptedStack a tag inner block below) ≤ inner.countP isBlock) := by
  have hfresh : OpenElement.isBlock ⟨a.next, .html, tag.name, false⟩ = false :=
    (isBlock_of_formatting (isHtmlIn_of_mem htag _ _)).1
  have hold : ∀ x ∈ s.stack, x.id ≠ id := fun x hx =>
    Nat.ne_of_lt ((hs.stack_lt x hx).trans_le hid)
  rw [hstack] at hold
  have hbelow : weight id below = 0 := (weight_of_not_mem fun x hx => hold x
    (List.mem_append_right _ (List.mem_cons_of_mem _
      (List.mem_append_right _ (List.mem_cons_of_mem _ hx))))).2
  have hnone : a.renewed.reverse.countP isBlock = 0 := by
    refine List.countP_eq_zero.mpr fun x hx => ?_
    rw [(isBlock_of_formatting (ha.renewed x (List.mem_reverse.mp hx)).2.2).1]
    exact Bool.false_ne_true
  have hrest := weight_append_le id a.renewed.reverse below
  have hblock := weight_cons_le id block (a.renewed.reverse ++ below)
  have hinner := weight_append_le id inner
    (⟨a.next, .html, tag.name, false⟩ :: block :: (a.renewed.reverse ++ below))
  have hskip : weight id (⟨a.next, .html, tag.name, false⟩ :: block ::
      (a.renewed.reverse ++ below)) = weight id (block :: (a.renewed.reverse ++ below)) := by
    rw [weight, hfresh, Bool.false_and]
    exact Nat.add_zero _
  rw [← adoptedStack] at hinner
  refine ⟨by omega, fun hentry => ?_⟩
  have hfirst : weight id (block :: (a.renewed.reverse ++ below)) = 0 := by
    refine (weight_of_not_mem fun x hx => ?_).2
    rcases List.mem_cons.mp hx with rfl | hx
    · exact hold x (List.mem_append_right _ List.mem_cons_self)
    rcases List.mem_append.mp hx with hrenewed | hx
    · have hlt := (ha.renewed x (List.mem_reverse.mp hrenewed)).2.1
      omega
    · exact hold x (List.mem_append_right _ (List.mem_cons_of_mem _
        (List.mem_append_right _ (List.mem_cons_of_mem _ hx))))
  omega

/-- In an element below the block there are the blocks in it and the block itself. -/
theorem le_weight_of_visible {back : List OpenElement}
    (hopen : ∀ x ∈ inner ++ [block], x.endsScope = false) (hblock : block.isBlock = true)
    (h : visible id back = true) :
    inner.countP isBlock + 1 ≤ weight id (inner ++ block :: back) := by
  have hweight := weight_append_of_visible hopen h
  have hcount : (inner ++ [block]).countP isBlock = inner.countP isBlock + 1 := by
    rw [List.countP_append, List.countP_singleton, if_pos hblock]
  rw [List.append_assoc, List.singleton_append, hcount] at hweight
  omega

/-- **One block less** stands in the formatting element. -/
theorem sum_weight_adoptedStack (hs : s.WellFormed)
    (hstack : s.stack = inner ++ block :: (between ++ e :: below))
    (hmark : .element e.id tag ∈ s.marks)
    (hopen : ∀ x ∈ inner ++ block :: between, x.endsScope = false) (hblock : block.isBlock = true)
    (ha : a.Renews s (inner.countP isBlock + 1) size)
    (hreplaced : Replaced e.id (.element a.next tag) a.marks marks) :
    (marks.map (Mark.weight (adoptedStack a tag inner block below))).sum + 1 ≤
      (s.marks.map (Mark.weight s.stack)).sum := by
  have htag := hs.formatting e.id tag hmark
  have hmem : e ∈ s.stack := hstack ▸ List.mem_append_right _
    (List.mem_cons_of_mem _ (List.mem_append_right _ List.mem_cons_self))
  have he := (isBlock_of_formatting (hs.same e hmem e.id tag hmark rfl)).2
  have hbetween : ∀ x ∈ between, x.endsScope = false := fun x hx =>
    hopen x (List.mem_append_right _ (List.mem_cons_of_mem _ hx))
  have hvisible : visible e.id (between ++ e :: below) = true := by
    refine visible_append hbetween ?_
    rw [visible_cons]
    simp
  have hinner : ∀ x ∈ inner ++ [block], x.endsScope = false := by
    refine List.forall_mem_append.mpr ⟨fun x hx => hopen x (List.mem_append_left _ hx), ?_⟩
    exact List.forall_mem_singleton.mpr
      (hopen block (List.mem_append_right _ List.mem_cons_self))
  have hheavy : inner.countP isBlock + 1 ≤ weight e.id s.stack := by
    rw [hstack]
    exact le_weight_of_visible hinner hblock hvisible
  have hclosed : ∀ x ∈ between ++ [e], x.endsScope = false :=
    List.forall_mem_append.mpr ⟨hbetween, List.forall_mem_singleton.mpr he⟩
  refine (hreplaced.sum _ (Mark.heft s.stack s.next (inner.countP isBlock + 1)) 1 (fun m _ => ?_)
    fun m _ hfor => ?_).trans ha.heft
  · cases m with
    | border => exact Nat.le_refl 0
    | element i t =>
      rw [Mark.weight, Mark.heft]
      split
      · next hle => exact (weight_adoptedStack_le hs ha htag hstack hle).1
      · next hlt =>
        exact (noHeavier_adoptedStack ha htag hstack hclosed (Nat.not_le.mp hlt)).weight
  · obtain ⟨t, rfl⟩ := Mark.eq_of_isFor hfor
    have hentry := (weight_adoptedStack_le hs ha htag hstack ha.next).2 rfl
    rw [Mark.weight, Mark.heft, if_neg (Nat.not_le.mpr (hs.stack_lt e hmem))]
    omega

/-- A list of formatting elements keeps its length when one is given up for another. -/
theorem countP_replaced_le {marks marks' : List Mark} {entry : Mark}
    (h : Replaced id entry marks marks') :
    marks'.countP Mark.isElement ≤ marks.countP Mark.isElement := by
  have hcount : ∀ marks : List Mark, (marks.map fun m => if m.isElement then 1 else 0).sum =
      marks.countP Mark.isElement := by
    intro marks
    induction marks with
    | nil => rfl
    | cons m marks ih =>
      rw [List.map_cons, List.sum_cons, List.countP_cons, ih]
      exact Nat.add_comm _ _
  have hsum := h.sum (fun m => if m.isElement then 1 else 0)
    (fun m => if m.isElement then 1 else 0) 0 (fun _ _ => Nat.le_refl _) fun m _ hfor => by
      obtain ⟨t, rfl⟩ := Mark.eq_of_isFor hfor
      have hone : (if entry.isElement then 1 else 0) ≤ 1 := by
        split <;> decide
      exact hone
  rw [hcount, hcount] at hsum
  exact hsum

/-- As many elements are renewed as other formatting elements are remembered at most. -/
theorem next_lt_of_renews {limit : Nat} (ha : a.Renews s limit size) (hid : id < s.next)
    (hkept : .element id tag ∈ a.marks) : a.next < s.next + s.remembered := by
  have hsince := ha.since
  have hremembered := ha.remembered
  obtain ⟨newer, older, hsplit⟩ := List.append_of_mem hkept
  have hother : ∀ marks : List Mark,
      marks.countP (Mark.isSince s.next) ≤ marks.countP Mark.isElement := by
    refine fun marks => List.countP_mono_left fun m _ hm => ?_
    cases m with
    | border => exact hm
    | element i t => rfl
  have hnewer := hother newer
  have holder := hother older
  have hnot : ¬ Mark.isSince s.next (.element id tag) = true := by
    simpa [Mark.isSince] using hid
  rw [hsplit, List.countP_append, List.countP_cons_of_neg hnot] at hsince
  rw [hsplit, List.countP_append, List.countP_cons_of_pos rfl] at hremembered
  omega

/-- **One round.** The elements `between` the block and the formatting element are closed, those that
were renewed stand around the block, and the new formatting element in it. -/
theorem adopts_of_renews (hs : s.WellFormed)
    (hstack : s.stack = inner ++ block :: (between ++ e :: below))
    (hmark : .element e.id tag ∈ s.marks)
    (hopen : ∀ x ∈ inner ++ block :: between, x.endsScope = false) (hblock : block.isBlock = true)
    (ha : a.Renews s (inner.countP isBlock + 1) size) (hthree : a.next ≤ s.next + 3)
    (hkept : .element e.id tag ∈ a.marks)
    (hreplaced : Replaced e.id (.element a.next tag) a.marks marks)
    (hn : n + s.next ≤ s.elements + a.next + 1) :
    Adopts 1 s ⟨n, a.next + 1, adoptedStack a tag inner block below, marks, s.form,
      s.templateModes⟩ := by
  have htag := hs.formatting e.id tag hmark
  have hmem : e ∈ s.stack := hstack ▸ List.mem_append_right _
    (List.mem_cons_of_mem _ (List.mem_append_right _ List.mem_cons_self))
  have hnext := ha.next
  have hnew : ∀ x ∈ adoptedStack a tag inner block below, x ∈ s.stack ∨
      (s.next ≤ x.id ∧ x.id < a.next + 1 ∧ x.isHtmlIn formattingTags = true) :=
    fun x hx => mem_adoptedStack ha htag hstack hx
  have hmarks : ∀ i t, .element i t ∈ marks → i = a.next ∧ t = tag ∨ .element i t ∈ a.marks := by
    intro i t hm
    rcases hreplaced.mem _ hm with hentry | hm
    · cases hentry
      exact .inl ⟨rfl, rfl⟩
    · exact .inr hm
  have hremembered : marks.countP Mark.isElement ≤ s.remembered :=
    (countP_replaced_le hreplaced).trans ha.remembered
  refine ⟨?_, hnext.trans (Nat.le_succ _), fun x hx => (hnew x hx).imp_right (·.1), hremembered, ?_⟩
  · exact
      { elements := by
          have helements := hs.elements
          dsimp only
          omega
        stack_lt := fun x hx => by
          rcases hnew x hx with hold | ⟨-, hlt, -⟩
          · exact (hs.stack_lt x hold).trans (Nat.lt_succ_of_le hnext)
          · exact hlt
        distinct := distinct_adoptedStack hs ha hstack
        marks_lt := fun i t hm => by
          rcases hmarks i t hm with ⟨rfl, -⟩ | hm
          · exact Nat.lt_succ_self _
          · exact Nat.lt_succ_of_lt (ha.marks_lt i t hm)
        formatting := fun i t hm => by
          rcases hmarks i t hm with ⟨-, rfl⟩ | hm
          · exact htag
          · exact ha.formatting i t hm
        same := fun x hx i t hm hid => by
          rcases hnew x hx with hold | ⟨-, -, hformatting⟩
          · have hlt := hs.stack_lt x hold
            rcases hmarks i t hm with ⟨rfl, -⟩ | hm
            · omega
            · exact hs.same x hold i t (ha.old i t hm (hid ▸ hlt)) hid
          · exact hformatting
        form_lt := fun i hi => (hs.form_lt i hi).trans (Nat.lt_succ_of_le hnext)
        form := fun i hi x hx hid => by
          rcases hnew x hx with hold | ⟨hle, -, -⟩
          · exact hs.form i hi x hold hid
          · exact absurd (hs.form_lt i hi) (by omega)
        modes := hs.modes }
  · have hsum := sum_weight_adoptedStack hs hstack hmark hopen hblock ha hreplaced
    have hfew := next_lt_of_renews ha (hs.stack_lt e hmem) hkept
    unfold reach surplus
    dsimp only
    split <;> omega

end Round

end Shape

namespace Builder

variable {b : Builder}

theorem newest?_mem {name : String} {tag : Tag} {marks : List Mark}
    (h : Mark.newest? name marks = some (id, tag)) : .element id tag ∈ marks := by
  induction marks with
  | nil => cases h
  | cons m marks ih =>
    cases m with
    | border => cases h
    | element i t =>
      rw [Mark.newest?] at h
      split at h
      · cases h
        exact List.mem_cons_self
      · exact List.mem_cons_of_mem _ (ih h)

theorem shrinks_without (b : Builder) (id : Nat) :
    b.shape.Shrinks { b with marks := Mark.without id b.marks }.shape :=
  .of_marks List.filter_sublist

/-- The elements of the tree after a round: those there were, those around the moved block, and the
one in it. -/
theorem elementCount_adopted_le {dom subtree rest moved : Dom} {block first next : Nat}
    (hextract : dom.extract? block = some (subtree, rest))
    (hmoved : moved.elementCount + first ≤ subtree.elementCount + next) (place : Place)
    (tag : NodeTag) :
    (((changeAt rest place (Dom.onTop moved)).within? block fun cs =>
      .element next .html tag cs .nil).getD (changeAt rest place (Dom.onTop moved))).elementCount +
        first ≤ dom.elementCount + next + 1 := by
  have hplaced := elementCount_changeAt_le (Dom.elementCount_onTop_le moved) rest place
  have hsum := Dom.elementCount_extract? hextract
  have hwrap : ∀ cs : Dom,
      (Dom.element next .html tag cs .nil).elementCount ≤ cs.elementCount + 1 := by
    intro cs
    simp only [Dom.elementCount]
    omega
  cases hwithin : (changeAt rest place (Dom.onTop moved)).within? block fun cs =>
      .element next .html tag cs .nil with
  | none =>
    rw [Option.getD_none]
    omega
  | some wrapped =>
    have hwrapped := Dom.elementCount_within? hwrap hwithin
    rw [Option.getD_some]
    omega

theorem eq_of_distinct {stack : List OpenElement} (h : stack.Pairwise (·.id ≠ ·.id))
    {e' : OpenElement} (he : e ∈ stack) (he' : e' ∈ stack) (hid : e.id = e'.id) : e = e' := by
  induction stack with
  | nil => exact absurd he List.not_mem_nil
  | cons x stack ih =>
    rw [List.pairwise_cons] at h
    rcases List.mem_cons.mp he with rfl | hmem <;> rcases List.mem_cons.mp he' with rfl | hmem'
    · rfl
    · exact absurd hid (h.1 e' hmem')
    · exact absurd hid.symm (h.1 e hmem)
    · exact ih h.2 hmem hmem'

/-- The block that is moved, in the part of the stack above the formatting element. -/
theorem block_split {above : List OpenElement} {block : OpenElement}
    (hdistinct : above.Pairwise (·.id ≠ ·.id))
    (h : above.reverse.find? OpenElement.isSpecial = some block) :
    block.isSpecial = true ∧ above = above.takeWhile (·.id != block.id) ++
      block :: above.drop ((above.takeWhile (·.id != block.id)).length + 1) := by
  have hmem : block ∈ above := List.mem_reverse.mp (List.mem_of_find?_eq_some h)
  obtain ⟨e, he, hid, hsplit⟩ := split_at (List.any_eq_true.mpr ⟨block, hmem, beq_self_eq_true _⟩)
  obtain rfl : e = block := eq_of_distinct hdistinct he hmem hid
  exact ⟨List.find?_some h, hsplit⟩

/-- The new element takes the place of the old one, or stands behind an element of its own. -/
theorem replaced_behind {marks : List Mark} {id new : Nat} {tag : Tag}
    (hkept : .element id tag ∈ marks) (behind : Option Nat) :
    Replaced id (.element new tag) marks
      (match behind with
        | some behind => Mark.without id (insertBehind behind (.element new tag) marks)
        | none => marks.map fun m => if m.isFor id then .element new tag else m) := by
  cases behind with
  | some behind => exact replaced_insertBehind hkept (beq_self_eq_true id) behind
  | none => exact replaced_map hkept (beq_self_eq_true id)

/-- **One round** costs at most one, and nothing while few formatting elements are remembered. -/
theorem adopts_adoptOnce (hb : b.shape.WellFormed) (name : String) :
    Adopts 1 b.shape (b.adoptOnce name).1.shape := by
  unfold adoptOnce
  split
  · exact (b.shrinks_closeGeneric name).adopts hb 1
  next id tag hnewest =>
  have hmark : .element id tag ∈ b.shape.marks := newest?_mem hnewest
  split
  · exact (b.shrinks_without id).adopts hb 1
  next hany =>
  obtain ⟨e, -, rfl, hsplit⟩ := split_at (by simpa using hany)
  split
  · exact (Shrinks.refl _).adopts hb 1
  next hscope =>
  dsimp only
  generalize habove : b.stack.takeWhile (·.id != e.id) = above at *
  generalize hbelow : b.stack.drop (above.length + 1) = below at *
  have hne : ∀ x ∈ above, x.id ≠ e.id := fun x hx => ne_of_mem_takeWhile (habove ▸ hx)
  have hopen : ∀ x ∈ above, x.endsScope = false := by
    refine @open_of_visible e.id above (e :: below) hne ?_
    rw [← hsplit]
    simpa [visible] using hscope
  have hdistinct : above.Pairwise (·.id ≠ ·.id) :=
    (hsplit ▸ hb.distinct : (above ++ e :: below).Pairwise _).sublist
      (List.sublist_append_left above _)
  split
  · have hpop : b.shape.Shrinks { b with stack := below }.shape :=
      .of_suffix (hbelow ▸ List.drop_suffix _ _)
    exact (hpop.trans (shrinks_without _ e.id)).adopts hb 1
  next block hfind =>
  obtain ⟨hspecial, hparts⟩ := block_split hdistinct hfind
  split
  · exact (Shrinks.refl _).adopts hb 1
  next subtree dom hextract =>
  generalize above.takeWhile (·.id != block.id) = inner at *
  generalize above.drop (inner.length + 1) = between at *
  subst hparts
  have hstack : b.shape.stack = inner ++ block :: (between ++ e :: below) := by
    rw [← List.cons_append, ← List.append_assoc]
    exact hsplit
  have hblock : block.isBlock = true := by
    rw [OpenElement.isBlock, hspecial, hopen block (List.mem_append_right _ List.mem_cons_self)]
    rfl
  have hinner : ∀ x ∈ inner ++ [block], x.endsScope = false := fun x hx =>
    hopen x ((List.Sublist.append_left (by simp) inner).subset hx)
  have hbetween : ∀ x ∈ between, x.id < b.next ∧
      inner.countP OpenElement.isBlock + 1 ≤ weight x.id b.shape.stack := by
    intro x hx
    constructor
    · refine hb.stack_lt x (hstack ▸ ?_)
      exact List.mem_append_right _ (List.mem_cons_of_mem _ (List.mem_append_left _ hx))
    · rw [hstack]
      refine le_weight_of_visible hinner hblock (visible_of_mem (fun y hy => ?_) hx)
      exact hopen y (List.mem_append_right _ (List.mem_cons_of_mem _ hy))
  have ha : (Adoption.renewAll
      { moved := subtree, next := b.next, marks := b.marks } 1 between).Renews b.shape
        (inner.countP OpenElement.isBlock + 1) subtree.elementCount :=
    (Adoption.Renews.start hb subtree).renewAll hbetween
  have hthree := Adoption.next_renewAll_le
    { moved := subtree, next := b.next, marks := b.marks } 1 between
  have hkept : .element e.id tag ∈ (Adoption.renewAll
      { moved := subtree, next := b.next, marks := b.marks } 1 between).marks := by
    refine Adoption.mem_marks_renewAll hmark (fun x hx => ?_) 1
    have hxe := hne x (List.mem_append_right _ (List.mem_cons_of_mem _ hx))
    exact beq_eq_false_iff_ne.mpr hxe.symm
  generalize hrenew : Adoption.renewAll
    { moved := subtree, next := b.next, marks := b.marks } 1 between = a at *
  exact adopts_of_renews hb hstack hmark hopen hblock ha hthree hkept (replaced_behind hkept a.behind)
    (elementCount_adopted_le hextract ha.moved _ (Space.html.nodeTag tag))

theorem adopts_adoptRounds (hb : b.shape.WellFormed) (name : String) (rounds : Nat) :
    Adopts rounds b.shape (b.adoptRounds name rounds).shape := by
  induction rounds generalizing b with
  | zero => exact (Shrinks.refl _).adopts hb 0
  | succ rounds ih =>
    have hone := adopts_adoptOnce hb name
    rw [adoptRounds]
    split
    · next b' h =>
      rw [h] at hone
      exact Nat.add_comm 1 rounds ▸ hone.trans (ih hone.wellFormed)
    · next b' h =>
      rw [h] at hone
      exact Nat.add_comm 1 rounds ▸ hone.trans ((Shrinks.refl _).adopts hone.wellFormed rounds)

/-- **The end tag of a formatting element** costs eight at most, and nothing while few formatting
elements are remembered. -/
theorem adopts_adopt (hb : b.shape.WellFormed) (name : String) :
    Adopts 8 b.shape (b.adopt name).shape := by
  unfold adopt
  split
  · split
    · exact b.shrinks_pop.adopts hb 8
    · exact adopts_adoptRounds hb name 8
  · exact adopts_adoptRounds hb name 8

end Builder

end ArticleMarkup.Html
