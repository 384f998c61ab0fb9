import ArticleMarkup.Proofs.Html.Operations

/-!
# Formatting elements that are renewed

The end tag of a formatting element moves a block out of it. The elements around the block are renewed
there, at most three of them, and in each new one stand the blocks that stood in the old one. The
formatting element itself is given up for a new one, in which the moved block no longer stands.

## Main definitions

- `NoHeavier` — no more blocks stand in an element
- `Replaced` — an entry is given up for another
- `Adoption.Renews` — what holds while the elements around the block are renewed

## Main statements

- `Adoption.Renews.renewAll` — renewing some elements
- `Adoption.next_renewAll_le` — they are at most three
-/

namespace ArticleMarkup.Html

open Shape
open Builder (Adoption insertBehind)
open OpenElement (endsScope isBlock)

-- ════════════════════════════════════════════════════════════════════════
-- Blocks in a part of the stack
-- ════════════════════════════════════════════════════════════════════════

variable {id : Nat} {front back : List OpenElement} {e : OpenElement}

theorem visible_append (hopen : ∀ e ∈ front, e.endsScope = false) (h : visible id back = true) :
    visible id (front ++ back) = true := by
  induction front with
  | nil => exact h
  | cons e front ih =>
    rw [List.forall_mem_cons] at hopen
    rw [List.cons_append, visible_cons, hopen.1, ih hopen.2]
    simp

theorem visible_of_mem (hopen : ∀ e ∈ front, e.endsScope = false) (he : e ∈ front) :
    visible e.id (front ++ back) = true := by
  obtain ⟨newer, older, rfl⟩ := List.append_of_mem he
  rw [List.append_assoc]
  refine visible_append (fun e' he' => hopen e' (List.mem_append_left _ he')) ?_
  rw [List.cons_append, visible_cons]
  simp

/-- In front of the element no scope ends. -/
theorem open_of_visible (hid : ∀ e ∈ front, e.id ≠ id) (h : visible id (front ++ back) = true) :
    ∀ e ∈ front, e.endsScope = false := by
  induction front with
  | nil => exact fun e he => absurd he List.not_mem_nil
  | cons e front ih =>
    rw [List.forall_mem_cons] at hid ⊢
    rw [List.cons_append, visible_cons, beq_eq_false_iff_ne.mpr hid.1, Bool.false_or,
      Bool.and_eq_true, Bool.not_eq_true'] at h
    exact ⟨h.1, ih hid.2 h.2⟩

theorem weight_append_le (id : Nat) (front back : List OpenElement) :
    weight id (front ++ back) ≤ front.countP isBlock + weight id back := by
  induction front with
  | nil => exact Nat.le_add_left _ _
  | cons e front ih =>
    rw [List.cons_append, weight, List.countP_cons]
    cases e.isBlock with
    | false => simpa using ih
    | true =>
      have hone : (if true && visible id (front ++ back) then 1 else 0) ≤ 1 := by
        split <;> decide
      simp only [if_true]
      omega

theorem weight_append_of_visible (hopen : ∀ e ∈ front, e.endsScope = false)
    (h : visible id back = true) :
    weight id (front ++ back) = front.countP isBlock + weight id back := by
  induction front with
  | nil => exact (Nat.zero_add _).symm
  | cons e front ih =>
    rw [List.forall_mem_cons] at hopen
    rw [List.cons_append, weight, List.countP_cons, ih hopen.2, visible_append hopen.2 h,
      Bool.and_true]
    omega

/-- **No more blocks stand in the element** on one stack than on another. -/
structure NoHeavier (id : Nat) (stack' stack : List OpenElement) : Prop where
  /-- It is not in scope where it was not. -/
  visible : visible id stack' = true → visible id stack = true
  /-- No blocks come into it. -/
  weight : weight id stack' ≤ weight id stack

namespace NoHeavier

variable {stack stack' : List OpenElement}

theorem refl (id : Nat) (stack : List OpenElement) : NoHeavier id stack stack :=
  ⟨fun h => h, Nat.le_refl _⟩

theorem cons (h : NoHeavier id stack' stack) (e : OpenElement) :
    NoHeavier id (e :: stack') (e :: stack) := by
  constructor
  · rw [visible_cons, visible_cons]
    intro hvisible
    by_cases hid : (e.id == id) = true
    · simp [hid]
    · simp only [hid, Bool.false_or, Bool.and_eq_true] at hvisible ⊢
      exact ⟨hvisible.1, h.visible hvisible.2⟩
  · have hweight := h.weight
    rw [Html.weight, Html.weight]
    by_cases hblock : (e.isBlock && Html.visible id stack') = true
    · rw [Bool.and_eq_true] at hblock
      simp only [hblock.1, hblock.2, h.visible hblock.2, Bool.and_self, if_true]
      omega
    · rw [if_neg hblock]
      omega

theorem append (h : NoHeavier id stack' stack) (front : List OpenElement) :
    NoHeavier id (front ++ stack') (front ++ stack) := by
  induction front with
  | nil => exact h
  | cons e front ih => exact ih.cons e

/-- Where an element is closed. -/
theorem of_closed (h : NoHeavier id stack' stack) (hopen : e.endsScope = false) :
    NoHeavier id stack' (e :: stack) := by
  refine ⟨fun hvisible => ?_, h.weight.trans (weight_le_cons id e stack)⟩
  rw [visible_cons, hopen, h.visible hvisible]
  simp

theorem of_closed_all (h : NoHeavier id stack' stack) (hopen : ∀ e ∈ front, e.endsScope = false) :
    NoHeavier id stack' (front ++ stack) := by
  induction front with
  | nil => exact h
  | cons e front ih =>
    rw [List.forall_mem_cons] at hopen
    exact (ih hopen.2).of_closed hopen.1

/-- Where another element is opened that is no block. -/
theorem of_opened (h : NoHeavier id stack' stack) (hblock : e.isBlock = false) (hid : e.id ≠ id) :
    NoHeavier id (e :: stack') stack := by
  constructor
  · rw [visible_cons, beq_eq_false_iff_ne.mpr hid, Bool.false_or, Bool.and_eq_true]
    exact fun hvisible => h.visible hvisible.2
  · rw [Html.weight, hblock]
    exact h.weight

theorem of_opened_all (h : NoHeavier id stack' stack)
    (hfront : ∀ e ∈ front, e.isBlock = false ∧ e.id ≠ id) :
    NoHeavier id (front ++ stack') stack := by
  induction front with
  | nil => exact h
  | cons e front ih =>
    rw [List.forall_mem_cons] at hfront
    exact (ih hfront.2).of_opened hfront.1.1 hfront.1.2

end NoHeavier

/-- The stack from a wanted element on. -/
theorem split_at {stack : List OpenElement} (h : stack.any (·.id == id) = true) :
    ∃ e ∈ stack, e.id = id ∧ stack = stack.takeWhile (·.id != id) ++
      e :: stack.drop ((stack.takeWhile (·.id != id)).length + 1) := by
  induction stack with
  | nil => cases h
  | cons e stack ih =>
    by_cases hid : e.id = id
    · refine ⟨e, List.mem_cons_self, hid, ?_⟩
      rw [List.takeWhile_cons_of_neg (by simp [hid])]
      rfl
    · rw [List.any_cons, beq_eq_false_iff_ne.mpr hid, Bool.false_or] at h
      obtain ⟨e', hmem, hid', hsplit⟩ := ih h
      refine ⟨e', List.mem_cons_of_mem _ hmem, hid', ?_⟩
      rw [List.takeWhile_cons_of_pos (by simpa using hid)]
      exact congrArg (e :: ·) hsplit

theorem ne_of_mem_takeWhile {stack : List OpenElement}
    (he : e ∈ stack.takeWhile (·.id != id)) : e.id ≠ id := by
  have hne := List.all_eq_true.mp List.all_takeWhile e he
  exact bne_iff_ne.mp hne

-- ════════════════════════════════════════════════════════════════════════
-- The entry of the formatting element
-- ════════════════════════════════════════════════════════════════════════

/-- The entry of an element is given up for another. -/
structure Replaced (id : Nat) (entry : Mark) (marks marks' : List Mark) : Prop where
  /-- Nothing else comes onto the list. -/
  mem : ∀ m ∈ marks', m = entry ∨ m ∈ marks
  /-- A sum over the list changes by as much as the entry given up exceeds the other. -/
  sum : ∀ (f g : Mark → Nat) (k : Nat), (∀ m ∈ marks, f m ≤ g m) →
    (∀ m ∈ marks, m.isFor id = true → f entry + k ≤ g m) →
    (marks'.map f).sum + k ≤ (marks.map g).sum

section Replaced

variable {marks : List Mark} {entry mark : Mark}

theorem replaced_map (hmark : mark ∈ marks) (hid : mark.isFor id = true) :
    Replaced id entry marks (marks.map fun m => if m.isFor id then entry else m) := by
  constructor
  · intro m hm
    obtain ⟨old, hold, rfl⟩ := List.mem_map.mp hm
    split
    · exact .inl rfl
    · exact .inr hold
  · intro f g k hle hentry
    obtain ⟨newer, older, rfl⟩ := List.append_of_mem hmark
    have hother : ∀ m ∈ newer ++ mark :: older, f (if m.isFor id then entry else m) ≤ g m := by
      intro m hm
      split
      · next hfor => exact (Nat.le_add_right _ _).trans (hentry m hm hfor)
      · exact hle m hm
    have hone := hentry mark hmark hid
    have hnewer : (newer.map fun m => f (if m.isFor id then entry else m)).sum ≤
        (newer.map g).sum :=
      List.sum_le_sum fun m hm => hother m (List.mem_append_left _ hm)
    have holder : (older.map fun m => f (if m.isFor id then entry else m)).sum ≤
        (older.map g).sum :=
      List.sum_le_sum fun m hm => hother m (List.mem_append_right _ (List.mem_cons_of_mem _ hm))
    rw [List.map_map, List.map_append, List.map_append, List.map_cons, List.map_cons,
      List.sum_append, List.sum_append, List.sum_cons, List.sum_cons, Function.comp_apply,
      if_pos hid]
    simp only [Function.comp_def]
    omega

theorem insertBehind_perm (behind : Nat) (entry : Mark) (marks : List Mark) :
    (insertBehind behind entry marks).Perm (entry :: marks) := by
  induction marks with
  | nil => exact .refl _
  | cons m marks ih =>
    rw [insertBehind]
    split
    · exact .refl _
    · exact (ih.cons m).trans (.swap _ _ _)

theorem replaced_insertBehind (hmark : mark ∈ marks) (hid : mark.isFor id = true) (behind : Nat) :
    Replaced id entry marks (Mark.without id (insertBehind behind entry marks)) := by
  have hperm := insertBehind_perm behind entry marks
  constructor
  · intro m hm
    exact List.mem_cons.mp (hperm.subset (List.mem_of_mem_filter hm))
  · intro f g k hle hentry
    obtain ⟨newer, older, rfl⟩ := List.append_of_mem hmark
    have hfront : (insertBehind behind entry (newer ++ mark :: older)).Perm
        (mark :: entry :: (newer ++ older)) :=
      hperm.trans ((List.perm_middle.cons entry).trans (.swap _ _ _))
    have hsub : (Mark.without id (mark :: entry :: (newer ++ older))).Sublist
        (entry :: (newer ++ older)) := by
      rw [Mark.without, List.filter_cons_of_neg (by simp [hid])]
      exact List.filter_sublist
    have hsum : ((Mark.without id (insertBehind behind entry (newer ++ mark :: older))).map f).sum ≤
        ((entry :: (newer ++ older)).map f).sum := by
      rw [Mark.without, ((hfront.filter _).map f).sum_eq]
      exact (hsub.map f).sum_le_sum fun _ _ => Nat.zero_le _
    have hone := hentry mark hmark hid
    have hnewer : (newer.map f).sum ≤ (newer.map g).sum :=
      List.sum_le_sum fun m hm => hle m (List.mem_append_left _ hm)
    have holder : (older.map f).sum ≤ (older.map g).sum :=
      List.sum_le_sum fun m hm => hle m (List.mem_append_right _ (List.mem_cons_of_mem _ hm))
    rw [List.map_cons, List.map_append, List.sum_cons, List.sum_append] at hsum
    rw [List.map_append, List.map_cons, List.sum_append, List.sum_cons]
    omega

end Replaced

-- ════════════════════════════════════════════════════════════════════════
-- The elements that are renewed
-- ════════════════════════════════════════════════════════════════════════

/-- The entry is for an element that was made after the first ones. -/
def Mark.isSince (first : Nat) : Mark → Bool
  | border => false
  | element id _ => decide (first ≤ id)

/-- The blocks in the element of the entry, of which there are `limit` in each new one. -/
def Mark.heft (stack : List OpenElement) (first limit : Nat) : Mark → Nat
  | border => 0
  | element id _ => if first ≤ id then limit else Html.weight id stack

theorem Mark.eq_of_isFor {m : Mark} (h : m.isFor id = true) : ∃ tag, m = .element id tag := by
  cases m with
  | border => cases h
  | element id' tag =>
    obtain rfl : id' = id := by simpa [Mark.isFor] using h
    exact ⟨tag, rfl⟩

/-- **What holds while elements are renewed** around a block, of a state with the shape `s` in which
`size` elements are moved. In each renewed element stand the blocks that stood in the old one. -/
structure Builder.Adoption.Renews (s : Shape) (limit size : Nat) (a : Adoption) : Prop where
  /-- New elements have new numbers. -/
  next : s.next ≤ a.next
  /-- They enclose what is moved. -/
  moved : a.moved.elementCount + s.next ≤ size + a.next
  /-- They are formatting elements. -/
  renewed : ∀ e ∈ a.renewed, s.next ≤ e.id ∧ e.id < a.next ∧ e.isHtmlIn formattingTags = true
  /-- No two of them have one number. -/
  distinct : a.renewed.Pairwise (·.id ≠ ·.id)
  /-- What is remembered has been numbered. -/
  marks_lt : ∀ id tag, .element id tag ∈ a.marks → id < a.next
  /-- It is a formatting element. -/
  formatting : ∀ id tag, .element id tag ∈ a.marks → tag.name ∈ formattingTags
  /-- What is not renewed was remembered before. -/
  old : ∀ id tag, .element id tag ∈ a.marks → id < s.next → .element id tag ∈ s.marks
  /-- What is renewed is remembered. -/
  since : a.next ≤ s.next + a.marks.countP (Mark.isSince s.next)
  /-- No more is remembered. -/
  remembered : a.marks.countP Mark.isElement ≤ s.remembered
  /-- No blocks come into an element. -/
  heft : (a.marks.map (Mark.heft s.stack s.next limit)).sum ≤
    (s.marks.map (Mark.weight s.stack)).sum

namespace Builder.Adoption.Renews

variable {s : Shape} {limit size count : Nat} {a : Adoption}

theorem start (hs : s.WellFormed) (moved : Dom) :
    Renews s limit moved.elementCount { moved := moved, next := s.next, marks := s.marks } where
  next := Nat.le_refl _
  moved := Nat.le_refl _
  renewed _ he := absurd he List.not_mem_nil
  distinct := .nil
  marks_lt := hs.marks_lt
  formatting := hs.formatting
  old _ _ hm _ := hm
  since := Nat.le_add_right _ _
  remembered := Nat.le_refl _
  heft := by
    refine List.sum_le_sum fun m hm => ?_
    cases m with
    | border => exact Nat.le_refl 0
    | element id tag =>
      have hlt := hs.marks_lt id tag hm
      rw [Mark.heft, if_neg (by omega), Mark.weight]

/-- A formatting element is forgotten. -/
theorem without (h : Renews s limit size a) (hid : id < s.next) :
    Renews s limit size { a with marks := Mark.without id a.marks } where
  next := h.next
  moved := h.moved
  renewed := h.renewed
  distinct := h.distinct
  marks_lt i tag hm := h.marks_lt i tag (List.mem_of_mem_filter hm)
  formatting i tag hm := h.formatting i tag (List.mem_of_mem_filter hm)
  old i tag hm := h.old i tag (List.mem_of_mem_filter hm)
  since := by
    have hsince : (Mark.without id a.marks).countP (Mark.isSince s.next) =
        a.marks.countP (Mark.isSince s.next) := by
      rw [Mark.without, List.countP_filter]
      refine List.countP_congr fun m _ => ?_
      cases m with
      | border => rfl
      | element i tag =>
        simp only [Mark.isSince, Mark.isFor, Bool.and_eq_true, decide_eq_true_eq,
          Bool.not_eq_true', beq_eq_false_iff_ne]
        omega
    exact hsince ▸ h.since
  remembered := List.filter_sublist.countP_le.trans h.remembered
  heft := ((List.filter_sublist.map _).sum_le_sum fun _ _ => Nat.zero_le _).trans h.heft

/-- **A formatting element is renewed** in which there are as many blocks as in the new one. -/
theorem renewed_of (h : Renews s limit size a) {tag : Tag} (hmark : .element id tag ∈ a.marks)
    (hid : id < s.next) (hlimit : limit ≤ Html.weight id s.stack) (behind : Option Nat) :
    Renews s limit size
      { moved := .element a.next .html (Space.html.nodeTag tag) a.moved .nil
        next := a.next + 1
        renewed := ⟨a.next, .html, tag.name, false⟩ :: a.renewed
        marks := a.marks.map fun m => if m.isFor id then .element a.next tag else m
        behind := behind } where
  next := h.next.trans (Nat.le_succ _)
  moved := by
    have hmoved := h.moved
    simp only [Dom.elementCount]
    omega
  renewed := by
    refine List.forall_mem_cons.mpr ⟨⟨h.next, Nat.lt_succ_self _, ?_⟩, fun e he => ?_⟩
    · exact isHtmlIn_of_mem (h.formatting id tag hmark) _ _
    · obtain ⟨hle, hlt, hformatting⟩ := h.renewed e he
      exact ⟨hle, Nat.lt_succ_of_lt hlt, hformatting⟩
  distinct := List.pairwise_cons.mpr
    ⟨fun e he => Nat.ne_of_gt (h.renewed e he).2.1, h.distinct⟩
  marks_lt i t hm := by
    obtain ⟨m, hmem, heq⟩ := List.mem_map.mp hm
    split at heq
    · cases heq
      exact Nat.lt_succ_self _
    · exact Nat.lt_succ_of_lt (h.marks_lt i t (heq ▸ hmem))
  formatting i t hm := by
    obtain ⟨m, hmem, heq⟩ := List.mem_map.mp hm
    split at heq
    · cases heq
      exact h.formatting id tag hmark
    · exact h.formatting i t (heq ▸ hmem)
  old i t hm hlt := by
    obtain ⟨m, hmem, heq⟩ := List.mem_map.mp hm
    split at heq
    · cases heq
      exact absurd h.next (Nat.not_le_of_lt hlt)
    · exact h.old i t (heq ▸ hmem) hlt
  since := by
    have hsince := h.since
    have hmore : a.marks.countP (Mark.isSince s.next) + 1 ≤
        (a.marks.map fun m => if m.isFor id then .element a.next tag else m).countP
          (Mark.isSince s.next) := by
      obtain ⟨newer, older, hsplit⟩ := List.append_of_mem hmark
      have hothers : ∀ marks : List Mark, marks.countP (Mark.isSince s.next) ≤
          (marks.map fun m => if m.isFor id then .element a.next tag else m).countP
            (Mark.isSince s.next) := by
        intro marks
        rw [List.countP_map]
        refine List.countP_mono_left fun m _ hm => ?_
        rw [Function.comp_apply]
        split
        · exact decide_eq_true h.next
        · exact hm
      have hnewer := hothers newer
      have holder := hothers older
      have hnew : Mark.isSince s.next (.element a.next tag) = true := decide_eq_true h.next
      have hold : ¬ Mark.isSince s.next (.element id tag) = true := by
        simpa [Mark.isSince] using hid
      have hfor : Mark.isFor id (.element id tag) = true := beq_self_eq_true id
      rw [hsplit, List.map_append, List.map_cons, if_pos hfor, List.countP_append,
        List.countP_append, List.countP_cons_of_pos hnew, List.countP_cons_of_neg hold]
      omega
    exact Nat.le_trans (Nat.succ_le_succ hsince) (Nat.add_le_add_left hmore _)
  remembered := by
    have hsame : (a.marks.map fun m => if m.isFor id then .element a.next tag else m).countP
        Mark.isElement = a.marks.countP Mark.isElement := by
      rw [List.countP_map]
      refine List.countP_congr fun m _ => ?_
      rw [Function.comp_apply]
      split
      · next hfor =>
        obtain ⟨t, rfl⟩ := Mark.eq_of_isFor hfor
        exact Iff.rfl
      · exact Iff.rfl
    exact hsame ▸ h.remembered
  heft := by
    refine Nat.le_trans ?_ h.heft
    rw [List.map_map]
    refine List.sum_le_sum fun m _ => ?_
    rw [Function.comp_apply]
    split
    · next hfor =>
      obtain ⟨t, rfl⟩ := Mark.eq_of_isFor hfor
      rw [Mark.heft, Mark.heft, if_pos h.next, if_neg (Nat.not_le_of_lt hid)]
      exact hlimit
    · exact Nat.le_refl _

theorem renew (h : Renews s limit size a) {e : OpenElement} (hid : e.id < s.next)
    (hlimit : limit ≤ Html.weight e.id s.stack) : Renews s limit size (a.renew count e) := by
  unfold Adoption.renew
  split
  · next i tag hfind =>
    have hmark := List.mem_of_find?_eq_some hfind
    have hfor := List.find?_some hfind
    obtain rfl : i = e.id := by simpa [Mark.isFor] using hfor
    split
    · exact h.without hid
    · exact h.renewed_of hmark hid hlimit _
  · exact h

/-- **Renewing elements** from the block outwards. -/
theorem renewAll {between : List OpenElement} (h : Renews s limit size a)
    (hbetween : ∀ e ∈ between, e.id < s.next ∧ limit ≤ Html.weight e.id s.stack) :
    Renews s limit size (a.renewAll count between) := by
  induction between generalizing a count with
  | nil => exact h
  | cons e between ih =>
    rw [List.forall_mem_cons] at hbetween
    exact ih (h.renew hbetween.1.1 hbetween.1.2) hbetween.2

end Builder.Adoption.Renews

namespace Builder.Adoption

variable {a : Adoption} {m : Mark}

theorem mem_marks_renew (hm : m ∈ a.marks) (he : m.isFor e.id = false) (count : Nat) :
    m ∈ (a.renew count e).marks := by
  unfold renew
  split
  · split
    · exact List.mem_filter.mpr ⟨hm, by simp [he]⟩
    · exact List.mem_map.mpr ⟨m, hm, by simp [he]⟩
  · exact hm

theorem mem_marks_renewAll {between : List OpenElement} (hm : m ∈ a.marks)
    (hbetween : ∀ e ∈ between, m.isFor e.id = false) (count : Nat) :
    m ∈ (a.renewAll count between).marks := by
  induction between generalizing a count with
  | nil => exact hm
  | cons e between ih =>
    rw [List.forall_mem_cons] at hbetween
    exact ih (mem_marks_renew hm hbetween.1 count) hbetween.2 (count + 1)

theorem next_renew_le (a : Adoption) (count : Nat) (e : OpenElement) :
    (a.renew count e).next ≤ a.next + (4 - count) - (3 - count) := by
  unfold renew
  split
  · split <;> dsimp only <;> omega
  · omega

/-- At most three elements are renewed. -/
theorem next_renewAll_le (a : Adoption) (count : Nat) (between : List OpenElement) :
    (a.renewAll count between).next ≤ a.next + (4 - count) := by
  induction between generalizing a count with
  | nil => exact Nat.le_add_right _ _
  | cons e between ih =>
    have hone := next_renew_le a count e
    have hothers := ih (a.renew count e) (count + 1)
    rw [renewAll]
    omega

end Builder.Adoption

end ArticleMarkup.Html
