import ArticleMarkup.Html.Fragment
import ArticleMarkup.Proofs.Forest.Events

/-!
# Lowering a tree

Lowering goes over a tree, tests the depth of each element that it comes to, leaves out the nodes
without content and merges the texts that meet. It succeeds exactly when no element lies too deep, and
what it gives is the tree: the same tags and texts in the same order.

## Main definitions

- `Dom.keptTag`, `Dom.IsTemplate` — what is kept of a tag, and whose children are apart
- `Dom.LiesAt` — an element of the tree lies at a depth
- `Dom.depth`, `Dom.toForest` — the greatest depth, and the forest without regard to a limit
- `Dom.events`, `Dom.textContent` — what a tree holds, in document order

## Main statements

- `Dom.lower_eq` — lowering is a test of the depth, and the forest
- `Dom.depth_le_iff` — the depth is the greatest at which an element lies
- `Dom.merge_events_toForestBefore` — the events of the forest
- `Dom.content_lower` — **what lowering keeps**
-/

namespace ArticleMarkup.Html

open Forest (Event)

namespace Dom

-- ════════════════════════════════════════════════════════════════════════
-- Elements
-- ════════════════════════════════════════════════════════════════════════

/-- **What is kept of a tag**: its name, which loses its capitals in other vocabularies than HTML, and its
attributes in their order, each under its whole name. -/
def keptTag (space : Space) (tag : NodeTag) : Tag where
  name := if space = .html then tag.name else Text.lowerAscii tag.name
  attrs := tag.attrs.map fun a =>
    ⟨(a.qualifier.map (· ++ ":")).getD "" ++ a.localName, a.value⟩

/-- The element is a template, whose content is no part of the tree. -/
def IsTemplate (space : Space) (tag : NodeTag) : Prop :=
  space = .html ∧ tag.name = "template"

instance (space : Space) (tag : NodeTag) : Decidable (IsTemplate space tag) :=
  inferInstanceAs (Decidable (space = .html ∧ tag.name = "template"))

theorem loweredTag_eq (space : Space) (tag : NodeTag) : loweredTag space tag = keptTag space tag := by
  have hattr : loweredAttribute = fun a : NodeAttribute =>
      ⟨(a.qualifier.map (· ++ ":")).getD "" ++ a.localName, a.value⟩ := by
    funext ⟨qualifier, name, value⟩
    cases qualifier <;> simp [loweredAttribute]
  unfold loweredTag keptTag
  cases space <;> simp [hattr]

theorem hidesContent_iff {space : Space} {tag : NodeTag} :
    hidesContent space tag = true ↔ IsTemplate space tag := by
  simp [hidesContent, IsTemplate]

-- ════════════════════════════════════════════════════════════════════════
-- The limit
-- ════════════════════════════════════════════════════════════════════════

/-- The largest number of visible elements that enclose one another. -/
def depth : Dom → Nat
  | nil => 0
  | text _ older => older.depth
  | other older => older.depth
  | element _ space tag cs older =>
    if IsTemplate space tag then max 1 older.depth
    else max (cs.depth + 1) older.depth

/-- Put the nodes in document order in front of `newer`. Nodes without content disappear, and texts
that meet are merged. -/
def toForestBefore (newer : Forest) : Dom → Forest
  | nil => newer
  | text s older => older.toForestBefore (newer.consText s)
  | other older => older.toForestBefore newer
  | element _ space tag cs older =>
    let children :=
      if IsTemplate space tag then .nil else cs.toForestBefore .nil
    older.toForestBefore (.element (keptTag space tag) children newer)

/-- The nodes in document order. -/
def toForest (dom : Dom) : Forest :=
  dom.toForestBefore .nil

/-- **Lowering nodes at a depth** stops at the first element below the limit, which always lies just
below it. -/
theorem lowerBefore_eq {limit depth : Nat} (h : depth ≤ limit + 1) (newer : Forest) (dom : Dom) :
    dom.lowerBefore limit depth newer =
      if dom.depth + depth ≤ limit + 1 then .ok (dom.toForestBefore newer)
      else .error ⟨limit + 1, limit⟩ := by
  induction dom generalizing depth newer with
  | nil => rw [Dom.depth, Nat.zero_add, if_pos h]; rfl
  | text s older ih => exact ih h _
  | other older ih => exact ih h _
  | element id space tag cs older ihcs iholder =>
    rw [lowerBefore, Dom.depth, toForestBefore]
    simp only [hidesContent_iff, loweredTag_eq]
    split
    · next hbelow =>
      -- the nodes lie just below the limit, and there is an element among them
      obtain rfl : depth = limit + 1 := by omega
      have hdeep : ¬ (if IsTemplate space tag then max 1 older.depth
          else max (cs.depth + 1) older.depth) + (limit + 1) ≤ limit + 1 := by
        split <;> omega
      rw [if_neg hdeep]
    · next hwithin =>
      by_cases htemplate : IsTemplate space tag
      · have hdeep : max 1 older.depth + depth ≤ limit + 1 ↔ older.depth + depth ≤ limit + 1 := by
          omega
        simp only [if_pos htemplate, bind, Except.bind, iholder h, hdeep]
      · simp only [if_neg htemplate, ihcs (by omega : depth + 1 ≤ limit + 1)]
        by_cases hcs : cs.depth + (depth + 1) ≤ limit + 1
        · have hdeep : max (cs.depth + 1) older.depth + depth ≤ limit + 1 ↔
              older.depth + depth ≤ limit + 1 := by
            omega
          simp only [if_pos hcs, bind, Except.bind, iholder h, hdeep]
        · have hdeep : ¬ max (cs.depth + 1) older.depth + depth ≤ limit + 1 := by omega
          simp only [if_neg hcs, if_neg hdeep, bind, Except.bind]

/-- **Lowering is a test of the depth**, and the forest. -/
theorem lower_eq (limit : Nat) (dom : Dom) :
    dom.lower limit = if dom.depth ≤ limit then .ok dom.toForest else .error ⟨limit + 1, limit⟩ := by
  rw [lower, lowerBefore_eq (Nat.le_add_left 1 limit)]
  simp only [Nat.add_le_add_iff_right, toForest]

/-- **An element lies at a depth**: at depth one on top, and inside an element that does not hide its
content one deeper than there. -/
inductive LiesAt : Nat → Dom → Prop where
  | top {id space tag cs older} : LiesAt 1 (element id space tag cs older)
  | inside {depth id space tag cs older} (hvisible : ¬ IsTemplate space tag)
      (h : LiesAt depth cs) : LiesAt (depth + 1) (element id space tag cs older)
  | besideText {depth s older} (h : LiesAt depth older) : LiesAt depth (text s older)
  | besideOther {depth older} (h : LiesAt depth older) : LiesAt depth (other older)
  | beside {depth id space tag cs older} (h : LiesAt depth older) :
      LiesAt depth (element id space tag cs older)

theorem LiesAt.le_depth {dom : Dom} {depth : Nat} (h : LiesAt depth dom) : depth ≤ dom.depth := by
  induction h with
  | top =>
    rw [Dom.depth]
    split <;> omega
  | inside hvisible _ ih =>
    rw [Dom.depth, if_neg hvisible]
    omega
  | besideText _ ih => exact ih
  | besideOther _ ih => exact ih
  | beside _ ih =>
    rw [Dom.depth]
    split <;> omega

theorem liesAt_depth {dom : Dom} (h : dom.depth ≠ 0) : LiesAt dom.depth dom := by
  induction dom with
  | nil => exact absurd rfl h
  | text s older ih => exact .besideText (ih h)
  | other older ih => exact .besideOther (ih h)
  | element id space tag cs older ihcs iholder =>
    rw [depth]
    split
    · by_cases hbeside : older.depth ≤ 1
      · rw [Nat.max_eq_left hbeside]
        exact .top
      · rw [Nat.max_eq_right (by omega)]
        exact .beside (iholder (by omega))
    · next hvisible =>
      by_cases hbeside : older.depth ≤ cs.depth + 1
      · rw [Nat.max_eq_left hbeside]
        by_cases hempty : cs.depth = 0
        · rw [hempty]
          exact .top
        · exact .inside hvisible (ihcs hempty)
      · rw [Nat.max_eq_right (by omega)]
        exact .beside (iholder (by omega))

/-- **The depth is within a limit** exactly if each element is. -/
theorem depth_le_iff {dom : Dom} {limit : Nat} :
    dom.depth ≤ limit ↔ ∀ depth, LiesAt depth dom → depth ≤ limit := by
  constructor
  · exact fun h depth hlies => Nat.le_trans hlies.le_depth h
  · intro h
    by_cases hempty : dom.depth = 0
    · omega
    · exact h _ (liesAt_depth hempty)

-- ════════════════════════════════════════════════════════════════════════
-- The content
-- ════════════════════════════════════════════════════════════════════════

/-- **The events of a tree** in document order: its visible tags and texts. -/
def events : Dom → List Event
  | nil => []
  | text s older => older.events ++ [.text s]
  | other older => older.events
  | element _ space tag cs older =>
    older.events ++ .open (keptTag space tag) ::
      ((if IsTemplate space tag then [] else cs.events) ++ [.close (keptTag space tag)])

/-- **The text of a tree**: that of all visible text nodes, in document order. -/
def textContent : Dom → String
  | nil => ""
  | text s older => older.textContent ++ s
  | other older => older.textContent
  | element _ space tag cs older =>
    older.textContent ++ if IsTemplate space tag then "" else cs.textContent

/-- **The events of the forest** are those of the tree, up to merging. -/
theorem merge_events_toForestBefore (dom : Dom) (newer : Forest) :
    Event.merge (dom.toForestBefore newer).events = Event.merge (dom.events ++ newer.events) := by
  induction dom generalizing newer with
  | nil => rfl
  | text s older ih =>
    have hnewer : Event.merge (newer.consText s).events = Event.merge (.text s :: newer.events) := by
      rw [Forest.events_consText, Event.merge_consText, Event.merge_text]
    rw [toForestBefore, ih, events, List.append_assoc]
    exact Event.merge_append_congr rfl hnewer
  | other older ih => exact ih newer
  | element id space tag cs older ihcs iholder =>
    have hcs : Event.merge (if IsTemplate space tag then Forest.nil
          else cs.toForestBefore .nil).events =
        Event.merge (if IsTemplate space tag then [] else cs.events) := by
      split
      · rfl
      · rw [ihcs, Forest.events, List.append_nil]
    -- merging stops at the two tags, so it can be done between them first
    have hclose := Event.merge_append_congr hcs
      (rfl : Event.merge (.close (keptTag space tag) :: newer.events) = _)
    have helement : Event.merge (Forest.element (keptTag space tag) (if IsTemplate space tag
          then Forest.nil else cs.toForestBefore .nil) newer).events =
        Event.merge (.open (keptTag space tag) :: ((if IsTemplate space tag then []
          else cs.events) ++ .close (keptTag space tag) :: newer.events)) :=
      congrArg (Event.open (keptTag space tag) :: ·) hclose
    rw [toForestBefore, iholder, events, List.append_assoc, List.cons_append, List.append_assoc]
    exact Event.merge_append_congr rfl helement

theorem textsApart_toForestBefore (dom : Dom) {newer : Forest} (h : newer.textsApart = true) :
    (dom.toForestBefore newer).textsApart = true := by
  induction dom generalizing newer with
  | nil => exact h
  | text s older ih => exact ih (Forest.textsApart_consText s h)
  | other older ih => exact ih h
  | element id space tag cs older ihcs iholder =>
    refine iholder (Bool.and_eq_true_iff.mpr ⟨?_, h⟩)
    split
    · rfl
    · exact ihcs rfl

theorem depth_toForestBefore (dom : Dom) (newer : Forest) :
    (dom.toForestBefore newer).depth = max dom.depth newer.depth := by
  induction dom generalizing newer with
  | nil => exact (Nat.zero_max _).symm
  | text s older ih => rw [toForestBefore, ih, Forest.depth_consText, depth]
  | other older ih => exact ih newer
  | element id space tag cs older ihcs iholder =>
    rw [toForestBefore, iholder, depth, Forest.depth]
    split
    · simp only [Forest.depth]
      omega
    · rw [ihcs, Forest.depth]
      omega

theorem textContent_toForestBefore (dom : Dom) (newer : Forest) :
    (dom.toForestBefore newer).textContent = dom.textContent ++ newer.textContent := by
  induction dom generalizing newer with
  | nil => exact String.empty_append.symm
  | text s older ih =>
    rw [toForestBefore, ih, Forest.textContent_consText, textContent, String.append_assoc]
  | other older ih => exact ih newer
  | element id space tag cs older ihcs iholder =>
    rw [toForestBefore, iholder, textContent, Forest.textContent, String.append_assoc]
    split
    · rfl
    · rw [ihcs, Forest.textContent, String.append_empty]

/-- **What lowering keeps.** It succeeds exactly if no element lies deeper than the limit, and otherwise
reports the depth just below the limit. The forest that it gives has the visible tags and texts of the
tree in the same order, with the texts merged that meet. So no two of its texts are neighbours, none of
its elements lies too deep, and its text is that of the tree. -/
theorem content_lower (dom : Dom) (limit : Nat) :
    ((∃ f, dom.lower limit = .ok f) ↔ ∀ depth, LiesAt depth dom → depth ≤ limit) ∧
    (∀ e, dom.lower limit = .error e → e = ⟨limit + 1, limit⟩) ∧
    ∀ f, dom.lower limit = .ok f →
      f.events = Event.merge dom.events ∧ f.textsApart = true ∧ f.depth ≤ limit ∧
        f.textContent = dom.textContent := by
  rw [lower_eq, ← depth_le_iff]
  split
  · next hdepth =>
    refine ⟨iff_of_true ⟨_, rfl⟩ hdepth, ?_, ?_⟩
    · intro e h
      cases h
    · intro f h
      cases h
      have hapart : dom.toForest.textsApart = true := textsApart_toForestBefore dom rfl
      have hevents := merge_events_toForestBefore dom .nil
      have hdeep := depth_toForestBefore dom .nil
      have htext := textContent_toForestBefore dom .nil
      rw [← toForest, Forest.merge_events hapart, Forest.events, List.append_nil] at hevents
      rw [← toForest, Forest.depth, Nat.max_zero] at hdeep
      rw [← toForest, Forest.textContent, String.append_empty] at htext
      exact ⟨hevents, hapart, hdeep ▸ hdepth, htext⟩
  · next hdepth =>
    refine ⟨iff_of_false ?_ hdepth, ?_, ?_⟩
    · rintro ⟨f, h⟩
      cases h
    · intro e h
      cases h
      rfl
    · intro f h
      cases h

end Dom

/-- The forest of a text, by the depth and the forest of its tree. -/
theorem lower_eq (html : String) (limit : Nat) :
    lower html limit =
      if Text.isBlank html then some .nil
      else if (tree html).depth ≤ limit then some (tree html).toForest
      else none := by
  rw [lower, lowered, Dom.lower_eq]
  split
  · rfl
  · split <;> rfl

end ArticleMarkup.Html
