import ArticleMarkup.Markdown.Document
import Mathlib.Algebra.BigOperators.Group.Multiset.Basic
import Mathlib.Order.WellFounded

/-!
# The depth of a document

The search for a node that is too deep keeps the nodes that are still to be visited, each with its
depth. It does not matter which of them is visited next: each round takes one node away for good, the
nodes in it are one deeper, and a search that has met no node below the limit has only ever kept nodes
that are at most one deeper than the limit.

## Main definitions

- `Shape.nodes` — the nodes of a sequence, each by what it holds
- `Shape.LiesAt` — a node lies at a depth
- `Shape.Round` — one round of a search, in any order
- `Shape.Finds` — a whole search, in any order, and what it finds

## Main statements

- `Shape.depth_le_iff` — the depth is the greatest at which a node lies
- `Shape.wellFounded_round` — every search ends
- `Shape.Finds.cases` — what a search finds
- `Shape.finds_iff` — every search of a tree finds the same
-/

namespace ArticleMarkup.Markdown

namespace Shape

/-- The nodes of a sequence, each by what it holds. -/
def nodes : Shape → List Shape
  | nil => []
  | node cs rest => cs :: rest.nodes

/-- **A node lies at a depth** in the tree of a node that holds `content`; that node is at depth zero. -/
inductive LiesAt : Nat → Shape → Prop where
  | root {content} : LiesAt 0 content
  | inside {depth child content} (hchild : child ∈ content.nodes) (h : LiesAt depth child) :
      LiesAt (depth + 1) content

theorem lt_depth_iff {content : Shape} {n : Nat} :
    n < content.depth ↔ ∃ child ∈ content.nodes, n ≤ child.depth := by
  induction content with
  | nil => simp [depth, nodes]
  | node cs rest _ ih =>
    rw [depth, nodes, lt_max_iff, ih]
    simp only [List.mem_cons, exists_eq_or_imp, Nat.lt_add_one_iff]

theorem LiesAt.le_depth {content : Shape} {n : Nat} (h : LiesAt n content) : n ≤ content.depth := by
  induction h with
  | root => exact Nat.zero_le _
  | inside hchild _ ih => exact lt_depth_iff.mpr ⟨_, hchild, ih⟩

theorem liesAt_of_le_depth {content : Shape} {n : Nat} (h : n ≤ content.depth) :
    LiesAt n content := by
  induction n generalizing content with
  | zero => exact .root
  | succ n ih =>
    obtain ⟨child, hchild, hn⟩ := lt_depth_iff.mp h
    exact .inside hchild (ih hn)

/-- **The depth is within a limit** exactly if that of each node is. -/
theorem depth_le_iff {content : Shape} {limit : Nat} :
    content.depth ≤ limit ↔ ∀ n, LiesAt n content → n ≤ limit := by
  constructor
  · intro h n hn
    exact hn.le_depth.trans h
  · intro h
    exact h _ (liesAt_of_le_depth le_rfl)

-- ════════════════════════════════════════════════════════════════════════
-- Searches in any order
-- ════════════════════════════════════════════════════════════════════════

/-- The nodes in a node at a depth, with their own depth. -/
def inside (depth : Nat) (content : Shape) : Multiset (Nat × Shape) :=
  content.nodes.map (depth + 1, ·)

/-- **One round of a search**: any node that is not too deep gives way to the nodes in it. -/
inductive Round (limit : Nat) : Multiset (Nat × Shape) → Multiset (Nat × Shape) → Prop where
  | visit {depth content todo} (h : depth ≤ limit) :
      Round limit ((depth, content) ::ₘ todo) (inside depth content + todo)

/-- **A search and what it finds**: the depth of any node that is too deep, once such a node comes up,
or nothing when no node is left. -/
inductive Finds (limit : Nat) : Multiset (Nat × Shape) → Option Nat → Prop where
  | nothing : Finds limit 0 none
  | deep {depth content todo} (h : limit < depth) :
      Finds limit ((depth, content) ::ₘ todo) (some depth)
  | later {todo todo' found} (hround : Round limit todo todo') (h : Finds limit todo' found) :
      Finds limit todo found

variable {limit : Nat} {todo todo' : Multiset (Nat × Shape)} {found : Option Nat}

-- The end of a search

/-- The number of nodes still to be visited, those in others included. -/
def remaining (todo : Multiset (Nat × Shape)) : Nat :=
  (todo.map fun p => p.2.size + 1).sum

theorem remaining_inside (depth : Nat) (content : Shape) :
    remaining (inside depth content) = content.size := by
  induction content with
  | nil => rfl
  | node cs rest _ ih =>
    simp only [remaining, inside, Multiset.map_coe, Multiset.sum_coe, List.map_map] at ih
    simp only [remaining, inside, nodes, size, List.map_cons, Multiset.map_coe, Multiset.sum_coe,
      List.sum_cons, List.map_map, ih]
    omega

/-- A round visits one node. -/
theorem Round.remaining_eq (h : Round limit todo todo') : remaining todo = remaining todo' + 1 := by
  cases h with
  | @visit depth content todo _ =>
    have hinside := remaining_inside depth content
    simp only [remaining, Multiset.map_cons, Multiset.map_add, Multiset.sum_cons,
      Multiset.sum_add] at hinside ⊢
    omega

/-- **Every search ends**, whatever is visited first. -/
theorem wellFounded_round (limit : Nat) :
    WellFounded fun after before => Round limit before after := by
  refine Subrelation.wf ?_ (measure remaining).wf
  intro after before h
  show remaining after < remaining before
  rw [h.remaining_eq]
  exact Nat.lt_succ_self _

-- The result of a search

/-- A node that is too deep is among the nodes to be visited, or in one of them. -/
def Deep (limit : Nat) (todo : Multiset (Nat × Shape)) : Prop :=
  ∃ p ∈ todo, limit < p.1 + p.2.depth

/-- No node to be visited is more than one deeper than the limit. -/
def Shallow (limit : Nat) (todo : Multiset (Nat × Shape)) : Prop :=
  ∀ p ∈ todo, p.1 ≤ limit + 1

/-- The nodes that are too deep stay among those to be visited. -/
theorem Round.deep_iff (h : Round limit todo todo') : Deep limit todo' ↔ Deep limit todo := by
  cases h with
  | @visit depth content todo hdepth =>
    have hinside : (∃ p ∈ inside depth content, limit < p.1 + p.2.depth) ↔
        limit < depth + content.depth := by
      have hshift : limit < depth + content.depth ↔ limit - depth < content.depth := by omega
      rw [hshift, lt_depth_iff]
      simp only [inside, Multiset.mem_coe, List.mem_map, exists_exists_and_eq_and]
      refine exists_congr fun child => and_congr_right fun _ => ?_
      omega
    simp only [Deep, Multiset.mem_add, Multiset.mem_cons, or_and_right, exists_or, hinside,
      exists_eq_left]

theorem Round.shallow (h : Round limit todo todo') (htodo : Shallow limit todo) :
    Shallow limit todo' := by
  cases h with
  | @visit depth content todo hdepth =>
    intro p hp
    rcases Multiset.mem_add.mp hp with hp | hp
    · obtain ⟨child, -, rfl⟩ := List.mem_map.mp (Multiset.mem_coe.mp hp)
      exact Nat.add_le_add_right hdepth 1
    · exact htodo p (Multiset.mem_cons_of_mem hp)

/-- **What a search finds**: nothing if no node is too deep, and otherwise the depth just below the
limit. -/
theorem Finds.cases (h : Finds limit todo found) (htodo : Shallow limit todo) :
    (found = none ∧ ¬Deep limit todo) ∨ (found = some (limit + 1) ∧ Deep limit todo) := by
  induction h with
  | nothing =>
    refine .inl ⟨rfl, ?_⟩
    rintro ⟨p, hp, -⟩
    exact Multiset.notMem_zero p hp
  | @deep depth content todo hdeep =>
    have hnext := htodo _ (Multiset.mem_cons_self _ _)
    have hdepth : depth = limit + 1 := by omega
    refine .inr ⟨congrArg some hdepth, (depth, content), Multiset.mem_cons_self _ _, ?_⟩
    omega
  | later hround _ ih =>
    rw [← hround.deep_iff]
    exact ih (hround.shallow htodo)

-- ════════════════════════════════════════════════════════════════════════
-- The search from front to back
-- ════════════════════════════════════════════════════════════════════════

/-- The nodes of sequences, each with the depth that is next to its sequence. -/
def pending (todo : List (Nat × Shape)) : Multiset (Nat × Shape) :=
  todo.flatMap fun p => p.2.nodes.map (p.1, ·)

theorem pending_node (d : Nat) (cs rest : Shape) (todo : List (Nat × Shape)) :
    pending ((d, node cs rest) :: todo) = (d, cs) ::ₘ pending ((d, rest) :: todo) := rfl

theorem pending_inside (d : Nat) (cs : Shape) (todo : List (Nat × Shape)) :
    pending ((d + 1, cs) :: todo) = inside d cs + pending todo := rfl

/-- Going through the nodes from front to back is a search. -/
theorem finds_tooDeep? (limit : Nat) (todo : List (Nat × Shape)) :
    Finds limit (pending todo) (tooDeep? limit todo) := by
  fun_induction tooDeep? limit todo with
  | case1 => exact .nothing
  | case2 d todo ih => exact ih
  | case3 d cs rest todo hdeep =>
    rw [pending_node]
    exact .deep hdeep
  | case4 d cs rest todo hdeep ih =>
    rw [pending_inside] at ih
    rw [pending_node]
    exact .later (.visit (Nat.not_lt.mp hdeep)) ih

-- ════════════════════════════════════════════════════════════════════════
-- Searches of a whole tree
-- ════════════════════════════════════════════════════════════════════════

variable {limit : Nat} {tree : Shape}

/-- **The order does not matter**: every search of a tree finds the same, nothing or the depth just
below the limit. -/
theorem finds_iff {found : Option Nat} :
    Finds limit {(0, tree)} found ↔
      found = if tree.depth ≤ limit then none else some (limit + 1) := by
  have honly {found : Option Nat} (h : Finds limit {(0, tree)} found) :
      found = if tree.depth ≤ limit then none else some (limit + 1) := by
    have hshallow : Shallow limit {(0, tree)} := by
      intro p hp
      rw [Multiset.mem_singleton.mp hp]
      exact Nat.zero_le _
    have hdeep : Deep limit {(0, tree)} ↔ limit < tree.depth := by
      simp [Deep]
    rcases h.cases hshallow with ⟨rfl, hno⟩ | ⟨rfl, hyes⟩
    · rw [if_pos (Nat.not_lt.mp (mt hdeep.mpr hno))]
    · rw [if_neg (Nat.not_le.mpr (hdeep.mp hyes))]
  constructor
  · exact honly
  · rintro rfl
    -- one search is known, so it is the one that finds this
    have hsome : Finds limit {(0, tree)} (tooDeep? limit [(0, .node tree .nil)]) :=
      finds_tooDeep? limit [(0, .node tree .nil)]
    rwa [honly hsome] at hsome

theorem finds_none_iff :
    Finds limit {(0, tree)} none ↔ ∀ depth, LiesAt depth tree → depth ≤ limit := by
  rw [finds_iff, ← depth_le_iff]
  by_cases h : tree.depth ≤ limit
  · simp [h]
  · simp [h]

theorem finds_some_iff {found : Nat} :
    Finds limit {(0, tree)} (some found) ↔
      found = limit + 1 ∧ ∃ depth, LiesAt depth tree ∧ limit < depth := by
  have hdeep : (∃ depth, LiesAt depth tree ∧ limit < depth) ↔ ¬tree.depth ≤ limit := by
    rw [depth_le_iff]
    simp
  rw [finds_iff, hdeep]
  by_cases h : tree.depth ≤ limit
  · simp [h]
  · simp [h]

end Shape

/-- The search of a document is one of them. -/
theorem finds_exceedsDepth? (limit : Nat) (document : Blocks Inlines) :
    Shape.Finds limit {(0, document.shape)} (exceedsDepth? limit document) :=
  Shape.finds_tooDeep? limit [(0, .node document.shape .nil)]

theorem exceedsDepth?_eq (limit : Nat) (document : Blocks Inlines) :
    exceedsDepth? limit document =
      if document.shape.depth ≤ limit then none else some (limit + 1) :=
  Shape.finds_iff.mp (finds_exceedsDepth? limit document)

end ArticleMarkup.Markdown
