import ArticleMarkup.Markdown.Inlines

/-!
# Blocks

The blocks of a document: paragraphs, headings, code, tables and such, and containers that hold
blocks in turn. The type is parametric in what stands for a text, because the texts are read only
after all blocks are known: a definition at the end may give a label at the start its target.

## Main definitions

- `Blocks` — a sequence of blocks with all their content
- `Blocks.map` — change every text
- `Blocks.shape` — the nesting of the nodes, all else forgotten
-/

namespace ArticleMarkup.Markdown

/-- What marks the items of a list. Items with different marks belong to different lists. -/
inductive ListMark where
  /-- A bullet. -/
  | bullet (char : Char)
  /-- A number with the character behind it. -/
  | number (delimiter : Char)
deriving DecidableEq, Repr

/-- The alignment of a column. -/
inductive Alignment where
  /-- None is given. -/
  | standard
  /-- To the left. -/
  | left
  /-- In the middle. -/
  | center
  /-- To the right. -/
  | right
deriving DecidableEq, Repr

/-- A block without blocks inside; `α` stands for the texts. -/
inductive LeafBlock (α : Type) where
  /-- A paragraph. -/
  | paragraph (content : α)
  /-- A heading. -/
  | heading (level : Nat) (content : α)
  /-- Code, with the words behind its fence. -/
  | code (info literal : String)
  /-- Raw HTML. -/
  | html (literal : String)
  /-- A thematic break. -/
  | rule
  /-- A table: its alignments, the head and the other rows. -/
  | table (alignments : List Alignment) (head : List α) (rows : List (List α))
deriving DecidableEq, Repr

/-- The check box of a list item. -/
inductive CheckBox where
  /-- The item has none. -/
  | none
  /-- An empty box. -/
  | empty
  /-- A ticked box. -/
  | ticked
deriving DecidableEq, Repr

/-- A block that holds blocks. -/
inductive Container where
  /-- A quotation. -/
  | quote
  /-- A list, with the number of its first item. A tight list writes its paragraphs without tags. -/
  | list (mark : ListMark) (start : Nat) (tight : Bool)
  /-- An item of a list. -/
  | item (box : CheckBox)
  /-- A footnote: its label, and how many marks refer to it. -/
  | footnote (label : String) (references : Nat)
deriving DecidableEq, Repr

/-- A sequence of blocks. -/
inductive Blocks (α : Type) where
  /-- Nothing. -/
  | nil
  /-- A block without blocks inside, and what comes after it. -/
  | leaf (block : LeafBlock α) (rest : Blocks α)
  /-- A container with its blocks, and what comes after it. -/
  | container (kind : Container) (content rest : Blocks α)
deriving DecidableEq, Repr, Inhabited

/-- Change every text of a block. -/
def LeafBlock.map {α β : Type} (f : α → β) : LeafBlock α → LeafBlock β
  | paragraph a => paragraph (f a)
  | heading n a => heading n (f a)
  | code info literal => code info literal
  | html literal => html literal
  | rule => rule
  | table as head rows => table as (head.map f) (rows.map (·.map f))

namespace Blocks

variable {α β : Type}

/-- The blocks of `a` followed by those of `b`. -/
def append : Blocks α → Blocks α → Blocks α
  | nil, b => b
  | leaf l rest, b => leaf l (rest.append b)
  | container k cs rest, b => container k cs (rest.append b)

instance : Append (Blocks α) := ⟨append⟩

/-- Change every text. -/
def map (f : α → β) : Blocks α → Blocks β
  | nil => nil
  | leaf l rest => leaf (l.map f) (rest.map f)
  | container k cs rest => container k (cs.map f) (rest.map f)

end Blocks

/-! ## Shapes -/

/-- The shape of a tree: a sequence of nodes, each with the shape of what it holds. -/
inductive Shape where
  /-- No node. -/
  | nil
  /-- A node, with what it holds and what comes after it. -/
  | node (content rest : Shape)
deriving DecidableEq, Repr, Inhabited

namespace Shape

/-- The number of nodes. -/
def size : Shape → Nat
  | nil => 0
  | node cs rest => cs.size + rest.size + 1

/-- The largest number of nodes that hold one another. -/
def depth : Shape → Nat
  | nil => 0
  | node cs rest => max (cs.depth + 1) rest.depth

/-- A bound for the steps of a search through shapes. -/
def searchSteps : List (Nat × Shape) → Nat
  | [] => 0
  | (_, s) :: todo => 2 * s.size + 1 + searchSteps todo

/-- **The first node found too deep**: a node of the shapes still to visit whose depth, the number
next to its shape, is above the limit. The shape added last is visited first. -/
def tooDeep? (limit : Nat) : List (Nat × Shape) → Option Nat
  | [] => none
  | (_, nil) :: todo => tooDeep? limit todo
  | (d, node cs rest) :: todo =>
    if d > limit then some d else tooDeep? limit ((d + 1, cs) :: (d, rest) :: todo)
termination_by todo => searchSteps todo
decreasing_by
  · simp [searchSteps]
  · simp [searchSteps, size]; omega

end Shape

/-- The nodes of inline content. -/
def Inlines.shape : Inlines → Shape
  | nil => .nil
  | leaf _ rest => .node .nil rest.shape
  | span _ cs rest => .node cs.shape rest.shape

/-- The nodes of a row of cells. -/
def cellsShape : List Inlines → Shape
  | [] => .nil
  | c :: cs => .node c.shape (cellsShape cs)

/-- The nodes of a block. -/
def LeafBlock.shape : LeafBlock Inlines → Shape
  | paragraph c | heading _ c => c.shape
  | code _ _ | html _ | rule => .nil
  | table _ head rows => (head :: rows).foldr (fun row rest => .node (cellsShape row) rest) .nil

/-- The nodes of blocks. -/
def Blocks.shape : Blocks Inlines → Shape
  | nil => .nil
  | leaf l rest => .node l.shape rest.shape
  | container _ cs rest => .node cs.shape rest.shape

end ArticleMarkup.Markdown
