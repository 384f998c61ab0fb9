import ArticleMarkup.Tag

/-!
# Forests

A forest is a sequence of text nodes and elements; the children of an element are again a forest,
and so is a whole document. Nodes carry no link to their parent: whatever needs the surroundings
of a node carries them down.

## Main definitions

- `Forest` — the type, with `Forest.append`
- `Forest.textContent` — all text, markup removed
- `Forest.glue` — append two forests and merge the texts that meet
- `Forest.trimEdges` — remove blank text at the ends of a document
- `Forest.events` — the forest as a sequence of opening tags, texts and closing tags
-/

namespace ArticleMarkup

/-- A sequence of sibling nodes with all their descendants. -/
inductive Forest where
  /-- No node at all. -/
  | nil
  /-- A text node and the nodes after it. -/
  | text (content : String) (rest : Forest)
  /-- An element with its children, and the nodes after it. -/
  | element (tag : Tag) (children rest : Forest)
deriving DecidableEq, Repr, Inhabited

namespace Forest

/-- The nodes of `a` followed by the nodes of `b`. -/
def append : Forest → Forest → Forest
  | nil, b => b
  | text s rest, b => text s (rest.append b)
  | element tag cs rest, b => element tag cs (rest.append b)

instance : Append Forest := ⟨append⟩

@[simp] theorem nil_append (b : Forest) : nil ++ b = b := rfl

@[simp] theorem text_append (s : String) (rest b : Forest) :
    text s rest ++ b = text s (rest ++ b) := rfl

@[simp] theorem element_append (tag : Tag) (cs rest b : Forest) :
    element tag cs rest ++ b = element tag cs (rest ++ b) := rfl

@[simp] theorem append_nil (a : Forest) : a ++ nil = a := by
  induction a with
  | nil => rfl
  | text s rest ih => simp [ih]
  | element tag cs rest _ ih => simp [ih]

theorem append_assoc (a b c : Forest) : a ++ b ++ c = a ++ (b ++ c) := by
  induction a with
  | nil => rfl
  | text s rest ih => simp [ih]
  | element tag cs rest _ ih => simp [ih]

/-- A forest of one element. -/
def single (tag : Tag) (children : Forest) : Forest :=
  element tag children nil

/-- A forest of one text node. -/
def ofText (s : String) : Forest :=
  text s nil

/-- There is no node. -/
def isEmpty : Forest → Bool
  | nil => true
  | _ => false

/-- The number of top-level nodes. -/
def size : Forest → Nat
  | nil => 0
  | text _ rest => rest.size + 1
  | element _ _ rest => rest.size + 1

/-- The number of elements at any depth. -/
def elementCount : Forest → Nat
  | nil => 0
  | text _ rest => rest.elementCount
  | element _ cs rest => cs.elementCount + rest.elementCount + 1

/-- The largest number of elements that enclose one another. -/
def depth : Forest → Nat
  | nil => 0
  | text _ rest => rest.depth
  | element _ cs rest => max (cs.depth + 1) rest.depth

/-- **Text content**: every text node in document order, markup removed. -/
def textContent : Forest → String
  | nil => ""
  | text s rest => s ++ rest.textContent
  | element _ cs rest => cs.textContent ++ rest.textContent

/-- Put a text in front; a text node that is already there takes it up. -/
def consText (s : String) : Forest → Forest
  | text t rest => text (s ++ t) rest
  | f => text s f

/-- **Merging append**: like `append`, but a text at the end of `a` and a text at the start of `b`
become one node. -/
def glue : Forest → Forest → Forest
  | nil, b => b
  | text s nil, b => b.consText s
  | text s rest, b => text s (rest.glue b)
  | element tag cs rest, b => element tag cs (rest.glue b)

/-- Some element, at any depth, has a tag with the property. -/
def anyTag (p : Tag → Bool) : Forest → Bool
  | nil => false
  | text _ rest => rest.anyTag p
  | element tag cs rest => p tag || cs.anyTag p || rest.anyTag p

/-- Every top-level node is blank text. -/
def allBlank : Forest → Bool
  | nil => true
  | text s rest => Text.isBlank s && rest.allBlank
  | element _ _ _ => false

/-! ## Document edges -/

/-- Remove the blank text nodes before the first other node. -/
def dropLeadingBlank : Forest → Forest
  | text s rest => if Text.isBlank s then rest.dropLeadingBlank else text s rest
  | f => f

/-- Write a blank text node at the very end as a single newline. -/
def collapseTrailingBlank : Forest → Forest
  | nil => nil
  | text s nil => if Text.isBlank s then text "\n" nil else text s nil
  | text s rest => text s rest.collapseTrailingBlank
  | element tag cs rest => element tag cs rest.collapseTrailingBlank

/-- **Trim the edges** of a document: no blank text before the first node, and at most a newline
after the last. Only top-level nodes are touched. -/
def trimEdges (f : Forest) : Forest :=
  f.dropLeadingBlank.collapseTrailingBlank

/-! ## Events -/

/-- A forest read from left to right. -/
inductive Event where
  /-- An element begins. -/
  | «open» (tag : Tag)
  /-- A text node. -/
  | text (content : String)
  /-- The innermost open element, which has this tag, ends. -/
  | close (tag : Tag)
deriving DecidableEq, Repr

/-- The tags and texts of a forest in document order. -/
def events : Forest → List Event
  | nil => []
  | text s rest => .text s :: rest.events
  | element tag cs rest => .open tag :: (cs.events ++ .close tag :: rest.events)

end Forest

end ArticleMarkup
