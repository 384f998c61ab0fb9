import ArticleMarkup.Forest

/-!
# Document trees under construction

The tree that the parser builds. Each element has a number of its own, by which the stack of open
elements and the list of formatting elements refer to it.

## Main definitions

- `NodeTag` — a tag as the tree has it, with the vocabularies of its attributes
- `Dom` — nodes with their siblings and descendants
- `Dom.within?`, `Dom.besideOlder?` — change the tree at a numbered element
- `Dom.extract?` — take an element out of the tree
- `Dom.lower` — the forest of elements and texts, within a limit on nesting

## Design notes

Siblings are kept with the newest first, because construction nearly always adds after the last
node: the places that are reached first are the ones that change. The forest that `Dom.lower`
gives is in document order.
-/

namespace ArticleMarkup.Html

/-- The vocabulary that an element belongs to. -/
inductive Space where
  /-- HTML. -/
  | html
  /-- Scalable vector graphics. -/
  | svg
  /-- Mathematical markup. -/
  | math
deriving DecidableEq, Repr, Inhabited

/-- An attribute in the tree. -/
structure NodeAttribute where
  /-- What names the vocabulary of the attribute, if it has one of its own. -/
  qualifier : Option String := none
  /-- Its name in that vocabulary. -/
  localName : String
  /-- The raw value. -/
  value : String
deriving DecidableEq, Repr, Inhabited

/-- The name and the attributes of an element in the tree. -/
structure NodeTag where
  /-- The element's name. -/
  name : String
  /-- The attributes in the order of writing. -/
  attrs : List NodeAttribute := []
deriving DecidableEq, Repr, Inhabited

namespace Space

/-- The attributes with a vocabulary of their own, which elements of other vocabularies than HTML may
have: its qualifier, and their name in it. -/
def qualifiedAttributes : List (String × String) :=
  [("xlink", "actuate"), ("xlink", "arcrole"), ("xlink", "href"), ("xlink", "role"),
    ("xlink", "show"), ("xlink", "title"), ("xlink", "type"), ("xml", "lang"), ("xml", "space"),
    ("xmlns", "xlink")]

/-- An attribute of an element of the vocabulary, as the tree has it. -/
def nodeAttribute (space : Space) (attr : Attribute) : NodeAttribute :=
  match space with
  | .html => ⟨none, attr.name, attr.value⟩
  | _ =>
    match qualifiedAttributes.find? fun e => e.1 ++ ":" ++ e.2 == attr.name with
    | some (qualifier, name) => ⟨some qualifier, name, attr.value⟩
    | none => ⟨none, attr.name, attr.value⟩

/-- The tag of an element of the vocabulary, as the tree has it. -/
def nodeTag (space : Space) (tag : Tag) : NodeTag :=
  ⟨tag.name, tag.attrs.map space.nodeAttribute⟩

end Space

/-- A node, its descendants, and the siblings that were there before it. -/
inductive Dom where
  /-- No node. -/
  | nil
  /-- A text node. -/
  | text (content : String) (older : Dom)
  /-- A node without content, such as a comment. -/
  | other (older : Dom)
  /-- An element with its number. The children of an HTML `template` are its separate content. -/
  | element (id : Nat) (space : Space) (tag : NodeTag) (children older : Dom)
deriving DecidableEq, Repr, Inhabited

namespace Dom

/-- Add a character after the newest node: to its text, or as a new text node. -/
def pushChar (c : Char) : Dom → Dom
  | text s older => text (s.push c) older
  | dom => text (String.singleton c) dom

/-- Change the children of the element `target` by `f`, if the element is there. -/
def within? (target : Nat) (f : Dom → Dom) : Dom → Option Dom
  | nil => none
  | text s older => (older.within? target f).map (text s)
  | other older => (older.within? target f).map other
  | element id space tag cs older =>
    if id = target then some (element id space tag (f cs) older)
    else
      match cs.within? target f with
      | some cs => some (element id space tag cs older)
      | none => (older.within? target f).map (element id space tag cs)

/-- Change what comes before the element `target` among its siblings by `f`, if the element is
there. -/
def besideOlder? (target : Nat) (f : Dom → Dom) : Dom → Option Dom
  | nil => none
  | text s older => (older.besideOlder? target f).map (text s)
  | other older => (older.besideOlder? target f).map other
  | element id space tag cs older =>
    if id = target then some (element id space tag cs (f older))
    else
      match cs.besideOlder? target f with
      | some cs => some (element id space tag cs older)
      | none => (older.besideOlder? target f).map (element id space tag cs)

/-- Take the element `target` out of the tree: the element alone, and the tree without it. -/
def extract? (target : Nat) : Dom → Option (Dom × Dom)
  | nil => none
  | text s older => (older.extract? target).map fun (e, d) => (e, text s d)
  | other older => (older.extract? target).map fun (e, d) => (e, other d)
  | element id space tag cs older =>
    if id = target then some (element id space tag cs nil, older)
    else
      match cs.extract? target with
      | some (e, cs) => some (e, element id space tag cs older)
      | none => (older.extract? target).map fun (e, d) => (e, element id space tag cs d)

/-- Put the newest node of `node` on top of the siblings. -/
def onTop (node : Dom) (siblings : Dom) : Dom :=
  match node with
  | element id space tag cs _ => element id space tag cs siblings
  | text s _ => text s siblings
  | other _ => other siblings
  | nil => siblings

/-- The number of elements at any depth. -/
def elementCount : Dom → Nat
  | nil => 0
  | text _ older => older.elementCount
  | other older => older.elementCount
  | element _ _ _ cs older => cs.elementCount + older.elementCount + 1

/-! ## Lowering -/

/-- The children of the element do not count as such: the content of a template is apart. -/
def hidesContent (space : Space) (tag : NodeTag) : Bool :=
  space == .html && tag.name == "template"

/-- The attribute as the forest has it, with its qualifier in front of its name. -/
def loweredAttribute (attr : NodeAttribute) : Attribute :=
  match attr.qualifier with
  | some qualifier => ⟨qualifier ++ ":" ++ attr.localName, attr.value⟩
  | none => ⟨attr.localName, attr.value⟩

/-- The tag of an element as the forest has it. Names of other vocabularies lose their capitals. -/
def loweredTag (space : Space) (tag : NodeTag) : Tag :=
  match space with
  | .html => ⟨tag.name, tag.attrs.map loweredAttribute⟩
  | _ => ⟨Text.lowerAscii tag.name, tag.attrs.map loweredAttribute⟩

/-- An element lies deeper than it may. -/
structure TooDeep where
  /-- Where it lies. -/
  depth : Nat
  /-- How deep it may lie. -/
  limit : Nat
deriving DecidableEq, Repr

/-- Put the nodes, which lie at `depth`, in document order in front of `newer`, and stop at an element
that lies deeper than `limit`. Nodes without content disappear, and texts that meet are merged. -/
def lowerBefore (limit depth : Nat) (newer : Forest) : Dom → Except TooDeep Forest
  | nil => .ok newer
  | text s older => older.lowerBefore limit depth (newer.consText s)
  | other older => older.lowerBefore limit depth newer
  | element _ space tag cs older =>
    if limit < depth then .error ⟨depth, limit⟩
    else do
      let children ←
        if hidesContent space tag then .ok .nil else cs.lowerBefore limit (depth + 1) .nil
      older.lowerBefore limit depth (.element (loweredTag space tag) children newer)

/-- **Lower a tree** to a forest, unless an element lies deeper than `limit`. Top-level elements lie
at depth one. -/
def lower (limit : Nat) (dom : Dom) : Except TooDeep Forest :=
  dom.lowerBefore limit 1 .nil

end Dom

end ArticleMarkup.Html
