import ArticleMarkup.Forest
import ArticleMarkup.Schema

/-!
# Sanitizing

The boundary between authored content and the browser. An element whose tag the schema does not
allow gives way to its children, an element with a dropped tag goes with everything in it, and an
attribute stays only when both its name and its value pass.

## Main definitions

- `Schema.cleanAttributes` — the attributes that stay on an element
- `Schema.clean` — the nodes that stay, before the edges are trimmed
- `sanitize` — the sanitized document
- `Removals` — how much was removed

## Design notes

Texts that become neighbours are merged, so that the result is what reading its written form would
give.
-/

namespace ArticleMarkup

/-- How much was removed from a document. -/
structure Removals where
  /-- Elements that gave way to their children. -/
  unwrapped : Nat := 0
  /-- Elements that went with everything in them. -/
  subtrees : Nat := 0
  /-- Attributes taken off elements that stayed. -/
  attributes : Nat := 0
deriving DecidableEq, Repr, Inhabited

namespace Removals

/-- Both together. -/
def add (a b : Removals) : Removals :=
  ⟨a.unwrapped + b.unwrapped, a.subtrees + b.subtrees, a.attributes + b.attributes⟩

instance : Add Removals := ⟨add⟩

/-- Nothing was removed. -/
def isClean (r : Removals) : Bool :=
  r.unwrapped == 0 && r.subtrees == 0 && r.attributes == 0

end Removals

namespace Schema

/-- The words of a class list that pass, or nothing when none of them does. -/
def cleanClasses (pattern : Pattern) (value : String) : Option String :=
  match (Text.words value).filter pattern.accepts with
  | [] => none
  | w :: ws => some (Text.joinWith " " (w :: ws))

/-- An attribute as it stays on an element, or nothing when it has to go. -/
def cleanAttribute (schema : Schema) (tag : String) (attr : Attribute) : Option Attribute :=
  match schema.rule? tag attr.name with
  | none => none
  | some pattern =>
    if attr.name = "class" then (cleanClasses pattern attr.value).map (⟨attr.name, ·⟩)
    else if pattern.accepts attr.value then some attr
    else none

/-- The attributes that stay, in their order. -/
def cleanAttributes (schema : Schema) (tag : String) (attrs : List Attribute) : List Attribute :=
  attrs.filterMap (schema.cleanAttribute tag)

/-- Set the attributes that the schema requires of a tag. -/
def force (schema : Schema) (tag : Tag) : Tag :=
  (schema.required tag.name).foldl (fun t e => t.setAttr e.1 e.2) tag

/-- An allowed tag as it stays. -/
def cleanTag (schema : Schema) (tag : Tag) : Tag :=
  schema.force { tag with attrs := schema.cleanAttributes tag.name tag.attrs }

/-- **The nodes that stay**, with the texts merged that have become neighbours. -/
def clean (schema : Schema) : Forest → Forest
  | .nil => .nil
  | .text s rest => (clean schema rest).consText s
  | .element tag cs rest =>
    if isDroppedTag tag.name then clean schema rest
    else if schema.allowsTag tag.name then
      .element (schema.cleanTag tag) (clean schema cs) (clean schema rest)
    else (clean schema cs).glue (clean schema rest)

/-- **What is removed** on the way. -/
def removals (schema : Schema) : Forest → Removals
  | .nil => {}
  | .text _ rest => removals schema rest
  | .element tag cs rest =>
    if isDroppedTag tag.name then (⟨0, 1, 0⟩ : Removals) + removals schema rest
    else if schema.allowsTag tag.name then
      (⟨0, 0, tag.attrs.length - (schema.cleanAttributes tag.name tag.attrs).length⟩ : Removals)
        + removals schema cs + removals schema rest
    else (⟨1, 0, 0⟩ : Removals) + removals schema cs + removals schema rest

end Schema

/-- **Sanitize a document**: keep what the schema allows and trim the edges. -/
def sanitize (schema : Schema) (document : Forest) : Forest :=
  (schema.clean document).trimEdges

end ArticleMarkup
