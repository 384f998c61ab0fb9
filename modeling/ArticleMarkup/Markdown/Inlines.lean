import ArticleMarkup.Markdown.Reference

/-!
# Inline content

The content of a paragraph, a heading or a table cell: texts, breaks and code, and spans that hold
content in turn. As in a forest of elements, siblings form a sequence and a span carries its own.

## Main definitions

- `Inlines` — the type, with `Inlines.append`
- `Inlines.mergeTexts` — neighbouring texts become one, and empty texts go
- `Inlines.noteLabel` — the text of a footnote's label, read from what its brackets enclose
-/

namespace ArticleMarkup.Markdown

/-- A piece of inline content without content of its own. -/
inductive Leaf where
  /-- Text, with all escapes resolved. -/
  | text (content : String)
  /-- A line break, which is hard if it is written with two spaces or a backslash. -/
  | lineBreak (hard : Bool)
  /-- Code. -/
  | code (content : String)
  /-- Raw HTML. -/
  | html (content : String)
  /-- A mark that refers to the footnote with this label. -/
  | noteMark (label : String)
  /-- A mark that refers to a footnote that exists: the footnote's own label, its number, and how
  many marks have referred to it so far. -/
  | noteLink (label : String) (number occurrence : Nat)
deriving DecidableEq, Repr

/-- What a span means. -/
inductive Span where
  /-- Emphasis. -/
  | emphasis
  /-- Strong emphasis. -/
  | strong
  /-- Struck text. -/
  | strike
  /-- A link. -/
  | link (target : Target)
  /-- An image, whose content stands for it as text. -/
  | image (target : Target)
deriving DecidableEq, Repr

/-- A sequence of inline pieces. -/
inductive Inlines where
  /-- Nothing. -/
  | nil
  /-- A piece without content, and what comes after it. -/
  | leaf (piece : Leaf) (rest : Inlines)
  /-- A span with its content, and what comes after it. -/
  | span (kind : Span) (content rest : Inlines)
deriving DecidableEq, Repr, Inhabited

namespace Inlines

/-- The pieces of `a` followed by those of `b`. -/
def append : Inlines → Inlines → Inlines
  | nil, b => b
  | leaf l rest, b => leaf l (rest.append b)
  | span k cs rest, b => span k cs (rest.append b)

instance : Append Inlines := ⟨append⟩

/-- Put a text in front; a text that is already there takes it up. -/
def consText (s : String) : Inlines → Inlines
  | leaf (.text t) rest => leaf (.text (s ++ t)) rest
  | rest => if s.isEmpty then rest else leaf (.text s) rest

/-- **Merge texts**: neighbouring texts become one, and empty texts go. -/
def mergeTexts : Inlines → Inlines
  | nil => nil
  | leaf (.text s) rest => rest.mergeTexts.consText s
  | leaf l rest => leaf l rest.mergeTexts
  | span k cs rest => span k cs.mergeTexts rest.mergeTexts

/-- The texts and the raw HTML among the pieces, markup and all else left out. -/
def noteLabel : Inlines → String
  | nil => ""
  | leaf (.text s) rest | leaf (.html s) rest => s ++ rest.noteLabel
  | leaf _ rest | span _ _ rest => rest.noteLabel

/-- The first piece is a text that begins with the character. -/
def beginsWith (c : Char) : Inlines → Bool
  | leaf (.text s) _ => s.toList.head? == some c
  | _ => false

end Inlines

end ArticleMarkup.Markdown
