import ArticleMarkup.Html.Dom
import ArticleMarkup.Html.Token

/-!
# Open elements and formatting elements

The stack of open elements says where the next node goes and which end tags have an effect. The
list of formatting elements remembers which of them have to be opened again in a new block. Both
are kept with the newest entry first.

## Main definitions

- `OpenElement` — an element on the stack
- `inScope` — a search through the stack that ends at a boundary
- `impliedEnds` — the elements whose end tags may be left out
- `Mark` — an entry of the list of formatting elements
-/

namespace ArticleMarkup.Html

/-- An open element. -/
structure OpenElement where
  /-- Its number in the tree. -/
  id : Nat
  /-- Its vocabulary. -/
  space : Space
  /-- Its name. -/
  name : String
  /-- An annotation in mathematical markup whose content is HTML. -/
  holdsHtml : Bool := false
deriving DecidableEq, Repr, Inhabited

namespace OpenElement

/-- An HTML element with the name. -/
def isHtml (e : OpenElement) (name : String) : Bool :=
  e.space == .html && e.name == name

/-- An HTML element with one of the names. -/
def isHtmlIn (e : OpenElement) (names : List String) : Bool :=
  e.space == .html && names.contains e.name

/-- A leaf of mathematical markup, whose text and tags are HTML. -/
def isMathText (e : OpenElement) : Bool :=
  e.space == .math && ["mi", "mo", "mn", "ms", "mtext"].contains e.name

/-- An element of vector graphics whose content is HTML. -/
def isSvgHtml (e : OpenElement) : Bool :=
  e.space == .svg && ["foreignobject", "desc", "title"].contains e.name

/-- The boundary of the usual scope. -/
def endsScope (e : OpenElement) : Bool :=
  e.isHtmlIn ["applet", "caption", "html", "table", "td", "th", "marquee", "object", "template"] ||
    e.isMathText || e.isSvgHtml

/-- The boundary of the scope of list items. -/
def endsListScope (e : OpenElement) : Bool :=
  e.endsScope || e.isHtmlIn ["ol", "ul"]

/-- The boundary of the scope of paragraphs. -/
def endsButtonScope (e : OpenElement) : Bool :=
  e.endsScope || e.isHtml "button"

/-- The boundary of the scope of the parts of a table. -/
def endsTableScope (e : OpenElement) : Bool :=
  e.isHtmlIn ["html", "table", "template"]

/-- The boundary of the scope of a selection: everything but its groups and options. -/
def endsSelectScope (e : OpenElement) : Bool :=
  !e.isHtmlIn ["optgroup", "option"]

/-- The elements with a rule of their own, which an end tag of another element does not close. -/
def isSpecial (e : OpenElement) : Bool :=
  e.isHtmlIn ["address", "applet", "area", "article", "aside", "base", "basefont", "bgsound",
    "blockquote", "body", "br", "button", "caption", "center", "col", "colgroup", "dd", "details",
    "dir", "div", "dl", "dt", "embed", "fieldset", "figcaption", "figure", "footer", "form",
    "frame", "frameset", "h1", "h2", "h3", "h4", "h5", "h6", "head", "header", "hgroup", "hr",
    "html", "iframe", "img", "input", "isindex", "li", "link", "listing", "main", "marquee",
    "menu", "meta", "nav", "noembed", "noframes", "noscript", "object", "ol", "p", "param",
    "plaintext", "pre", "script", "section", "select", "source", "style", "summary", "table",
    "tbody", "td", "template", "textarea", "tfoot", "th", "thead", "title", "tr", "track", "ul",
    "wbr", "xmp"]

end OpenElement

/-- The names of headings. -/
def headingNames : List String := ["h1", "h2", "h3", "h4", "h5", "h6"]

/-- Some element with the property is open within the boundary. -/
def inScope (ends wanted : OpenElement → Bool) : List OpenElement → Bool
  | [] => false
  | e :: rest => wanted e || (!ends e && inScope ends wanted rest)

/-- The stack after the newest element with the property and all above it are closed. -/
def popThrough (wanted : OpenElement → Bool) : List OpenElement → List OpenElement
  | [] => []
  | e :: rest => if wanted e then rest else popThrough wanted rest

/-- The stack from the newest element with the property on. -/
def popTo (wanted : OpenElement → Bool) : List OpenElement → List OpenElement
  | [] => []
  | e :: rest => if wanted e then e :: rest else popTo wanted rest

/-- The elements whose end tag is implied by the end of what encloses them. -/
def impliedEnds : List String :=
  ["dd", "dt", "li", "option", "optgroup", "p", "rb", "rp", "rt", "rtc"]

/-- The elements whose end tag is implied by the end of a template. -/
def allImpliedEnds : List String :=
  impliedEnds ++ ["caption", "colgroup", "tbody", "td", "tfoot", "th", "thead", "tr"]

/-- Close the newest elements while they are among the names. -/
def popImplied (names : List String) : List OpenElement → List OpenElement
  | [] => []
  | e :: rest => if e.isHtmlIn names then popImplied names rest else e :: rest

/-- An entry of the list of formatting elements. -/
inductive Mark where
  /-- The border of a cell, a caption, an object or a template. -/
  | border
  /-- A formatting element with its number and its tag. -/
  | element (id : Nat) (tag : Tag)
deriving DecidableEq, Repr, Inhabited

namespace Mark

/-- The entry is for the element with the number. -/
def isFor (id : Nat) : Mark → Bool
  | border => false
  | element i _ => i == id

/-- The entries newer than the newest border. -/
def recent (marks : List Mark) : List Mark :=
  marks.takeWhile (· != border)

/-- The newest element since the border whose tag has the name. -/
def newest? (name : String) : List Mark → Option (Nat × Tag)
  | [] => none
  | border :: _ => none
  | element id tag :: rest => if tag.name = name then some (id, tag) else newest? name rest

/-- The list without the entry of an element. -/
def without (id : Nat) (marks : List Mark) : List Mark :=
  marks.filter fun m => !m.isFor id

/-- The list after the newest border and all entries newer than it are taken away. -/
def clearToBorder : List Mark → List Mark
  | [] => []
  | border :: rest => rest
  | element _ _ :: rest => clearToBorder rest

/-- The attributes are the same up to their order. -/
def sameAttrs (a b : List Attribute) : Bool :=
  a.length == b.length && a.all b.contains && b.all a.contains

/-- The tags are the same up to the order of attributes. -/
def sameTag (a b : Tag) : Bool :=
  a.name == b.name && sameAttrs a.attrs b.attrs

/-- The list without the oldest of at least three recent entries with the same tag. -/
def makeRoom (tag : Tag) (marks : List Mark) : List Mark :=
  let same := (recent marks).filterMap fun m =>
    match m with
    | element id t => if sameTag tag t then some id else none
    | border => none
  match same.getLast? with
  | some oldest => if 3 ≤ same.length then without oldest marks else marks
  | none => marks

end Mark

end ArticleMarkup.Html
