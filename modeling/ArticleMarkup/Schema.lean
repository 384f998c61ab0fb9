import ArticleMarkup.Schema.Pattern

/-!
# Allow-list schemas

A schema says which tags a document may hold, which attributes each of them may carry and with
which values. The entry of the wildcard applies to every allowed tag.

## Main definitions

- `Schema` — a table of tag rules
- `Schema.allowsTag`, `Schema.rule?`, `Schema.required` — what it permits and what it forces
- `isDroppedTag` — the tags that take their whole subtree with them
- `Schema.base` — the allow-list for authored articles
-/

namespace ArticleMarkup

/-- What one tag may carry, and what is put on every element with it. -/
structure TagRule where
  /-- The permitted attributes. -/
  attributes : Table Pattern := []
  /-- The attributes set on every kept element, with their values. -/
  required : Table String := []
deriving DecidableEq, Repr, Inhabited

/-- The rules of the allowed tags. -/
structure Schema where
  /-- The rule of each tag, and of the wildcard. -/
  tags : Table TagRule := []
deriving DecidableEq, Repr, Inhabited

/-- The key of the entry that applies to every allowed tag. -/
def wildcard : String := "*"

/-- The tags whose elements are removed with everything in them. -/
def droppedTags : List String :=
  ["applet", "base", "embed", "frame", "frameset", "head", "iframe", "link", "math", "meta",
    "noembed", "noframes", "noscript", "object", "param", "plaintext", "script", "select",
    "style", "svg", "template", "textarea", "title", "xmp"]

/-- The element is removed with everything in it. -/
def isDroppedTag (name : String) : Bool :=
  droppedTags.contains name

/-- The schemes that a link may have. -/
def linkSchemes : List String := ["http", "https", "mailto", "tel"]

/-- The schemes that an embedded resource, or the source of a quotation, may have. -/
def resourceSchemes : List String := ["http", "https"]

/-- The attributes that hold an address. -/
def urlAttributes : List String :=
  ["action", "background", "cite", "formaction", "href", "longdesc", "poster", "src", "xlink:href"]

namespace Schema

/-- The schema without any tag. -/
def empty : Schema := {}

/-- The rule of a tag; empty when the tag has none. -/
def tagRule (schema : Schema) (tag : String) : TagRule :=
  (schema.tags.find? tag).getD {}

/-- Allow a tag, keeping the rule it has. -/
def allowTag (schema : Schema) (tag : String) : Schema :=
  ⟨schema.tags.alter tag {} id⟩

/-- Permit an attribute on a tag, in place of the pattern it had there. -/
def allowAttribute (schema : Schema) (tag attr : String) (pattern : Pattern) : Schema :=
  ⟨schema.tags.alter tag {} fun rule =>
    { rule with attributes := rule.attributes.insert attr pattern }⟩

/-- Put an attribute on every element with the tag. -/
def requireAttribute (schema : Schema) (tag attr value : String) : Schema :=
  ⟨schema.tags.alter tag {} fun rule =>
    { rule with required := rule.required.insert attr value }⟩

/-- **Allowed tags**: those with a rule of their own. The wildcard is not a tag. -/
def allowsTag (schema : Schema) (tag : String) : Bool :=
  tag != wildcard && schema.tags.has tag

/-- **The pattern** for an attribute on a tag: the tag's own, else the wildcard's. -/
def rule? (schema : Schema) (tag attr : String) : Option Pattern :=
  match (schema.tagRule tag).attributes.find? attr with
  | some pattern => some pattern
  | none => (schema.tagRule wildcard).attributes.find? attr

/-- The attributes set on every kept element with the tag, in the order of their names. -/
def required (schema : Schema) (tag : String) : Table String :=
  (schema.tagRule tag).required

/-! ## The base schema -/

/-- The tags of the base schema. -/
def baseTags : List String :=
  ["a", "abbr", "b", "bdo", "blockquote", "br", "caption", "cite", "code", "dd", "del",
    "details", "dfn", "div", "dl", "dt", "em", "figcaption", "figure", "h1", "h2", "h3",
    "h4", "h5", "h6", "hr", "i", "img", "input", "ins", "kbd", "li", "mark", "ol", "p",
    "pre", "q", "rp", "rt", "ruby", "s", "samp", "section", "small", "span", "strike",
    "strong", "sub", "summary", "sup", "table", "tbody", "td", "tfoot", "th", "thead",
    "time", "tr", "tt", "u", "ul", "var", "wbr"]

/-- The attributes of the base schema: tag, attribute and pattern. -/
def baseAttributes : List (String × String × Pattern) :=
  [(wildcard, "class", .any), (wildcard, "title", .any), (wildcard, "lang", .any),
    (wildcard, "dir", .ofValues ["ltr", "rtl", "auto"]), (wildcard, "aria-label", .any),
    (wildcard, "aria-hidden", .ofValues ["true", "false"]),
    ("a", "href", .ofSchemes linkSchemes), ("a", "target", .any), ("a", "rel", .any),
    ("a", "id", .startingWith ["fnref-"]), ("a", "data-footnote-ref", .any),
    ("a", "data-footnote-backref", .any), ("a", "data-footnote-backref-idx", .any),
    ("img", "src", .ofSchemes resourceSchemes), ("img", "longdesc", .ofSchemes resourceSchemes),
    ("img", "alt", .any), ("img", "width", .any), ("img", "height", .any),
    ("img", "loading", .ofValues ["lazy", "eager"]),
    ("img", "decoding", .ofValues ["sync", "async", "auto"]),
    ("code", "class", .startingWith ["language-"]),
    ("input", "type", .ofValues ["checkbox"]), ("input", "checked", .any),
    ("input", "disabled", .any),
    ("th", "align", .ofValues ["left", "center", "right", "justify"]), ("th", "colspan", .any),
    ("th", "rowspan", .any),
    ("td", "align", .ofValues ["left", "center", "right", "justify"]), ("td", "colspan", .any),
    ("td", "rowspan", .any),
    ("th", "scope", .ofValues ["row", "col", "rowgroup", "colgroup"]),
    ("ol", "start", .any), ("li", "id", .startingWith ["fn-"]),
    ("section", "data-footnotes", .any), ("time", "datetime", .any), ("details", "open", .any),
    ("blockquote", "cite", .ofSchemes resourceSchemes), ("q", "cite", .ofSchemes resourceSchemes),
    ("del", "cite", .ofSchemes resourceSchemes), ("ins", "cite", .ofSchemes resourceSchemes),
    ("h1", "id", .any), ("h2", "id", .any), ("h3", "id", .any), ("h4", "id", .any),
    ("h5", "id", .any), ("h6", "id", .any)]

/-- **The base schema**: what Markdown articles use, with figures, image hints and footnotes. An
input can only be a disabled checkbox. -/
def base : Schema :=
  let tags := baseTags.foldl allowTag empty
  let permitted := baseAttributes.foldl (fun s e => s.allowAttribute e.1 e.2.1 e.2.2) tags
  (permitted.requireAttribute "input" "type" "checkbox").requireAttribute "input" "disabled" ""

end Schema

end ArticleMarkup
