import ArticleMarkup.Highlight.Grammar.Context

/-!
# The grammar of HTML

## Main definitions

- `htmlContexts` — the contexts, for grammars that build on them
- `htmlGrammar` — tags with their attributes, entities and comments
-/

namespace ArticleMarkup.Highlight

open Grammar

/-- Tags of blocks, as alternatives. -/
def htmlBlockTags : String :=
  "address|applet|article|aside|blockquote|center|dd|dir|div|dl|dt|figcaption|figure|footer|" ++
    "frame|frameset|h1|h2|h3|h4|h5|h6|header|iframe|menu|nav|noframes|object|ol|p|pre|section|ul"

/-- Tags in running text, as alternatives. -/
def htmlInlineTags : String :=
  "abbr|acronym|area|audio|b|base|basefont|bdi|bdo|big|br|canvas|caption|cite|code|del|details|" ++
    "dfn|dialog|em|font|head|html|i|img|ins|isindex|kbd|li|link|main|map|mark|menu|menuitem|" ++
    "meta|noscript|param|picture|q|rp|rt|rtc|ruby|s|samp|script|small|source|span|strike|" ++
    "strong|style|sub|summary|sup|time|title|track|tt|u|var|video|wbr"

/-- Tags of forms, as alternatives. -/
def htmlFormTags : String :=
  "button|datalist|input|label|legend|meter|optgroup|option|output|progress|select|template|" ++
    "textarea"

/-- The start of a tag of some kind. -/
def htmlTagRule (tags kind : String) : Item :=
  .on (r"(</?)((?i:" ++ tags ++ r"))\b(?![\w:-])" ) "" (enter ["tag " ++ kind])
    [(1, "punctuation.definition.tag.begin.html"), (2, "entity.name.tag." ++ kind ++ ".html")]

/-- The inside of a tag of some kind. -/
def htmlTagContext (kind : String) : Context where
  name := "tag " ++ kind
  outer := ["meta.tag." ++ kind ++ ".html"]
  items := [
    .on "(?: ?/)?>" "punctuation.definition.tag.end.html" .close [],
    .include "attributes"]

/-- The rule for an attribute, with what its name is. -/
def htmlAttributeRule (pattern kind : String) : Item :=
  .on pattern ("entity.other.attribute-name" ++ kind ++ ".html") (enter ["attribute" ++ kind]) []

/-- The contexts of an attribute: its name, its equals sign, and its value. -/
def htmlAttributeContexts (kind content : String) (items : List Item) : List Context :=
  let scope := "meta.attribute-with-value" ++ kind ++ ".html"
  let start : String → Item := fun quote =>
    .on quote "punctuation.definition.string.begin.html"
      (replace ["value end" ++ kind, "value" ++ kind ++ quote]) []
  let value : String → String → Context := fun quote name =>
    { name := "value" ++ kind ++ quote
      outer := ["string.quoted." ++ name ++ ".html"]
      items := [
        .on quote "punctuation.definition.string.end.html" .close [],
        .include "entities"] ++ items ++
        (if content.isEmpty then [] else [.mark ("[^\\s" ++ quote ++ "]+") content []]) }
  [ { name := "attribute" ++ kind
      outer := [scope]
      items := [
        .on "=" "punctuation.separator.key-value.html" (replace ["equals" ++ kind]) [],
        .on r"(?=\S)" "" .close []] },
    { name := "equals" ++ kind
      inner := [scope]
      items := [
        start "\"",
        start "'",
        .on (r#"[^\s<>/'"`=](?:[^\s<>'"`=/]|/(?!>))*"#)
          (if content.isEmpty then "string.unquoted.html" else "string.unquoted.html " ++ content)
          .close [],
        .on r"(?=\S)" "" .close []] },
    { name := "value end" ++ kind
      inner := [scope]
      items := [.on "" "" .close []] },
    value "\"" "double",
    value "'" "single" ]

/-- Tags. -/
def htmlTags : List Context := [
  { name := "html", items := [
    .on r"(<\?)(xml)" "" (enter ["instruction"])
      [(1, "punctuation.definition.tag.html"), (2, "entity.name.tag.xml.html")],
    .on "<!--" "punctuation.definition.comment.begin.html" (enter ["comment"]) [],
    .on "<!" "punctuation.definition.tag.html" (enter ["declaration"]) [],
    .on r"(<)((?i:style))\b" "" (enter ["style text", "tag style.begin"])
      [(1, "punctuation.definition.tag.begin.html"), (2, "entity.name.tag.style.html")],
    .on r"(<)((?i:script))\b" "" (enter ["script text", "tag script.begin"])
      [(1, "punctuation.definition.tag.begin.html"), (2, "entity.name.tag.script.html")],
    htmlTagRule "body|head|html" "structure.any",
    htmlTagRule htmlBlockTags "block.any",
    htmlTagRule "hr" "block.any",
    htmlTagRule "form|fieldset" "block.form",
    htmlTagRule htmlInlineTags "inline.any",
    htmlTagRule htmlFormTags "inline.form",
    htmlTagRule "a" "inline.a",
    htmlTagRule "col|colgroup|table|tbody|td|tfoot|th|thead|tr" "inline.table",
    .on "(</?)([a-zA-Z0-9:]+-[a-zA-Z0-9:-]+)" "" (enter ["tag custom"])
      [(1, "punctuation.definition.tag.begin.html"), (2, "entity.name.tag.custom.html")],
    .on "(</?)([a-zA-Z0-9:]+)" "" (enter ["tag other"])
      [(1, "punctuation.definition.tag.begin.html"), (2, "entity.name.tag.other.html")],
    .include "entities",
    .mark "<>" "invalid.illegal.incomplete.html" []] },
  { name := "instruction"
    outer := ["meta.tag.preprocessor.xml.html"]
    items := [
      .on r"\?>" "punctuation.definition.tag.html" .close [],
      .include "attributes"] },
  { name := "comment"
    outer := ["comment.block.html"]
    items := [
      .on "-->" "punctuation.definition.comment.end.html" .close [],
      .mark "--" "invalid.illegal.bad-comments-or-CDATA.html" []] },
  { name := "declaration"
    outer := ["meta.tag.sgml.html"]
    items := [
      .on ">" "punctuation.definition.tag.html" .close [],
      .on "(?i:DOCTYPE)" "entity.name.tag.doctype.html" (enter ["document type"]) [],
      .on r"\[CDATA\[" "" (enter ["raw text"]) [],
      .mark r"(\s*)(?!--|>)\S(\s*)" "invalid.illegal.bad-comments-or-CDATA.html" []] },
  { name := "document type"
    outer := ["meta.tag.sgml.doctype.html"]
    items := [
      .on "(?=>)" "" .close [],
      .mark r#""[^">]*""# "string.quoted.double.doctype.identifiers-and-DTDs.html" []] },
  { name := "raw text"
    outer := ["constant.other.inline-data.html"]
    items := [.on r"]](?=>)" "" .close []] },
  { name := "style text", items := [
    .on r"(</)((?i:style))" "" (replace ["tag style.end"])
      [(1, "punctuation.definition.tag.begin.html"), (2, "entity.name.tag.style.html")]] },
  { name := "script text", items := [
    .on r"(</)((?i:script))" "" (replace ["tag script.end"])
      [(1, "punctuation.definition.tag.begin.html"), (2, "entity.name.tag.script.html")]] },
  { name := "entities", items := [
    .mark "(&)([a-zA-Z0-9]+|#[0-9]+|#[xX][0-9a-fA-F]+)(;)" "constant.character.entity.html"
      [(1, "punctuation.definition.entity.html"), (3, "punctuation.definition.entity.html")],
    .mark "&" "invalid.illegal.bad-ampersand.html" []] }]

/-- Attributes. -/
def htmlAttributes : List Context :=
  { name := "attributes"
    items := [
      htmlAttributeRule r"(?i:\bid\b(?=\s*=))" ".id",
      htmlAttributeRule r"(?i:\bclass\b(?=\s*=))" ".class",
      htmlAttributeRule r"(?i:\bstyle\b(?=\s*=))" ".style",
      htmlAttributeRule r"(?i:\bon[a-z]+\b(?=\s*=))" ".event",
      htmlAttributeRule r#"[^ "'>/=\x00-\x1f\x7f<]+"# ""] } ::
    (htmlAttributeContexts ".id" "meta.toc-list.id.html" [] ++
      htmlAttributeContexts ".class" "meta.class-name.html" [] ++
      htmlAttributeContexts ".style" "" [] ++ htmlAttributeContexts ".event" "" [] ++
      htmlAttributeContexts "" "" [])

/-- **The contexts of HTML**, for grammars that build on them. -/
def htmlContexts : List Context :=
  htmlTags ++ htmlAttributes ++
    ["structure.any", "block.any", "block.form", "inline.any", "inline.form", "inline.a",
      "inline.table", "custom", "other", "style.begin", "style.end", "script.begin",
      "script.end"].map htmlTagContext

/-- **The grammar of HTML.** -/
def htmlGrammar : Grammar where
  scope := "text.html.basic"
  main := "html"
  contexts := htmlContexts

end ArticleMarkup.Highlight
