import ArticleMarkup.Highlight.Grammar.Context

/-!
# The grammar of style sheets

## Main definitions

- `cssGrammar` — selectors, properties and their values, at-rules
-/

namespace ArticleMarkup.Highlight

open Grammar

/-- Names of properties, as alternatives. -/
def cssProperties : String :=
  "align-(?:content|items|self)|all|animation(?:-(?:delay|direction|duration|fill-mode|" ++
    "iteration-count|name|play-state|timing-function))?|appearance|backface-visibility|" ++
    "background(?:-(?:attachment|blend-mode|clip|color|image|origin|position|repeat|size))?|" ++
    "border(?:-(?:top|right|bottom|left))?(?:-(?:color|style|width))?|border-(?:collapse|image|" ++
    "radius|spacing|(?:top|bottom)-(?:left|right)-radius)|bottom|box-(?:decoration-break|shadow|" ++
    "sizing)|break-(?:after|before|inside)|caption-side|clear|clip(?:-path)?|color|column(?:s|" ++
    "-(?:count|fill|gap|rule|span|width))?|content|counter-(?:increment|reset)|cursor|direction|" ++
    "display|empty-cells|fill|filter|flex(?:-(?:basis|direction|flow|grow|shrink|wrap))?|float|" ++
    "font(?:-(?:family|feature-settings|kerning|size|size-adjust|stretch|style|variant|" ++
    "weight))?|" ++
    "gap|grid(?:-(?:area|auto-columns|auto-flow|auto-rows|column|row|template))?|height|hyphens|" ++
    "image-rendering|isolation|justify-(?:content|items|self)|left|letter-spacing|line-height|" ++
    "list-style(?:-(?:image|position|type))?|margin(?:-(?:top|right|bottom|left))?|mask|" ++
    "max-(?:height|width)|min-(?:height|width)|mix-blend-mode|object-(?:fit|position)|opacity|" ++
    "order|orphans|outline(?:-(?:color|offset|style|width))?|overflow(?:-(?:wrap|x|y))?|" ++
    "padding(?:-(?:top|right|bottom|left))?|page-break-(?:after|before|inside)|" ++
    "perspective(?:-origin)?|pointer-events|position|quotes|resize|right|src|stroke|tab-size|" ++
    "table-layout|text-(?:align|align-last|decoration|indent|justify|orientation|overflow|" ++
    "rendering|shadow|transform)|top|transform(?:-(?:origin|style))?|transition(?:-(?:delay|" ++
    "duration|property|timing-function))?|unicode-bidi|user-select|vertical-align|visibility|" ++
    "white-space|widows|width|will-change|word-(?:break|spacing|wrap)|writing-mode|z-index|zoom"

/-- Words that are values of properties, as alternatives. -/
def cssConstants : String :=
  "absolute|all|always|auto|avoid|baseline|block|bold|bolder|border-box|both|bottom|" ++
    "break-word|capitalize|center|circle|collapse|column|contain|content-box|cover|crosshair|" ++
    "dashed|decimal|" ++
    "default|disc|dotted|double|ease|ease-in|ease-in-out|ease-out|ellipsis|fixed|flex|flex-end|" ++
    "flex-start|grid|groove|hidden|infinite|inherit|initial|inline|inline-block|inline-flex|" ++
    "inset|inside|italic|justify|left|lighter|linear|lowercase|medium|middle|move|no-repeat|" ++
    "none|normal|nowrap|oblique|outset|outside|overline|pointer|pre|pre-line|pre-wrap|" ++
    "relative|repeat|" ++
    "repeat-x|repeat-y|ridge|right|row|scroll|small|small-caps|smaller|solid|space-around|" ++
    "space-between|square|static|sticky|stretch|sub|super|table|table-cell|text|text-bottom|" ++
    "text-top|thick|thin|top|transparent|underline|unset|uppercase|visible|wait|wrap|x-large|" ++
    "x-small|zoom-in|zoom-out"

/-- Names of colors, as alternatives. -/
def cssColors : String :=
  "aqua|black|blue|fuchsia|gray|green|lime|maroon|navy|olive|orange|purple|red|silver|teal|" ++
    "white|yellow"

/-- Selectors. -/
def cssSelectors : List Context := [
  { name := "sheet", items := [
    .include "comments",
    .on r"(@)(charset|import|namespace)\b" "keyword.control.at-rule.css" (enter ["at-rule"])
      [(1, "punctuation.definition.keyword.css")],
    .on r"(@)(media)\b" "keyword.control.at-rule.media.css" (enter ["media"])
      [(1, "punctuation.definition.keyword.css")],
    .on r"(@)[a-zA-Z-]+" "keyword.control.at-rule.css" (enter ["at-rule"])
      [(1, "punctuation.definition.keyword.css")],
    .on r"(?=[:.*#a-zA-Z\[&])" "" (enter ["selector"]) [],
    .include "property list"] },
  { name := "selector"
    outer := ["meta.selector.css"]
    items := [
      .on r"(?=[/@\x7b)])" "" .close [],
      .mark r"(\.)[a-zA-Z_-][\w-]*" "entity.other.attribute-name.class.css"
        [(1, "punctuation.definition.entity.css")],
      .mark r"(#)[a-zA-Z_-][\w-]*" "entity.other.attribute-name.id.css"
        [(1, "punctuation.definition.entity.css")],
      .mark r"(::)[a-zA-Z-]+" "entity.other.pseudo-element.css"
        [(1, "punctuation.definition.entity.css")],
      .mark r"(:)[a-zA-Z-]+" "entity.other.pseudo-class.css"
        [(1, "punctuation.definition.entity.css")],
      .on r"\[" "punctuation.definition.entity.css" (enter ["attribute selector"]) [],
      .mark r"\*" "entity.name.tag.wildcard.css" [],
      .mark "[>+~]" "punctuation.separator.combinator.css" [],
      .mark "," "punctuation.separator.css" [],
      .mark (r"(?i)\b(?:a|abbr|acronym|address|applet|area|article|aside|audio|b|base|big|"
          ++ "blockquote|body|br|button|canvas|caption|center|cite|code|col|colgroup|datalist|dd|"
          ++ "del|details|dfn|dialog|div|dl|dt|em|embed|fieldset|figcaption|figure|font|footer|"
          ++ "form|frame|frameset|h[1-6]|head|header|hgroup|hr|html|i|iframe|img|input|ins|kbd|"
          ++ "label|legend|li|link|main|map|mark|menu|meta|meter|nav|noscript|object|ol|optgroup|"
          ++ "option|output|p|param|picture|pre|progress|q|s|samp|script|section|select|small|"
          ++ "source|span|strike|strong|style|sub|summary|sup|svg|table|tbody|td|template|"
          ++ r"textarea|tfoot|th|thead|time|title|tr|track|tt|u|ul|var|video|wbr)(?![\w-])")
        "entity.name.tag.css" [],
      .mark r"[a-zA-Z][\w]*-[\w-]*" "entity.name.tag.custom.css" []] },
  { name := "attribute selector"
    outer := ["meta.attribute-selector.css"]
    items := [
      .on r"\]" "punctuation.definition.entity.css" .close [],
      .mark "[~|^$*]?=" "keyword.operator.attribute-selector.css" [],
      .include "strings",
      .mark r"[a-zA-Z_-][\w-]*" "entity.other.attribute-name.css" []] }]

/-- Properties and their values. -/
def cssValues : List Context := [
  { name := "property list", items := [
    .on r"\x7b" "punctuation.section.property-list.css" (enter ["in property list"]) [],
    .mark r"\x7d" "punctuation.section.property-list.css" []] },
  { name := "in property list"
    outer := ["meta.property-list.css"]
    items := [
      .on r"(?=\x7d)" "" .close [],
      .include "comments",
      .on r"(?<![-a-z])(?=[-a-z])" "" (enter ["property"]) [],
      .on r"(:)\s*" "" (enter ["value"]) [(1, "punctuation.separator.key-value.css")],
      .mark ";" "punctuation.terminator.rule.css" []] },
  { name := "property"
    outer := ["meta.property-name.css"]
    items := [
      .on "$|(?![-a-z])" "" .close [],
      .mark "-(?:webkit|moz|o|ms|khtml)-" "support.type.vendor-prefix.css" [],
      .mark ("\\b(?:" ++ cssProperties ++ ")(?![-a-z])") "support.type.property-name.css" []] },
  { name := "value"
    inner := ["meta.property-value.css"]
    items := [
      .on r"(;)|(?=[\x7d)])" "" .close [(1, "punctuation.terminator.rule.css")],
      .include "comments",
      .include "values"] },
  { name := "values", items := [
    .mark r"(#)(?:[0-9a-fA-F]{8}|[0-9a-fA-F]{6}|[0-9a-fA-F]{4}|[0-9a-fA-F]{3})\b"
      "constant.other.color.rgb-value.css" [(1, "punctuation.definition.constant.css")],
    .mark (r"[-+]?(?:\d*\.\d+|\d+)(?:(%|(?:ch|cm|deg|dpi|em|ex|fr|grad|in|mm|ms|pc|pt|px|rad|"
        ++ r"rem|s|turn|vh|vmax|vmin|vw)\b))?") "constant.numeric.css"
      [(1, "keyword.other.unit.css")],
    .mark r"!\s*important\b" "keyword.other.important.css" [],
    .on r"\b(url)(\()" "" (enter ["address"])
      [(1, "support.function.url.css"), (2, "punctuation.section.group.css")],
    .on r"(-?[a-zA-Z][\w-]*)(\()" "" (enter ["arguments"])
      [(1, "support.function.css"), (2, "punctuation.section.group.css")],
    .mark ("(?<![-\\w])(?:" ++ cssConstants ++ ")(?![-\\w])")
      "support.constant.property-value.css" [],
    .mark ("(?<![-\\w])(?:" ++ cssColors ++ ")(?![-\\w])")
      "support.constant.color.w3c-standard-color-name.css" [],
    .mark (r"(?i:(?<![-\w])(?:arial|century|comic|courier|garamond|georgia|helvetica|impact|"
        ++ r"lucida|monospace|sans-serif|serif|symbol|system|tahoma|times|trebuchet|utopia|"
        ++ r"verdana|webdings)(?![-\w]))") "support.constant.font-name.css" [],
    .include "strings",
    .mark "," "punctuation.separator.css" []] },
  { name := "arguments"
    outer := ["meta.function-call.css"]
    items := [
      .on r"\)" "punctuation.section.group.css" .close [],
      .include "values"] },
  { name := "address"
    outer := ["meta.function-call.css"]
    items := [
      .on r"\)" "punctuation.section.group.css" .close [],
      .include "strings",
      .mark r#"[^'")\s]+"# "string.unquoted.css" []] }]

/-- At-rules, comments and strings. -/
def cssOthers : List Context := [
  { name := "at-rule"
    outer := ["meta.at-rule.css"]
    items := [
      .on ";" "punctuation.terminator.rule.css" .close [],
      .on r"(?=\x7b)" "" .close [],
      .include "comments",
      .include "values"] },
  { name := "media"
    outer := ["meta.at-rule.media.css"]
    items := [
      .on ";" "punctuation.terminator.rule.css" .close [],
      .on r"\x7b" "punctuation.section.property-list.css" (replace ["media block"]) [],
      .mark r"\b(?:all|print|screen|speech|tv)\b" "support.constant.media.css" [],
      .mark r"\b(?:and|not|only|or)\b" "keyword.operator.logic.media.css" [],
      .mark "," "punctuation.separator.css" []] },
  { name := "media block"
    outer := ["meta.property-list.css"]
    items := [
      .on r"\x7d" "punctuation.section.property-list.css" .close [],
      .include "sheet"] },
  { name := "comments", items := [
    .on r"/\*" "punctuation.definition.comment.css" (enter ["comment"]) []] },
  { name := "comment"
    outer := ["comment.block.css"]
    items := [.on r"\*/" "punctuation.definition.comment.css" .close []] },
  { name := "strings", items := [
    .on "\"" "punctuation.definition.string.begin.css" (enter ["double"]) [],
    .on "'" "punctuation.definition.string.begin.css" (enter ["single"]) []] },
  { name := "double"
    outer := ["string.quoted.double.css"]
    items := [
      .on "\"" "punctuation.definition.string.end.css" .close [],
      .mark r"\\." "constant.character.escape.css" []] },
  { name := "single"
    outer := ["string.quoted.single.css"]
    items := [
      .on "'" "punctuation.definition.string.end.css" .close [],
      .mark r"\\." "constant.character.escape.css" []] }]

/-- **The grammar of style sheets.** -/
def cssGrammar : Grammar where
  scope := "source.css"
  main := "sheet"
  contexts := cssSelectors ++ cssValues ++ cssOthers

end ArticleMarkup.Highlight
