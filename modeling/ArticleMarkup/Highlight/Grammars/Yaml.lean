import ArticleMarkup.Highlight.Grammar.Context

/-!
# The grammar of YAML

## Main definitions

- `yamlGrammar` — block and flow nodes, scalars and their types, comments

## Design notes

A plain scalar ends in front of a comment, in front of the colon of a key, and at the end of a line.
Inside brackets it ends in front of brackets, braces and commas as well; names that end in "in" and
"out" tell the two apart.
-/

namespace ArticleMarkup.Highlight

open Grammar

/-! ## Expressions -/

/-- Brackets, braces and commas. -/
def yamlFlowSigns : String := r"\[\]\x7b\x7d,"

/-- How a plain scalar starts outside of brackets. -/
def yamlFirstOut : String := r#"(?:[^\s\-?:,\[\]\x7b\x7d#&*!|>'"%@`]|[?:\-]\S)"#

/-- How a plain scalar starts inside of brackets. -/
def yamlFirstIn : String :=
  r#"(?:[^\s\-?:,\[\]\x7b\x7d#&*!|>'"%@`]|[?:\-][^\s\[\]\x7b\x7d,])"#

/-- Where a plain scalar ends outside of brackets. -/
def yamlEndOut : String := r"(?=\s*$|\s+#|\s*:(?:\s|$))"

/-- Where a plain scalar ends inside of brackets. -/
def yamlEndIn : String := r"(?=\s*$|\s+#|\s*:(?:\s|$)|\s*:[\[\]\x7b\x7d,]|\s*[\[\]\x7b\x7d,])"

/-- A whole number. -/
def yamlInteger : String :=
  r"[-+]?0b[0-1_]+|[-+]?0[0-7_]+|[-+]?(?:0|[1-9][0-9_]*)|[-+]?0x[0-9a-fA-F_]+|" ++
    r"[-+]?[1-9][0-9_]*(?::[0-5]?[0-9])+"

/-- A number with a fraction. -/
def yamlFloat : String :=
  r"[-+]?(?:[0-9][0-9_]*)?\.[0-9.]*(?:[eE][-+][0-9]+)?|" ++
    r"[-+]?[0-9][0-9_]*(?::[0-5]?[0-9])+\.[0-9_]*|[-+]?\.(?:inf|Inf|INF)|\.(?:nan|NaN|NAN)"

/-- A date, perhaps with a time. -/
def yamlTimestamp : String :=
  r"\d\d\d\d-\d\d-\d\d|\d\d\d\d-\d\d?-\d\d?(?:[Tt]|[ \t]+)\d\d?:\d\d:\d\d(?:\.\d*)?" ++
    r"(?:[ \t]*Z|[-+]\d\d?(?::\d\d?)?)?"

/-- A scalar whose type shows, up to where it ends. -/
def yamlTyped (endOf : String) : String :=
  "(?:(null|Null|NULL|~)|(y|Y|yes|Yes|YES|n|N|no|No|NO|true|True|TRUE|false|False|FALSE|" ++
    "on|On|ON|off|Off|OFF)|(" ++ yamlInteger ++ ")|(" ++ yamlFloat ++ ")|(" ++ yamlTimestamp ++
    ")|(=)|(<<))" ++ endOf

/-- The scopes of a scalar whose type shows. -/
def yamlTypedCaptures : List (Nat × String) := [
  (1, "constant.language.null.yaml"), (2, "constant.language.boolean.yaml"),
  (3, "constant.numeric.integer.yaml"), (4, "constant.numeric.float.yaml"),
  (5, "constant.other.timestamp.yaml"), (6, "constant.language.value.yaml"),
  (7, "constant.language.merge.yaml")]

/-! ## Contexts -/

/-- What may stand everywhere but in strings. -/
def yamlLeaders : List Context := [
  { name := "anywhere", items := [
    .mark r"(?:^[ \t]*|[ \t]+)(?:(#)[^\x00-\x1f\x7f]*)?(?:\n|\z)" "comment.line.number-sign.yaml"
      [(1, "punctuation.definition.comment.yaml")],
    .on "(?=!|&)" "" (enter ["property"]) []] },
  { name := "property"
    outer := ["meta.property.yaml"]
    items := [
      .mark r"!<[^\s>]+>|!(?:[0-9A-Za-z\-]*!)?[0-9A-Za-z\-#;/?:@&=+$_.~*'()%]+|!(?=\s|$)"
        "storage.type.tag-handle.yaml" [],
      .mark r"((&))([^\s\[\]/\x7b\x7d,]+)(\S+)?" ""
        [(1, "keyword.control.property.anchor.yaml"), (2, "punctuation.definition.anchor.yaml"),
         (3, "entity.name.other.anchor.yaml"), (4, "invalid.illegal.character.anchor.yaml")],
      .on r"(?=\S|\s*$)" "" .close []] }]

/-- Strings, which hold no comments. -/
def yamlStrings : List Context := [
  { name := "double"
    outer := ["string.quoted.double.yaml"]
    items := [
      .mark (r#"\\(?:[0abtnvfre "/\\N_Lp]|x[0-9A-Fa-f]{2}|u[0-9A-Fa-f]{4}|"#
        ++ r"U[0-9A-Fa-f]{8})") "constant.character.escape.yaml" [],
      .mark r"\\\n" "constant.character.escape.double-quoted.newline.yaml" [],
      .mark r"\\." "invalid.illegal.unknown-escape.yaml" [],
      .on "\"" "punctuation.definition.string.end.yaml" .close []] },
  { name := "single"
    outer := ["string.quoted.single.yaml"]
    items := [
      .mark "''" "constant.character.escape.single-quoted.yaml" [],
      .on "'" "punctuation.definition.string.end.yaml" .close []] },
  { name := "plain out"
    outer := ["string.unquoted.plain.out.yaml"]
    items := [.on yamlEndOut "" .close []] },
  { name := "plain in"
    outer := ["string.unquoted.plain.in.yaml"]
    items := [.on yamlEndIn "" .close []] },
  { name := "key out"
    outer := ["string.unquoted.plain.out.yaml", "entity.name.tag.yaml"]
    items := [.on yamlEndOut "" .close []] },
  { name := "key in"
    outer := ["meta.flow-pair.key.yaml", "string.unquoted.plain.in.yaml", "entity.name.tag.yaml"]
    items := [.on yamlEndIn "" .close []] },
  { name := "block start", items := [
    .on "^([ ]+)(?! )" "" (replace ["block scalar"]) [],
    .on r"^(?=\S)" "" .close []] },
  { name := "block scalar"
    outer := ["string.unquoted.block.yaml"]
    items := [.on r"^(?!\1|\s*$)" "" .close []] }]

/-- Nodes. -/
def yamlNodes : List Context := [
  { name := "document", items := [
    .mark r"^---" "entity.other.document.begin.yaml" [],
    .mark r"^\.\.\." "entity.other.document.end.yaml" [],
    .on "^%" "punctuation.definition.directive.begin.yaml" (enter ["directive"]) [],
    .include "block node"] },
  { name := "directive"
    outer := ["meta.directive.yaml"]
    items := [
      .mark r"\b(?:YAML|TAG)\b" "keyword.other.directive.yaml" [],
      .on r"$" "" .close []] },
  { name := "block node", items := [
    .on r"(?:(\|)|(>))([1-9])?([-+])?([-+])?(?=\s*(?:$|#))" "" (enter ["block start"])
      [(1, "keyword.control.flow.block-scalar.literal.yaml"),
       (2, "keyword.control.flow.block-scalar.folded.yaml"),
       (3, "constant.numeric.indentation-indicator.yaml"),
       (4, "storage.modifier.chomping-indicator.yaml")],
    .mark r"-(?=\s|$)" "punctuation.definition.block.sequence.item.yaml" [],
    .mark r"\?(?=\s|$)" "punctuation.definition.key-value.begin.yaml" [],
    .on ("(?=" ++ yamlFirstOut ++ r"(?:[^\s:]|:\S|\s+(?![#\s]))*\s*:(?:\s|$))") ""
      (enter ["block key"]) [],
    .mark r":(?=\s|$)" "punctuation.separator.key-value.mapping.yaml" [],
    .mark (yamlTyped yamlEndOut) "" yamlTypedCaptures,
    .include "flow node out"] },
  { name := "block key", items := [
    .mark (yamlTyped yamlEndOut) "" yamlTypedCaptures,
    .on yamlEndOut "" .close [],
    .on yamlFirstOut "" (replace ["key out"]) []] },
  { name := "flow node out", items := [
    .include "alias",
    .include "collections",
    .include "quoted",
    .on yamlFirstOut "" (enter ["plain out"]) []] },
  { name := "flow node in", items := [
    .include "alias",
    .include "collections",
    .include "quoted",
    .mark (yamlTyped yamlEndIn) "" yamlTypedCaptures,
    .on yamlFirstIn "" (enter ["plain in"]) []] },
  { name := "alias", items := [
    .mark r"((\*))([^\s\[\]/\x7b\x7d,]+)([^\s\]\x7d,]\S*)?" ""
      [(1, "keyword.control.flow.alias.yaml"), (2, "punctuation.definition.alias.yaml"),
       (3, "variable.other.alias.yaml"), (4, "invalid.illegal.character.anchor.yaml")]] },
  { name := "quoted", items := [
    .on "\"" "punctuation.definition.string.begin.yaml" (enter ["double"]) [],
    .on "'" "punctuation.definition.string.begin.yaml" (enter ["single"]) []] },
  { name := "collections", items := [
    .on r"\[" "punctuation.definition.sequence.begin.yaml" (enter ["sequence"]) [],
    .on r"\x7b" "punctuation.definition.mapping.begin.yaml" (enter ["mapping"]) []] },
  { name := "sequence"
    outer := ["meta.flow-sequence.yaml"]
    items := [
      .on r"\]" "punctuation.definition.sequence.end.yaml" .close [],
      .mark "," "punctuation.separator.sequence.yaml" [],
      .include "flow pair",
      .include "flow node in"] },
  { name := "mapping"
    outer := ["meta.flow-mapping.yaml"]
    items := [
      .on r"\x7d" "punctuation.definition.mapping.end.yaml" .close [],
      .mark "," "punctuation.separator.mapping.yaml" [],
      .include "flow pair"] },
  { name := "flow pair", items := [
    .mark r"\?(?=\s|$)" "punctuation.definition.key-value.begin.yaml" [],
    .on ("(?=" ++ yamlFirstIn ++ "(?:[^\\s:" ++ yamlFlowSigns ++ "]|:[^\\s" ++ yamlFlowSigns
        ++ r"]|\s+(?![#\s]))*\s*:(?:\s|$))") "" (enter ["flow key"]) [],
    .include "flow node in",
    .on (r":(?=\s|$|[" ++ yamlFlowSigns ++ "])")
      "meta.flow-pair.yaml punctuation.separator.key-value.mapping.yaml" (enter ["flow value"])
      []] },
  { name := "flow key", items := [
    .mark (yamlTyped yamlEndIn) "" yamlTypedCaptures,
    .on yamlEndIn "" .close [],
    .on yamlFirstIn "" (replace ["key in"]) []] },
  { name := "flow value"
    inner := ["meta.flow-pair.value.yaml"]
    items := [
      .on r"(?=[\x7d,\]])" "" .close [],
      .include "flow node in"] }]

/-- **The grammar of YAML.** -/
def yamlGrammar : Grammar where
  scope := "source.yaml"
  main := "document"
  contexts := ledBy "anywhere" yamlNodes ++ yamlStrings ++ yamlLeaders

end ArticleMarkup.Highlight
