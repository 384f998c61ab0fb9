import ArticleMarkup.Highlight.Grammar.Context

/-!
# The grammar of JSON

## Main definitions

- `jsonGrammar` — values, with comments between them
-/

namespace ArticleMarkup.Highlight

open Grammar

/-- Comments, which may stand between all tokens. -/
def jsonComments : List Context := [
  { name := "comments", items := [
    .on r"/\*\*(?!/)" "punctuation.definition.comment.json" (enter ["documentation"]) [],
    .on r"/\*" "punctuation.definition.comment.json" (enter ["block comment"]) [],
    .mark r"(//).*$\n?" "comment.line.double-slash.js"
      [(1, "punctuation.definition.comment.json")]] },
  { name := "documentation"
    outer := ["comment.block.documentation.json"]
    items := [.on r"\*/" "" .close []] },
  { name := "block comment"
    outer := ["comment.block.json"]
    items := [.on r"\*/" "" .close []] }]

/-- Strings, which hold no comments. -/
def jsonStrings : List Context := [
  { name := "string"
    outer := ["string.quoted.double.json"]
    items := [.include "inside string"] },
  { name := "key"
    outer := ["meta.structure.dictionary.key.json", "string.quoted.double.json"]
    items := [.include "inside string"] },
  { name := "inside string"
    items := [
      .on "\"" "punctuation.definition.string.end.json" .close [],
      .mark r#"\\(?:["\\/bfnrt]|u[0-9a-fA-F]{4})"# "constant.character.escape.json" [],
      .mark r"\\." "invalid.illegal.unrecognized-string-escape.json" [],
      .on r"$\n?" "invalid.illegal.unclosed-string.json" .close []] }]

/-- Values. -/
def jsonValues : List Context := [
  { name := "value"
    items := [
      .mark r"\b(?:true|false|null)\b" "constant.language.json" [],
      .mark r"-?(?:0|[1-9]\d*)(?:(?:\.\d+)?(?:[eE][+-]?\d+)?)?" "constant.numeric.json" [],
      .on "\"" "punctuation.definition.string.begin.json" (enter ["string"]) [],
      .on r"\[" "punctuation.section.array.begin.json" (enter ["array"]) [],
      .on r"\x7b" "punctuation.section.dictionary.begin.json" (enter ["object"]) []] },
  { name := "array"
    outer := ["meta.structure.array.json"]
    items := [
      .on r"\]" "punctuation.section.array.end.json" .close [],
      .include "value",
      .mark "," "punctuation.separator.array.json" [],
      .mark r"[^\s\]]" "invalid.illegal.expected-array-separator.json" []] },
  { name := "object"
    outer := ["meta.structure.dictionary.json"]
    items := [
      .on r"\x7d" "punctuation.section.dictionary.end.json" .close [],
      .on "\"" "punctuation.definition.string.begin.json" (enter ["key"]) [],
      .include "comments",
      .on ":" "punctuation.separator.dictionary.key-value.json" (enter ["member"]) [],
      .mark r"[^\s\x7d]" "invalid.illegal.expected-dictionary-separator.json" []] },
  { name := "member"
    outer := ["meta.structure.dictionary.value.json"]
    items := [
      .include "value",
      .on "," "punctuation.separator.dictionary.pair.json" .close [],
      .on r"\s*(?=\x7d)" "" .close [],
      .mark r"[^\s,]" "invalid.illegal.expected-dictionary-separator.json" []] }]

/-- **The grammar of JSON.** -/
def jsonGrammar : Grammar where
  scope := "source.json"
  main := "value"
  contexts := ledBy "comments" jsonValues ++ jsonStrings ++ jsonComments

end ArticleMarkup.Highlight
