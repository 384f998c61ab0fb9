import ArticleMarkup.Highlight.Grammar.Context

/-!
# The grammar of XML

## Main definitions

- `xmlGrammar` — tags, processing instructions, document types, entities and comments
-/

namespace ArticleMarkup.Highlight

open Grammar

/-- Tags and the text between them. -/
def xmlTags : List Context := [
  { name := "content", items := [
    .on (r"(<\?)(xml(?=[\s?]))") "" (enter ["declaration"])
      [(1, "punctuation.definition.tag.begin.xml"), (2, "entity.name.tag.xml")],
    .on (r"(<\?)([[:alpha:]_][\w.\-]*)") "" (enter ["instruction"])
      [(1, "punctuation.definition.tag.begin.xml"), (2, "entity.name.tag.xml")],
    .on (r"(<!)(DOCTYPE)(?:\s+([[:alpha:]_:][\w:.\-]*))?") "" (enter ["document type"])
      [(1, "punctuation.definition.tag.begin.xml"), (2, "keyword.doctype.xml"),
       (3, "variable.documentroot.xml")],
    .include "comments",
    .on r"<!\[CDATA\[" "punctuation.definition.string.begin.xml" (enter ["raw text"]) [],
    .on (r"(</?)(?:([[:alpha:]_][\w.\-]*)((:)))?([[:alpha:]_][\w.\-]*)") "" (enter ["tag"])
      [(1, "punctuation.definition.tag.begin.xml"), (2, "entity.name.tag.namespace.xml"),
       (3, "entity.name.tag.xml"), (4, "punctuation.separator.namespace.xml"),
       (5, "entity.name.tag.localname.xml")],
    .include "entities",
    .mark "&" "invalid.illegal.bad-ampersand.xml" [],
    .mark "<" "invalid.illegal.missing-entity.xml" []] },
  { name := "declaration"
    outer := ["meta.tag.preprocessor.xml"]
    items := [
      .on r"\?>" "punctuation.definition.tag.end.xml" .close [],
      .include "attributes"] },
  { name := "instruction"
    outer := ["meta.tag.preprocessor.xml"]
    items := [
      .on r"\?>" "punctuation.definition.tag.end.xml" .close [],
      .include "attributes"] },
  { name := "tag"
    outer := ["meta.tag.xml"]
    items := [
      .on "/?>" "punctuation.definition.tag.end.xml" .close [],
      .include "attributes"] },
  { name := "attributes", items := [
    .mark (r"(?:^|\s+)(?:([[:alpha:]_][\w.\-]*)((:)))?([[:alpha:]_][\w.\-]*)\s*(=)") ""
      [(1, "entity.other.attribute-name.namespace.xml"), (2, "entity.other.attribute-name.xml"),
       (3, "punctuation.separator.namespace.xml"),
       (4, "entity.other.attribute-name.localname.xml"),
       (5, "punctuation.separator.key-value.xml")],
    .include "strings"] },
  { name := "raw text"
    outer := ["string.unquoted.cdata.xml"]
    items := [.on r"\]\]>" "punctuation.definition.string.end.xml" .close []] }]

/-- Strings, entities and comments. -/
def xmlTexts : List Context := [
  { name := "strings", items := [
    .on "\"" "punctuation.definition.string.begin.xml" (enter ["double"]) [],
    .on "'" "punctuation.definition.string.begin.xml" (enter ["single"]) []] },
  { name := "double"
    outer := ["string.quoted.double.xml"]
    items := [
      .on "\"" "punctuation.definition.string.end.xml" .close [],
      .mark "<" "invalid.illegal.missing-entity.xml" [],
      .include "entities",
      .mark "&" "invalid.illegal.bad-ampersand.xml" []] },
  { name := "single"
    outer := ["string.quoted.single.xml"]
    items := [
      .on "'" "punctuation.definition.string.end.xml" .close [],
      .mark "<" "invalid.illegal.missing-entity.xml" [],
      .include "entities",
      .mark "&" "invalid.illegal.bad-ampersand.xml" []] },
  { name := "entities", items := [
    .mark r"(&)(?:[[:alpha:]_:][\w:.\-]*|#[0-9]+|#x[0-9a-fA-F]+)(;)"
      "constant.character.entity.xml" [(1, "punctuation.definition.constant.xml"),
       (2, "punctuation.definition.constant.xml")]] },
  { name := "comments", items := [
    .on "<!--" "punctuation.definition.comment.begin.xml" (enter ["comment"]) []] },
  { name := "comment"
    outer := ["comment.block.xml"]
    items := [
      .on "-->" "punctuation.definition.comment.end.xml" .close [],
      .mark "-{2,}" "invalid.illegal.double-hyphen-within-comment.xml" []] }]

/-- Document types. -/
def xmlDocumentTypes : List Context := [
  { name := "document type"
    outer := ["meta.tag.sgml.doctype.xml"]
    items := [
      .on r"\s*(>)" "" .close [(1, "punctuation.definition.tag.end.xml")],
      .mark r"\b(?:SYSTEM|PUBLIC)\b" "keyword.content.external.xml" [],
      .include "strings",
      .on r"\[" "punctuation.definition.constant.xml" (enter ["internal subset"]) []] },
  { name := "internal subset"
    outer := ["meta.internalsubset.xml"]
    items := [
      .on r"\]" "punctuation.definition.constant.xml" .close [],
      .include "comments",
      .on r"(<!)(ENTITY|ELEMENT|ATTLIST|NOTATION)" "" (enter ["markup declaration"])
        [(1, "punctuation.definition.tag.begin.xml"), (2, "keyword.entity.xml")]] },
  { name := "markup declaration"
    outer := ["meta.tag.sgml.xml"]
    items := [
      .on ">" "punctuation.definition.tag.end.xml" .close [],
      .include "strings"] }]

/-- **The grammar of XML.** -/
def xmlGrammar : Grammar where
  scope := "text.xml"
  main := "content"
  contexts := xmlTags ++ xmlTexts ++ xmlDocumentTypes

end ArticleMarkup.Highlight
