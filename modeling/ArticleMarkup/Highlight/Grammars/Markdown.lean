import ArticleMarkup.Highlight.Grammars.Html

/-!
# The grammar of markdown

## Main definitions

- `markdownGrammar` — headings, lists, quotes and code, and what stands inside of them
-/

namespace ArticleMarkup.Highlight

open Grammar

/-- The rule for a heading of some level. -/
def markdownHeadingRule (level : Nat) : Item :=
  .on ("(" ++ String.ofList (List.replicate level '#') ++ r")(?!#)\s*(?=\S)") ""
    (replace ["heading " ++ toString level])
    [(1, "punctuation.definition.heading.begin.markdown")]

/-- The text of a heading of some level. -/
def markdownHeading (level : Nat) : Context where
  name := "heading " ++ toString level
  outer := ["markup.heading." ++ toString level ++ ".markdown"]
  inner := ["entity.name.section.markdown"]
  items := [
    .on r"[ \t]*(#*)[ \t]*($\n?)" "" .close
      [(1, "punctuation.definition.heading.end.markdown"),
       (2, "meta.whitespace.newline.markdown")],
    .include "inline"]

/-- A thematic break. -/
def markdownBreak : String := r"[ ]{0,3}(?:(?:\*[ \t]*){3,}|(?:-[ \t]*){3,}|(?:_[ \t]*){3,})$"

/-- Blocks. -/
def markdownBlocks : List Context := [
  { name := "blocks", items := [
    .on (r"^(?=[ ]{0,3}>|#{1,6}\s*|" ++ markdownBreak ++ ")") "" (enter ["block-level"]) [],
    .on r"^(?=(?:[ ]{4}|\t)\s*\S)" "" (enter ["indented code"]) [],
    .on r"^([ ]{0,3})((`{3,})([^`\s]*)[^`]*)$\n?" "" (enter ["fenced code"])
      [(3, "punctuation.definition.raw.code-fence.begin.markdown"),
       (4, "constant.other.language-name.markdown")],
    .on r"^([ ]{0,3})((~{3,})([^\s]*).*)$\n?" "" (enter ["fenced code"])
      [(3, "punctuation.definition.raw.code-fence.begin.markdown"),
       (4, "constant.other.language-name.markdown")],
    .on r"^[ ]{0,3}([*+-])(?=\s)" "" (enter ["bullet list"])
      [(1, "punctuation.definition.list_item.markdown")],
    .on r"^[ ]{0,3}(\d+[.)])(?=\s)" "" (enter ["numbered list"])
      [(1, "punctuation.definition.list_item.markdown")],
    .mark (r"^[ ]{0,3}(\[)([^\]]+)(\])(:)\s*(\S+)"
        ++ r#"(?:\s+("[^"]*"|'[^']*'|\([^)]*\)))?\s*$\n?"#)
      "meta.link.reference.def.markdown"
      [(1, "punctuation.definition.constant.begin.markdown"),
       (2, "entity.name.reference.link.markdown"),
       (3, "punctuation.definition.constant.end.markdown"),
       (4, "punctuation.separator.key-value.markdown"), (5, "markup.underline.link.markdown"),
       (6, "string.other.link.description.title.markdown")],
    .on r"^(?=[ ]{0,3}</?[a-zA-Z!?])" "" (enter ["html block"]) [],
    .on r"^(?=\S|[ ]{1,3}\S)" "" (enter ["paragraph"]) []] },
  { name := "block-level"
    outer := ["meta.block-level.markdown"]
    items := [
      .mark ("^" ++ markdownBreak ++ r"\n?") "meta.separator.thematic-break.markdown" [],
      .on "^[ ]{0,3}(?=#)" "" (replace ["block-level heading"]) [],
      .on r"^[ ]{0,3}(>)[ ]?" "" (replace ["quote"])
        [(1, "punctuation.definition.blockquote.markdown")],
      .on "" "" .close []] },
  { name := "block-level heading"
    outer := ["meta.block-level.markdown"]
    items := [
      .on "(?=#)" "" (enter ["heading start"]) [],
      .on "" "" .close []] },
  { name := "heading start"
    items := [1, 2, 3, 4, 5, 6].map markdownHeadingRule ++ [.on "#+" "" .close []] },
  { name := "quote"
    outer := ["meta.block-level.markdown", "markup.quote.markdown"]
    items := [
      .on r"^(?=\s*$)" "" .close [],
      .mark r"^[ ]{0,3}(>)[ ]?" "" [(1, "punctuation.definition.blockquote.markdown")],
      .include "inline"] },
  { name := "indented code"
    outer := ["meta.block-level.markdown"]
    items := [
      .mark r"^(?:[ ]{4}|\t).*\n?" "markup.raw.block.markdown" [],
      .on r"^(?=\S|[ ]{1,3}\S)|^(?=\s*$)" "" .close []] },
  { name := "fenced code"
    outer := ["markup.raw.code-fence.markdown"]
    items := [
      .on r"^[ ]{0,3}(\3[`~]*)\s*$\n?" "" .close
        [(1, "punctuation.definition.raw.code-fence.end.markdown")]] },
  { name := "bullet list"
    outer := ["markup.list.unnumbered.markdown"]
    inner := ["meta.paragraph.list.markdown"]
    items := [
      .on r"^(?=\S)(?![*+-]\s)" "" .close [],
      .mark r"^\s*([*+-])(?=\s)" "" [(1, "punctuation.definition.list_item.markdown")],
      .include "inline"] },
  { name := "numbered list"
    outer := ["markup.list.numbered.markdown"]
    inner := ["meta.paragraph.list.markdown"]
    items := [
      .on r"^(?=\S)(?!\d+[.)]\s)" "" .close [],
      .mark r"^\s*(\d+[.)])(?=\s)" "" [(1, "punctuation.definition.list_item.markdown")],
      .include "inline"] },
  { name := "html block"
    outer := ["meta.disable-markdown"]
    items := [
      .on r"^(?=\s*$)" "" .close [],
      .include "html"] },
  { name := "paragraph"
    outer := ["meta.paragraph.markdown"]
    items := [
      .on r"^(?=\s*$|[ ]{0,3}>|[ ]{0,3}#{1,6}\s|[ ]{0,3}(?:```|~~~))" "" .close [],
      .mark r"^(={1,})(?=[ \t]*$)" "markup.heading.1.markdown"
        [(1, "punctuation.definition.heading.setext.markdown")],
      .mark r"^(-{1,})(?=[ \t]*$)" "markup.heading.2.markdown"
        [(1, "punctuation.definition.heading.setext.markdown")],
      .include "inline"] }]

/-- What stands inside of blocks. -/
def markdownInlines : List Context := [
  { name := "inline", items := [
    .mark r"\\[\\`*_\x7b\x7d\[\]()#+\-.!<>|~]" "constant.character.escape.markdown" [],
    .on r"(`+)(?!`)" "punctuation.definition.raw.begin.markdown" (enter ["code"]) [],
    .mark r"(?<=\S)[ ]{2,}$"
      "meta.hard-line-break.markdown punctuation.definition.hard-line-break.markdown" [],
    .mark r#"(!)(\[)([^\]]*)(\])(\()\s*([^\s)]*)(?:\s+("[^"]*"))?\s*(\))"#
      "meta.image.inline.markdown"
      [(1, "punctuation.definition.image.begin.markdown"),
       (3, "string.other.link.description.markdown"),
       (5, "punctuation.definition.metadata.markdown"),
       (6, "markup.underline.link.image.markdown"),
       (7, "string.other.link.description.title.markdown"),
       (8, "punctuation.definition.metadata.markdown")],
    .mark r#"(\[)([^\]]*)(\])(\()\s*([^\s)]*)(?:\s+("[^"]*"))?\s*(\))"#
      "meta.link.inline.markdown"
      [(1, "punctuation.definition.link.begin.markdown"),
       (3, "punctuation.definition.link.end.markdown"),
       (4, "punctuation.definition.metadata.begin.markdown"),
       (5, "markup.underline.link.markdown"),
       (6, "string.other.link.description.title.markdown"),
       (7, "punctuation.definition.metadata.end.markdown")],
    .mark r"(\[)([^\]]+)(\])[ ]?(\[)([^\]]*)(\])" "meta.link.reference.markdown"
      [(1, "punctuation.definition.link.begin.markdown"),
       (3, "punctuation.definition.link.end.markdown"),
       (4, "punctuation.definition.constant.begin.markdown"),
       (5, "constant.other.reference.link.markdown"),
       (6, "punctuation.definition.constant.end.markdown")],
    .mark r"(<)((?:https?|ftp)://[^>\s]*)(>)" "meta.link.inet.markdown"
      [(1, "punctuation.definition.link.begin.markdown"), (2, "markup.underline.link.markdown"),
       (3, "punctuation.definition.link.end.markdown")],
    .on r"(\*\*|__)(?=\S)(?=.*?\S\1)" "punctuation.definition.bold.begin.markdown"
      (enter ["bold"]) [],
    .on r"(\*)(?=\S)(?=.*?\S\1)" "punctuation.definition.italic.begin.markdown"
      (enter ["italic star"]) [],
    .on r"(?<![\w])(_)(?=\S)(?=.*?\S_(?!\w))" "punctuation.definition.italic.begin.markdown"
      (enter ["italic line"]) [],
    .on r"~~(?=\S)" "punctuation.definition.strikethrough.begin.markdown" (enter ["struck"]) [],
    .include "html"] },
  { name := "code"
    outer := ["markup.raw.inline.markdown"]
    items := [
      .on r"(?<!`)\1(?!`)" "punctuation.definition.raw.end.markdown" .close [],
      .on r"^(?=\s*$)" "" .close []] },
  { name := "bold"
    outer := ["markup.bold.markdown"]
    items := [
      .on r"(?<=\S)\1" "punctuation.definition.bold.end.markdown" .close [],
      .on r"^(?=\s*$)" "" .close [],
      .include "inline"] },
  { name := "italic star"
    outer := ["markup.italic.markdown"]
    items := [
      .on r"(?<=\S)\*" "punctuation.definition.italic.end.markdown" .close [],
      .on r"^(?=\s*$)" "" .close [],
      .include "inline"] },
  { name := "italic line"
    outer := ["markup.italic.markdown"]
    items := [
      .on r"(?<=\S)_(?!\w)" "punctuation.definition.italic.end.markdown" .close [],
      .on r"^(?=\s*$)" "" .close [],
      .include "inline"] },
  { name := "struck"
    outer := ["markup.strikethrough.markdown"]
    items := [
      .on "~~" "punctuation.definition.strikethrough.end.markdown" .close [],
      .on r"^(?=\s*$)" "" .close [],
      .include "inline"] }]

/-- **The grammar of markdown.** -/
def markdownGrammar : Grammar where
  scope := "text.html.markdown"
  main := "blocks"
  contexts := markdownBlocks ++ [1, 2, 3, 4, 5, 6].map markdownHeading ++ markdownInlines ++
    htmlContexts

end ArticleMarkup.Highlight
