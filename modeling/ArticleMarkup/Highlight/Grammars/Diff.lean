import ArticleMarkup.Highlight.Grammar.Context

/-!
# The grammar of differences between files

## Main definitions

- `diffGrammar` — normal, context and unified differences, line by line
-/

namespace ArticleMarkup.Highlight

open Grammar

/-- Lines that say which part of a file is meant. -/
def diffRanges : List Item := [
  .mark r"^((\*{15})|(={67})|(-{3}))$\n?" "meta.separator.diff"
    [(1, "punctuation.definition.separator.diff")],
  .mark r"^\d+(,\d+)*(a|d|c)\d+(,\d+)*$\n?" "meta.diff.range.normal" [],
  .mark r"^(@@)\s*(.+?)\s*(@@)($\n?)?" "meta.diff.range.unified"
    [(1, "punctuation.definition.range.diff"), (2, "meta.toc-list.line-number.diff"),
     (3, "punctuation.definition.range.diff")],
  .mark r"^(((\-{3}) .+ (\-{4}))|((\*{3}) .+ (\*{4})))$\n?" "meta.diff.range.context"
    [(3, "punctuation.definition.range.diff"), (4, "punctuation.definition.range.diff"),
     (6, "punctuation.definition.range.diff"), (7, "punctuation.definition.range.diff")]]

/-- Lines that say which files are meant. -/
def diffFiles : List Item := [
  .mark r"(^(((-{3}) .+)|((\*{3}) .+))$\n?|^(={4}) .+(?= - ))" "meta.diff.header.from-file"
    [(4, "punctuation.definition.from-file.diff"), (6, "punctuation.definition.from-file.diff"),
     (7, "punctuation.definition.from-file.diff")],
  .mark r"(^(\+{3}) .+$\n?| (-) .* (={4})$\n?)" "meta.diff.header.to-file"
    [(2, "punctuation.definition.to-file.diff"), (3, "punctuation.definition.to-file.diff"),
     (4, "punctuation.definition.to-file.diff")]]

/-- Lines that were added, changed or taken away. -/
def diffLines : List Item := [
  .mark r"^(((>)( .*)?)|((\+).*))$\n?" "markup.inserted.diff"
    [(3, "punctuation.definition.inserted.diff"), (6, "punctuation.definition.inserted.diff")],
  .mark r"^(!).*$\n?" "markup.changed.diff" [(1, "punctuation.definition.inserted.diff")],
  .mark r"^(((<)( .*)?)|((-).*))$\n?" "markup.deleted.diff"
    [(3, "punctuation.definition.deleted.diff"), (6, "punctuation.definition.deleted.diff")],
  .mark r"^Index(:) (.+)$\n?" "meta.diff.index"
    [(1, "punctuation.separator.key-value.diff"), (2, "meta.toc-list.file-name.diff")]]

/-- **The grammar of differences between files.** -/
def diffGrammar : Grammar where
  scope := "source.diff"
  main := "line"
  contexts := [{ name := "line", items := diffRanges ++ diffFiles ++ diffLines }]

end ArticleMarkup.Highlight
