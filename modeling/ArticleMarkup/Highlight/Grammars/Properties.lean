import ArticleMarkup.Highlight.Grammar.Context

/-!
# The grammar of property files

## Main definitions

- `propertiesGrammar` — keys and values, with comments
-/

namespace ArticleMarkup.Highlight

open Grammar

/-- **The grammar of property files.** -/
def propertiesGrammar : Grammar where
  scope := "source.java-props"
  main := "line"
  contexts := [
    { name := "line"
      items := [
        .mark r"([#!])(.+)?$\n?" "comment.line.number-sign.java-props"
          [(1, "punctuation.definition.comment.java-props")],
        .on r"/\*" "" (enter ["block comment"]) [(0, "punctuation.definition.comment.java-props")],
        .mark r"^([^:=]+)([:=])(.*)$" ""
          [(1, "keyword.other.java-props"), (2, "punctuation.separator.key-value.java-props")]] },
    { name := "block comment"
      outer := ["comment.block.java-props"]
      items := [.on r"\*/" "" .close [(0, "punctuation.definition.comment.java-props")]] }]

end ArticleMarkup.Highlight
