import ArticleMarkup.Highlight.Grammars.Html
import ArticleMarkup.Highlight.Grammars.Ruby

/-!
# The grammar of HTML with embedded Ruby

## Main definitions

- `erbGrammar` — HTML in which code can stand everywhere
-/

namespace ArticleMarkup.Highlight

open Grammar

/-- HTML, and the tags that hold code. -/
def erbContexts : List Context := [
  { name := "erb", items := [.on "" "" (.enter ["erb html"] ["erb tags"]) []] },
  { name := "erb html"
    inner := ["text.html.basic"]
    items := [.include "html"] },
  { name := "erb tags", items := [
    .on "<%+#" "punctuation.definition.comment.erb" (enter ["erb comment"]) [],
    .on "<%+(?!>)[-=]?" "punctuation.section.embedded.ruby" (enter ["erb code"]) []] },
  { name := "erb comment"
    outer := ["comment.block.erb"]
    items := [.on "%>" "punctuation.definition.comment.erb" .close []] },
  { name := "erb code"
    outer := ["source.ruby.rails.embedded.html"]
    items := [
      .on "-?%>" "punctuation.section.embedded.ruby" .close [],
      .mark "(#).*?(?=-?%>)" "comment.line.number-sign.ruby"
        [(1, "punctuation.definition.comment.ruby")],
      .include "ruby"] }]

/-- **The grammar of HTML with embedded Ruby.** -/
def erbGrammar : Grammar where
  scope := "text.html.ruby"
  main := "erb"
  contexts := erbContexts ++ htmlContexts ++ rubyContexts

end ArticleMarkup.Highlight
