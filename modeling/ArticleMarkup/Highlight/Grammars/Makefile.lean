import ArticleMarkup.Highlight.Grammars.Shell

/-!
# The grammar of makefiles

## Main definitions

- `makefileGrammar` — rules with their recipes, variables and directives
-/

namespace ArticleMarkup.Highlight

open Grammar

/-- Variables and calls of functions. -/
def makefileVariables : List Context := [
  { name := "make variables", items := [
    .mark r"\$\$" "constant.character.escape.makefile" [],
    .mark r"\$[@%<?^+*|]" "variable.language.automatic.makefile" [],
    .mark r"\$\([@%<?^+*|][DF]?\)" "variable.language.automatic.makefile" [],
    .on (r"(\$)(\()(?=(?:abspath|addprefix|addsuffix|and|basename|call|dir|error|eval|file|"
        ++ r"filter|filter-out|findstring|firstword|flavor|foreach|if|info|join|lastword|notdir|"
        ++ r"or|origin|patsubst|realpath|shell|sort|strip|subst|suffix|value|warning|wildcard|"
        ++ r"word|wordlist|words)\s)") "" (enter ["make call"])
      [(1, "keyword.other.block.begin.makefile"), (2, "keyword.other.block.begin.makefile")],
    .on r"\$\(" "keyword.other.block.begin.makefile" (enter ["make parens"]) [],
    .on r"\$\x7b" "keyword.other.block.begin.makefile" (enter ["make braces"]) []] },
  { name := "make call"
    outer := ["meta.function-call.makefile"]
    items := [
      .on r"\)" "keyword.other.block.end.makefile" .close [],
      .mark r"(?<=\$\()[a-z-]+" "support.function.builtin.makefile" [],
      .mark "," "punctuation.separator.makefile" [],
      .include "make variables"] },
  { name := "make parens"
    inner := ["variable.parameter.makefile"]
    items := [
      .on r"\)" "keyword.other.block.end.makefile" .close [],
      .include "make variables"] },
  { name := "make braces"
    inner := ["variable.parameter.makefile"]
    items := [
      .on r"\x7d" "keyword.other.block.end.makefile" .close [],
      .include "make variables"] }]

/-- Rules, assignments and directives. -/
def makefileRules : List Context := [
  { name := "makefile", items := [
    .include "make comments",
    .on r"^\s*(?:(export|override|unexport)\s+)?(?=[^\s:#=?+!][^:#=?+!]*(?:=|\?=|:=|::=|\+=|!=))" ""
      (enter ["assigned name"]) [(1, "keyword.control.makefile")],
    .mark r"^\s*(-?include|sinclude)\b" "" [(1, "keyword.control.import.makefile")],
    .mark r"^\s*(ifeq|ifneq|ifdef|ifndef)\b" "" [(1, "keyword.control.conditional.makefile")],
    .mark r"^\s*(else|endif|define|endef|vpath|undefine|export|override|private)\b" ""
      [(1, "keyword.control.makefile")],
    .on r"^(?=[^\s#:=][^:=]*::?(?!=))" "" (enter ["target"]) [],
    .include "make variables"] },
  { name := "assigned name"
    items := [
      .mark r"[^\s:#=?+!]+" "variable.other.makefile" [],
      .on r"=|\?=|:=|::=|\+=|!=" "keyword.operator.assignment.makefile"
        (replace ["value start"]) [],
      .on r"(?=\n)" "" .close []] },
  { name := "value start", items := [
    .on r"\s*(?=\S)|$" "" (replace ["assigned value"]) []] },
  { name := "assigned value"
    inner := ["string.unquoted.makefile"]
    items := [
      .mark r"\\\n" "punctuation.separator.continuation.makefile" [],
      .on r"(?=\s*#)|(?=\n)|^" "" .close [],
      .include "make variables"] },
  { name := "target"
    inner := ["meta.function.makefile", "entity.name.function.makefile"]
    items := [
      .on r"(?=\s*:)" "" (replace ["target colon"]) [],
      .include "make variables"] },
  { name := "target colon", items := [
    .on "::?" "keyword.operator.assignment.makefile" (replace ["before prerequisites"]) []] },
  { name := "before prerequisites", items := [
    .on r"[ \t]+(?=[^\s#;])" "" (replace ["recipe start", "prerequisites"]) [],
    .on r"(?=\S)|(?=\n)" "" (replace ["recipe start", "prerequisites"]) []] },
  { name := "prerequisites"
    inner := ["meta.function.arguments.makefile"]
    items := [
      .on r"(?=\s*(?:[#;]|\n))" "" .close [],
      .mark r"\\\n" "punctuation.separator.continuation.makefile" [],
      .include "make variables",
      .on r"(?=\S)" "" (enter ["prerequisite"]) []] },
  { name := "prerequisite"
    outer := ["string.unquoted.makefile"]
    items := [
      .on r"(?=\s|[#;])" "" .close [],
      .include "make variables"] },
  { name := "recipe start", items := [
    .include "make comments",
    .on r"\n" "meta.function.body.makefile" (replace ["recipe"]) [],
    .on ";" "punctuation.terminator.makefile" (.enter ["shell in recipe"] ["recipe guard"]) [],
    .on r"^" "" .close []] },
  { name := "recipe"
    inner := ["meta.function.body.makefile"]
    items := [
      .on r"^\t[@+-]*(?=\S)" "" (.enter ["shell in recipe"] ["recipe guard"]) [],
      .on r"^(?!\t|\s*$|#)" "" .close [],
      .include "make comments"] },
  { name := "shell in recipe"
    inner := ["source.shell"]
    items := [.include "shell"] },
  { name := "recipe guard", items := [
    .on r"(?=\n)" "" .close [],
    .include "make variables"] },
  { name := "make comments", items := [
    .on "#" "punctuation.definition.comment.makefile" (enter ["make comment"]) []] },
  { name := "make comment"
    outer := ["comment.line.number-sign.makefile"]
    items := [
      .mark r"\\\n" "punctuation.separator.continuation.makefile" [],
      .on r"\n" "" .close []] }]

/-- **The grammar of makefiles.** -/
def makefileGrammar : Grammar where
  scope := "source.makefile"
  main := "makefile"
  contexts := makefileRules ++ makefileVariables ++ shellContexts

end ArticleMarkup.Highlight
