import ArticleMarkup.Highlight.Grammar.Context

/-!
# The grammar of shell scripts

## Main definitions

- `shellContexts` — the contexts, for grammars that hold commands
- `bashGrammar`, `shellGrammar` — the grammars that differ in their scope
-/

namespace ArticleMarkup.Highlight

open Grammar

/-- Where a command ends. -/
def shellBreak : String := r"(?=\s*(?:\n|;|&(?!>)|\||\)|`))"

/-- Commands that are built in. -/
def shellBuiltins : List String := [
  "alias", "bg", "bind", "builtin", "caller", "cd", "command", "compgen", "complete", "compopt",
  "dirs", "disown", "echo", "enable", "eval", "exec", "false", "fc", "fg", "getopts", "hash",
  "help", "history", "jobs", "kill", "logout", "mapfile", "popd", "printf", "pushd", "pwd",
  "readarray", "read", "set", "shift", "shopt", "source", "suspend", "test", "times", "trap",
  "true", "type", "ulimit", "umask", "unalias", "unset", "wait"]

/-- The rule for a command that is built in. -/
def shellBuiltinRule (name : String) : Item :=
  .on (name ++ r"(?![\w.-])") ("meta.function-call.shell support.function." ++ name ++ ".shell")
    (enter ["shell arguments"]) []

/-- Commands. -/
def shellCommands : List Context := [
  { name := "shell", items :=
    [ .include "shell comments",
      .mark r"\s+" "" [],
      .on (r"(?:(function)\s+([^\s()\x7b\x7d]+)(?:\s*(\()\s*(\)))?)") "meta.function.shell" .stay
        [(1, "storage.type.function.shell"), (2, "entity.name.function.shell"),
         (3, "punctuation.section.parens.begin.shell"),
         (4, "punctuation.section.parens.end.shell")],
      .on (r"([\w-]+)\s*(\()\s*(\))") "meta.function.shell" .stay
        [(1, "entity.name.function.shell"), (2, "punctuation.section.parens.begin.shell"),
         (3, "punctuation.section.parens.end.shell")],
      .include "shell control",
      .include "shell operators",
      .on r"([[:alpha:]_]\w*)(?:(\[)([^\]]*)(\]))?(\+?=)" "" (enter ["shell value"])
        [(1, "variable.other.readwrite.assignment.shell"),
         (2, "punctuation.section.brackets.begin.shell"),
         (4, "punctuation.section.brackets.end.shell"),
         (5, "keyword.operator.assignment.shell")],
      .on r"(?:export|declare|local|readonly|typeset)(?![\w-])" "storage.modifier.shell"
        (enter ["shell declaration"]) [],
      .on r"(?:exit|return|break|continue)(?![\w-])" "keyword.control.flow.shell"
        (enter ["shell arguments"]) [],
      .on r"\[\[(?=\s)" "support.function.double-brackets.begin.shell" (enter ["shell test2"]) [],
      .on r"\[(?=\s)" "support.function.test.begin.shell" (enter ["shell test"]) [],
      .on r"\(\(" "punctuation.section.arithmetic.begin.shell" (enter ["shell arithmetic"]) [],
      .on r"\(" "punctuation.definition.compound.begin.shell" (enter ["shell subshell"]) [],
      .on r"\x7b(?=\s|$)" "punctuation.definition.compound.braces.begin.shell"
        (enter ["shell compound"]) [] ] ++ shellBuiltins.map shellBuiltinRule ++
    [ .on r#"(?=[^\s;&|()<>`\x7d])"# "" (enter ["shell name"]) []] },
  { name := "shell control", items := [
    .mark r"(?:if)(?=\s|;|$)" "keyword.control.conditional.if.shell" [],
    .mark r"(?:then)(?=\s|;|$)" "keyword.control.conditional.then.shell" [],
    .mark r"(?:elif)(?=\s|;|$)" "keyword.control.conditional.elseif.shell" [],
    .mark r"(?:else)(?=\s|;|$)" "keyword.control.conditional.else.shell" [],
    .mark r"(?:fi)(?=\s|;|$|\))" "keyword.control.conditional.end.shell" [],
    .mark r"(?:while)(?=\s|;|$)" "keyword.control.loop.while.shell" [],
    .mark r"(?:until)(?=\s|;|$)" "keyword.control.loop.until.shell" [],
    .mark r"(?:do)(?=\s|;|$)" "keyword.control.loop.do.shell" [],
    .mark r"(?:done)(?=\s|;|$|\))" "keyword.control.loop.end.shell" [],
    .on r"(?:for)(?=\s)" "keyword.control.loop.for.shell" (enter ["shell for"]) [],
    .on r"(?:case)(?=\s)" "keyword.control.conditional.case.shell" (enter ["shell case"]) [] ] },
  { name := "shell operators", items := [
    .mark "&&" "keyword.operator.logical.and.shell" [],
    .mark r"\|\|" "keyword.operator.logical.or.shell" [],
    .mark r"\|&?" "keyword.operator.logical.pipe.shell" [],
    .mark ";" "keyword.operator.logical.continue.shell" [],
    .mark "&(?!>)" "keyword.operator.logical.job.shell" [],
    .mark r"!(?=\s)" "keyword.operator.logical.shell" [],
    .include "shell redirection"] },
  { name := "shell redirection", items := [
    .on r"<<<" "keyword.operator.herestring.shell" .stay [],
    .on r#"(<<-?)\s*(["']?)(\w+)\2"# "" (enter ["shell document"])
      [(1, "keyword.operator.heredoc.shell"), (3, "keyword.control.heredoc-token.shell")],
    .mark r"(\d*)(>>|>\||>&|<&|<>|>|<)(\d+|-)?"
      "" [(1, "constant.numeric.integer.decimal.file-descriptor.shell"),
       (2, "keyword.operator.assignment.redirection.shell"),
       (3, "constant.numeric.integer.decimal.file-descriptor.shell")],
    .mark "&>>?" "keyword.operator.assignment.redirection.shell" []] },
  { name := "shell document"
    inner := ["string.unquoted.heredoc.shell"]
    items := [
      .on r"^\t*\3(?=\s*$)" "keyword.control.heredoc-token.shell" .close [],
      .include "shell expansions"] },
  { name := "shell name"
    outer := ["meta.function-call.shell", "variable.function.shell"]
    items := [
      .include "shell expansions",
      .include "shell strings",
      .on r"(?=[\s;&|()<>`])" "" (replace ["shell arguments"]) []] },
  { name := "shell arguments"
    inner := ["meta.function-call.arguments.shell"]
    items := [
      .on "^" "" .close [],
      .on shellBreak "" .close [],
      .include "shell comments",
      .on r"\\\n" "punctuation.separator.continuation.line.shell" (enter ["shell continued"]) [],
      .mark r"\s+--(?=\s|$)" "keyword.operator.end-of-options.shell" [],
      .on r"\s+--?(?=[\w-])" "punctuation.definition.parameter.shell" (enter ["shell option"]) [],
      .include "shell redirection",
      .include "shell expansions",
      .include "shell strings",
      .mark r"\\." "constant.character.escape.shell" [],
      .mark r"[*?]" "keyword.operator.regexp.quantifier.shell" [] ] },
  { name := "shell continued", items := [
    .on r"^\s*|(?=\S)" "" .close []] },
  { name := "shell option"
    outer := ["variable.parameter.option.shell"]
    items := [
      .on "^" "" .close [],
      .on shellBreak "" .close [],
      .include "shell comments",
      .on r"(?=[\s=])" "" .close [],
      .include "shell expansions",
      .include "shell strings"] },
  { name := "shell value"
    outer := ["string.unquoted.shell"]
    items := [
      .on r"(?=[\s;&|)])" "" .close [],
      .on r"\(" "punctuation.section.parens.begin.shell" (enter ["shell list"]) [],
      .include "shell expansions",
      .include "shell strings",
      .mark r"\\." "constant.character.escape.shell" []] },
  { name := "shell list", items := [
    .on r"\)" "punctuation.section.parens.end.shell" .close [],
    .include "shell comments",
    .include "shell expansions",
    .include "shell strings"] },
  { name := "shell declaration", items := [
    .on shellBreak "" .close [],
    .mark r"\s+-\w+" "variable.parameter.option.shell" [],
    .on r"([[:alpha:]_]\w*)(=)" "" (enter ["shell value"])
      [(1, "variable.other.readwrite.assignment.shell"),
       (2, "keyword.operator.assignment.shell")],
    .mark r"[[:alpha:]_]\w*" "variable.other.readwrite.assignment.shell" [],
    .include "shell expansions",
    .include "shell strings"] },
  { name := "shell for", items := [
    .mark r"\bin\b" "keyword.control.in.shell" [],
    .on r"(?=[;\n])" "" .close [],
    .on r"\(\(" "punctuation.section.arithmetic.begin.shell" (enter ["shell arithmetic"]) [],
    .include "shell expansions",
    .include "shell strings",
    .mark r"(?<=for )[[:alpha:]_]\w*" "variable.other.readwrite.assignment.shell" []] },
  { name := "shell case"
    outer := ["meta.conditional.case.shell"]
    items := [
      .on r"\besac\b" "keyword.control.conditional.end.shell" .close [],
      .mark r"\bin\b" "keyword.control.in.shell" [],
      .mark ";;&?|;&" "punctuation.terminator.case.clause.shell" [],
      .include "shell comments",
      .on r"\)" "keyword.control.conditional.patterns.end.shell" (enter ["shell clause"]) [],
      .mark r"\|" "keyword.operator.logical.or.shell" [],
      .include "shell expansions",
      .include "shell strings"] },
  { name := "shell clause"
    outer := ["meta.conditional.case.clause.commands.shell"]
    items := [
      .on r"(?=;;|;&|\besac\b)" "" .close [],
      .include "shell"] }]

/-- Groups of commands, tests, expansions and strings. -/
def shellWords : List Context := [
  { name := "shell subshell"
    outer := ["meta.compound.shell"]
    items := [
      .on r"\)" "punctuation.definition.compound.end.shell" .close [],
      .include "shell"] },
  { name := "shell compound"
    outer := ["meta.compound.shell"]
    items := [
      .on r"\x7d" "punctuation.definition.compound.braces.end.shell" .close [],
      .include "shell"] },
  { name := "shell test", items := [
    .on r"\](?=\s|;|$)" "support.function.test.end.shell" .close [],
    .include "shell conditions"] },
  { name := "shell test2", items := [
    .on r"\]\]" "support.function.double-brackets.end.shell" .close [],
    .include "shell conditions"] },
  { name := "shell conditions", items := [
    .mark r"(?<=\s)-[a-zA-Z]{1,2}(?=\s)" "keyword.operator.logical.shell" [],
    .mark r"==?|!=|=~|<|>|&&|\|\||!(?=\s)" "keyword.operator.logical.shell" [],
    .include "shell expansions",
    .include "shell strings"] },
  { name := "shell arithmetic"
    outer := ["meta.group.arithmetic.shell"]
    items := [
      .on r"\)\)" "punctuation.section.arithmetic.end.shell" .close [],
      .include "shell expansions",
      .mark r"\b\d+\b" "constant.numeric.integer.decimal.shell" [],
      .mark r"[-+*/%]|<=|>=|==|!=|<|>|=" "keyword.operator.arithmetic.shell" [],
      .mark r"[[:alpha:]_]\w*" "variable.other.readwrite.shell" []] },
  { name := "shell expansions", items := [
    .on r"(\$)\(\(" "punctuation.section.arithmetic.begin.shell" (enter ["shell arithmetic"])
      [(1, "punctuation.definition.variable.shell")],
    .on r"(\$)(\()" "meta.group.expansion.command.parens.shell" (enter ["shell parens"])
      [(1, "punctuation.definition.variable.shell"),
       (2, "punctuation.section.parens.begin.shell")],
    .on "`" "meta.group.expansion.command.backticks.shell punctuation.section.group.begin.shell"
      (enter ["shell backticks"]) [],
    .on r"(\$)(\x7b)" "meta.group.expansion.parameter.shell" (enter ["shell braces"])
      [(1, "punctuation.definition.variable.shell"),
       (2, "punctuation.section.expansion.parameter.begin.shell")],
    .mark r"((\$)[@*#?$!\-0-9_](?!\w))" "meta.group.expansion.parameter.shell"
      [(1, "variable.language.shell"), (2, "punctuation.definition.variable.shell")],
    .mark r"(\$)([[:alpha:]_]\w*)" "meta.group.expansion.parameter.shell"
      [(1, "punctuation.definition.variable.shell"), (2, "variable.other.readwrite.shell")]] },
  { name := "shell parens"
    inner := ["meta.group.expansion.command.parens.shell"]
    items := [
      .on r"\)" "meta.group.expansion.command.parens.shell punctuation.section.parens.end.shell"
        .close [],
      .include "shell"] },
  { name := "shell backticks"
    inner := ["meta.group.expansion.command.backticks.shell"]
    items := [
      .on "`" "meta.group.expansion.command.backticks.shell punctuation.section.group.end.shell"
        .close [],
      .include "shell"] },
  { name := "shell braces"
    inner := ["meta.group.expansion.parameter.shell"]
    items := [
      .on r"\x7d"
        "meta.group.expansion.parameter.shell punctuation.section.expansion.parameter.end.shell"
        .close [],
      .mark r"[[:alpha:]_]\w*|[@*#?$!0-9]" "variable.other.readwrite.shell" [],
      .mark r":?[-=?+]|##?|%%?|//?|\^\^?|,,?|:" "keyword.operator.expansion.shell" [],
      .include "shell expansions",
      .include "shell strings"] },
  { name := "shell strings", items := [
    .on "\"" "punctuation.definition.string.begin.shell" (enter ["shell double"]) [],
    .on "'" "punctuation.definition.string.begin.shell" (enter ["shell single"]) []] },
  { name := "shell double"
    outer := ["string.quoted.double.shell"]
    items := [
      .on "\"" "punctuation.definition.string.end.shell" .close [],
      .mark r#"\\["$`\\]"# "constant.character.escape.shell" [],
      .include "shell expansions"] },
  { name := "shell single"
    outer := ["string.quoted.single.shell"]
    items := [.on "'" "punctuation.definition.string.end.shell" .close []] },
  { name := "shell comments", items := [
    .mark r"\s+(?=#)" "" [],
    .on r"(?<![^\s;&|()`])#"
      "comment.line.number-sign.shell punctuation.definition.comment.begin.shell"
      (enter ["shell comment"]) []] },
  { name := "shell comment"
    inner := ["comment.line.number-sign.shell"]
    items := [.on r"\n" "comment.line.number-sign.shell" .close []] }]

/-- **The contexts of shell scripts**, for grammars that hold commands. -/
def shellContexts : List Context := shellCommands ++ shellWords

/-- **The grammar of shell scripts.** -/
def bashGrammar : Grammar where
  scope := "source.shell.bash"
  main := "shell"
  contexts := shellContexts

/-- The grammar of commands in other files. -/
def shellGrammar : Grammar where
  scope := "source.shell"
  main := "shell"
  contexts := shellContexts

end ArticleMarkup.Highlight
