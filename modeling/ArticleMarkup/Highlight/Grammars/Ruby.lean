import ArticleMarkup.Highlight.Grammar.Context

/-!
# The grammar of Ruby

## Main definitions

- `rubyContexts` — the contexts, for grammars that hold code
- `rubyGrammar` — definitions, statements, expressions and literals
-/

namespace ArticleMarkup.Highlight

open Grammar

/-- Definitions. -/
def rubyDefinitions : List Context := [
  { name := "ruby", items := [
    .include "ruby comments",
    .on r"\b(class)\s+((?:[A-Z]\w*::)*[A-Z]\w*)(?:\s*(<)\s*((?:[A-Z]\w*::)*[A-Z]\w*))?"
      "meta.class.ruby" .stay
      [(1, "keyword.control.class.ruby"), (2, "entity.name.class.ruby"),
       (3, "punctuation.separator.inheritance.ruby"), (4, "entity.other.inherited-class.ruby")],
    .mark r"\b(module)\s+((?:[A-Z]\w*::)*[A-Z]\w*)" "meta.module.ruby"
      [(1, "keyword.control.module.ruby"), (2, "entity.name.module.ruby")],
    .on r"\b(def)\b\s+(self\.)?([[:alpha:]_]\w*[?!=]?|[-+*/%<>=!~^&|\[\]]+)" "meta.function.ruby"
      (enter ["ruby parameters start"])
      [(1, "keyword.control.def.ruby"), (2, "variable.language.ruby"),
       (3, "entity.name.function.ruby")],
    .include "ruby words",
    .include "ruby literals",
    .include "ruby operators"] },
  { name := "ruby parameters start", items := [
    .on r"\s*(\()" "meta.function.parameters.ruby" (replace ["ruby parameters"])
      [(1, "punctuation.definition.group.begin.ruby")],
    .on "" "" .close []] },
  { name := "ruby parameters"
    inner := ["meta.function.parameters.ruby"]
    items := [
      .on r"\)" "meta.function.parameters.ruby punctuation.definition.group.end.ruby" .close [],
      .mark r"[&*]{1,2}" "keyword.operator.ruby" [],
      .mark r"[[:alpha:]_]\w*" "variable.parameter.ruby" [],
      .mark "," "punctuation.separator.ruby" [],
      .on "=" "keyword.operator.assignment.ruby" (enter ["ruby default"]) []] },
  { name := "ruby default", items := [
    .on r"(?=[,)])" "" .close [],
    .include "ruby"] }]

/-- Words and signs. -/
def rubyWords : List Context := [
  { name := "ruby words", items := [
    .mark (r"(?<![.:])\b(?:BEGIN|begin|case|class|else|elsif|END|end|ensure|for|if|in|module|"
        ++ r"rescue|then|unless|until|when|while)\b(?![?!])") "keyword.control.ruby" [],
    .on r"(?<![.:])\b(do)\b\s*(?:(\|)(?=[^|]*\|))?" "" (enter ["ruby block variables"])
      [(1, "keyword.control.start-block.ruby"),
       (2, "punctuation.definition.parameters.begin.ruby")],
    .mark (r"(?<![.:])\b(?:alias|alias_method|break|next|redo|retry|return|super|undef|"
        ++ r"yield)\b(?![?!])")
      "keyword.control.pseudo-method.ruby" [],
    .mark r"(?<![.:])\b(?:and|not|or)\b" "keyword.operator.logical.ruby" [],
    .mark r"(?<!\.)\b(?:nil|true|false)\b(?![?!])" "constant.language.ruby" [],
    .mark r"(?<!\.)\b(?:__FILE__|__LINE__|self)\b(?![?!])" "variable.language.ruby" [],
    .mark (r"(?<!\.)\b(?:initialize|new|loop|include|extend|raise|attr_reader|attr_writer|"
        ++ r"attr_accessor|catch|throw|private|module_function|public|protected)\b(?![?!])")
      "keyword.other.special-method.ruby" [],
    .mark r"\b(?:require|require_relative|gem)\b"
      "meta.require.ruby keyword.other.special-method.ruby" [],
    .mark (r"(?<!\.)\b(?:puts|print|p|printf|sprintf|format|gets|lambda|proc|rand|sleep|system|"
        ++ r"exit|abort|at_exit|eval|exec|fork|open|putc|select|srand|trap|warn|Array|Float|"
        ++ r"Integer|String)\b(?![?!])") "support.function.builtin.ruby" [],
    .mark r"(@)[[:alpha:]_]\w*" "variable.other.readwrite.instance.ruby"
      [(1, "punctuation.definition.variable.ruby")],
    .mark r"(@@)[[:alpha:]_]\w*" "variable.other.readwrite.class.ruby"
      [(1, "punctuation.definition.variable.ruby")],
    .mark r"(\$)[[:alpha:]_]\w*" "variable.other.readwrite.global.ruby"
      [(1, "punctuation.definition.variable.ruby")],
    .mark r"\b[A-Z]\w*(?=::)" "support.other.namespace.ruby" [],
    .mark r"\b[A-Z]\w*(?=\.)" "support.class.ruby" [],
    .mark r"\b[A-Z]\w*\b" "variable.other.constant.ruby" []] },
  { name := "ruby block variables", items := [
    .on r"\|" "punctuation.definition.parameters.end.ruby" .close [],
    .on r"(?<!\|)(?=\s|$)(?<=do)|(?<=\s)(?![^|]*\|)" "" .close [],
    .mark r"[[:alpha:]_]\w*" "variable.other.block.ruby" [],
    .mark "," "punctuation.separator.variable.ruby" [],
    .on "$" "" .close []] },
  { name := "ruby operators", items := [
    .mark r"<=>|<=|>=|===|==|=~|!=|!~|<(?!<)|>(?!>)" "keyword.operator.comparison.ruby" [],
    .mark r"(?<=[ \t])!+|!|&&|\|\||\^" "keyword.operator.logical.ruby" [],
    .mark r"<<=|%=|&=|\*=|\*\*=|\+=|-=|\^=|\|\|=|/=|<<" "keyword.operator.assignment.augmented.ruby"
      [],
    .mark "=>" "punctuation.separator.key-value.ruby" [],
    .mark "=" "keyword.operator.assignment.ruby" [],
    .mark r"%|&|\*\*|\*|\+|-|/" "keyword.operator.arithmetic.ruby" [],
    .mark ":" "punctuation.separator.other.ruby" [],
    .mark ";" "punctuation.separator.statement.ruby" [],
    .mark "," "punctuation.separator.object.ruby" [],
    .mark r"\.|::" "punctuation.separator.method.ruby" [],
    .mark r"\x7b" "punctuation.section.scope.begin.ruby" [],
    .mark r"\x7d" "punctuation.section.scope.end.ruby" [],
    .mark r"\[" "punctuation.section.array.begin.ruby" [],
    .mark r"\]" "punctuation.section.array.end.ruby" [],
    .mark r"\(|\)" "punctuation.section.function.ruby" []] }]

/-- Literals and comments. -/
def rubyLiterals : List Context := [
  { name := "ruby literals", items := [
    .mark (r"\b(?:0[xX]\h(?:_?\h)*|\d(?:_?\d)*(?:\.(?![^[:space:][:digit:]])(?:_?\d)*)?"
        ++ r"(?:[eE][-+]?\d+)?|0[bB][01]+)\b")
      "constant.numeric.ruby" [],
    .mark r"([[:alpha:]_]\w*[?!]?)(:)(?!:)" "constant.other.symbol.ruby"
      [(2, "punctuation.definition.constant.ruby")],
    .mark r"(?<!:)(:)(?:[[:alpha:]_]\w*[?!=]?|[-+*/<>=]+)" "constant.other.symbol.ruby"
      [(1, "punctuation.definition.constant.ruby")],
    .on "\"" "punctuation.definition.string.begin.ruby" (enter ["ruby double"]) [],
    .on "'" "punctuation.definition.string.begin.ruby" (enter ["ruby single"]) [],
    .on "`" "punctuation.definition.string.begin.ruby" (enter ["ruby command"]) []] },
  { name := "ruby double"
    outer := ["string.quoted.double.ruby"]
    items := [
      .on "\"" "punctuation.definition.string.end.ruby" .close [],
      .include "ruby interpolation"] },
  { name := "ruby command"
    outer := ["string.interpolated.ruby"]
    items := [
      .on "`" "punctuation.definition.string.end.ruby" .close [],
      .include "ruby interpolation"] },
  { name := "ruby single"
    outer := ["string.quoted.single.ruby"]
    items := [
      .on "'" "punctuation.definition.string.end.ruby" .close [],
      .mark r"\\['\\]" "constant.character.escape.ruby" []] },
  { name := "ruby interpolation", items := [
    .on r"#\x7b" "punctuation.section.embedded.ruby" (enter ["ruby embedded"]) [],
    .mark r"\\(?:[0-7]{1,3}|x\h{1,2}|.)" "constant.character.escape.ruby" []] },
  { name := "ruby embedded"
    outer := ["source.ruby.embedded.source"]
    items := [
      .on r"\x7d" "punctuation.section.embedded.ruby" .close [],
      .include "ruby"] },
  { name := "ruby comments", items := [
    .on "^=begin" "punctuation.definition.comment.ruby" (enter ["ruby block comment"]) [],
    .on "#" "punctuation.definition.comment.ruby" (enter ["ruby line comment"]) []] },
  { name := "ruby block comment"
    outer := ["comment.block.documentation.ruby"]
    items := [.on "^=end" "punctuation.definition.comment.ruby" .close []] },
  { name := "ruby line comment"
    outer := ["comment.line.number-sign.ruby"]
    items := [.on r"\n" "" .close []] }]

/-- **The contexts of Ruby**, for grammars that hold code. -/
def rubyContexts : List Context := rubyDefinitions ++ rubyWords ++ rubyLiterals

/-- **The grammar of Ruby.** -/
def rubyGrammar : Grammar where
  scope := "source.ruby"
  main := "ruby"
  contexts := rubyContexts

end ArticleMarkup.Highlight
