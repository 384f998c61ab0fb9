import ArticleMarkup.Highlight.Grammar.Context

/-!
# The grammar of C

## Main definitions

- `cGrammar` — directives, declarations, statements, expressions and literals
-/

namespace ArticleMarkup.Highlight

open Grammar

/-- A name. -/
def cName : String := r"\b[[:alpha:]_][[:alnum:]_]*\b"

/-- Words that are no names of functions. -/
def cReserved : String :=
  r"(?!(?:asm|break|case|continue|default|do|else|for|goto|if|return|sizeof|switch|while|" ++
    r"_Alignof|_Alignas|__attribute__)\b)"

/-- Directives. -/
def cDirectives : List Context := [
  { name := "directives", items := [
    .on r"^\s*(#\s*include)\b" "" (enter ["include"]) [(1, "keyword.control.import.include.c")],
    .on (r"^\s*(#\s*define)\b\s+(" ++ cName ++ r")(\()?" ) "" (enter ["define"])
      [(1, "keyword.control.import.define.c"), (2, "entity.name.constant.preprocessor.c"),
       (3, "punctuation.section.group.begin.c")],
    .on r"^\s*(#\s*(?:if|ifdef|ifndef|elif|else|endif|line|pragma|undef|error|warning))\b" ""
      (enter ["directive"]) [(1, "keyword.control.import.c")]] },
  { name := "include"
    outer := ["meta.preprocessor.include.c"]
    items := [
      .on r"(?=//)" "" .close [],
      .on r"$\n" "" .close [],
      .on "<" "punctuation.definition.string.begin.c" (enter ["include angle"]) [],
      .on "\"" "punctuation.definition.string.begin.c" (enter ["include quote"]) []] },
  { name := "include angle"
    outer := ["string.quoted.other.lt-gt.include.c"]
    items := [
      .on ">" "punctuation.definition.string.end.c" .close [],
      .on r"(?=$)" "" .close []] },
  { name := "include quote"
    outer := ["string.quoted.double.include.c"]
    items := [
      .on "\"" "punctuation.definition.string.end.c" .close [],
      .on r"(?=$)" "" .close []] },
  { name := "define"
    outer := ["meta.preprocessor.macro.c"]
    items := [
      .mark r"(\\)$\n" "" [(1, "punctuation.separator.continuation.c")],
      .on r"(?=//)" "" .close [],
      .on r"$\n" "" .close [],
      .include "expressions"] },
  { name := "directive"
    outer := ["meta.preprocessor.c"]
    items := [
      .mark r"(\\)$\n" "" [(1, "punctuation.separator.continuation.c")],
      .on r"(?=//)" "" .close [],
      .on r"$\n" "" .close [],
      .mark r"\bdefined\b" "keyword.control.c" [],
      .include "numbers",
      .include "operators"] }]

/-- Functions, structures and blocks. -/
def cDeclarations : List Context := [
  { name := "file", items := [
    .include "directives",
    .include "comments",
    .on r"\b(struct|union)\b\s*([[:alpha:]_]\w*)?(?=\s*\x7b)" "" (enter ["structure"])
      [(1, "storage.type.c"), (2, "entity.name.struct.c")],
    .on r"\b(enum)\b\s*([[:alpha:]_]\w*)?(?=\s*\x7b)" "" (enter ["enumeration"])
      [(1, "storage.type.c"), (2, "entity.name.enum.c")],
    .include "types",
    .on ("(?=" ++ cReserved ++ cName ++ r"\s*\()") "" (enter ["function"]) [],
    .include "expressions"] },
  { name := "function"
    inner := ["meta.function.c"]
    items := [
      .mark cName "entity.name.function.c" [],
      .on r"(?=\()" "" (replace ["function continue", "parameters start"]) []] },
  { name := "parameters start"
    items := [
      .on r"\(" "meta.function.parameters.c meta.group.c punctuation.section.group.begin.c"
        (replace ["parameters"]) []] },
  { name := "parameters"
    inner := ["meta.function.parameters.c", "meta.group.c"]
    items := [
      .on r"\)" "meta.function.parameters.c meta.group.c punctuation.section.group.end.c" .close [],
      .mark r"\bvoid\b" "storage.type.c" [],
      .include "comments",
      .include "types",
      .mark (cName ++ r"(?=\s*(?:\[|,|\)|=))") "variable.parameter.c" [],
      .include "expressions"] },
  { name := "function continue"
    inner := ["meta.function.c"]
    items := [
      .include "comments",
      .on "(?=;)" "" .close [],
      .on r"\x7b" "meta.block.c punctuation.section.block.begin.c" (replace ["function body"]) [],
      .on r"(?=\S)" "" .close []] },
  { name := "function body"
    inner := ["meta.function.c", "meta.block.c"]
    items := [
      .on r"\x7d" "meta.function.c meta.block.c punctuation.section.block.end.c" .close [],
      .include "statements"] },
  { name := "structure"
    outer := ["meta.struct.c"]
    items := [
      .on r"\x7b" "meta.block.c punctuation.section.block.begin.c" (replace ["structure body"]) [],
      .on r"(?=\S)" "" .close []] },
  { name := "structure body"
    outer := ["meta.struct.c", "meta.block.c"]
    items := [
      .on r"\x7d" "punctuation.section.block.end.c" .close [],
      .include "statements"] },
  { name := "enumeration"
    outer := ["meta.enum.c"]
    items := [
      .on r"\x7b" "meta.block.c punctuation.section.block.begin.c" (replace ["enumeration body"])
        [],
      .on r"(?=\S)" "" .close []] },
  { name := "enumeration body"
    outer := ["meta.enum.c", "meta.block.c"]
    items := [
      .on r"\x7d" "punctuation.section.block.end.c" .close [],
      .include "statements"] },
  { name := "statements", items := [
    .include "directives",
    .on (r"\b(struct|union)\b\s*([[:alpha:]_]\w*)?(?=\s*\x7b)") "" (enter ["structure"])
      [(1, "storage.type.c"), (2, "entity.name.struct.c")],
    .on r"\x7b" "punctuation.section.block.begin.c" (enter ["block"]) [],
    .mark (r"^\s*((?!default\b)" ++ cName ++ r")\s*(:)(?!:)") ""
      [(1, "entity.name.label.c"), (2, "punctuation.separator.c")],
    .include "types",
    .include "expressions"] },
  { name := "block"
    outer := ["meta.block.c"]
    items := [
      .on r"\x7d" "punctuation.section.block.end.c" .close [],
      .include "statements"] }]

/-- Types and expressions. -/
def cExpressions : List Context := [
  { name := "types", items := [
    .mark (r"\b(?:_Bool|_Complex|_Imaginary|bool|char|double|float|int|long|short|signed|"
        ++ r"unsigned|void|asm|__asm__|enum|struct|union)\b") "storage.type.c" [],
    .mark (r"\b(?:auto|const|extern|inline|register|restrict|static|volatile|_Noreturn|"
        ++ r"_Thread_local|__restrict|__restrict__)\b") "storage.modifier.c" [],
    .mark r"\btypedef\b" "keyword.declaration.c" [],
    .mark (r"\b(?:u_char|u_short|u_int|u_long|ushort|uint|off_t|pid_t|size_t|ssize_t|ptrdiff_t|"
        ++ r"time_t|mode_t|uid_t|gid_t)\b") "support.type.sys-types.c" [],
    .mark (r"\b(?:int8_t|int16_t|int32_t|int64_t|uint8_t|uint16_t|uint32_t|uint64_t|intptr_t|"
        ++ r"uintptr_t|intmax_t|uintmax_t)\b") "support.type.stdint.c" []] },
  { name := "expressions", items := [
    .include "comments",
    .include "strings",
    .include "numbers",
    .mark r"\b(?:break|case|continue|default|do|else|for|goto|if|return|switch|while)\b"
      "keyword.control.c" [],
    .mark r"\b(?:sizeof|_Alignof|_Alignas)\b" "keyword.operator.word.c" [],
    .mark r"\b(?:NULL|true|false|TRUE|FALSE)\b" "constant.language.c" [],
    .include "types",
    .mark r"(\.|->)(?=\s*[[:alpha:]_])" "punctuation.accessor.c" [],
    .on ("(" ++ cReserved ++ cName ++ r")\s*(\()") "meta.function-call.c" (enter ["call"])
      [(1, "variable.function.c"), (2, "meta.group.c punctuation.section.group.begin.c")],
    .include "operators",
    .on r"\(" "meta.group.c punctuation.section.group.begin.c" (enter ["group"]) [],
    .on r"\[" "meta.brackets.c punctuation.section.brackets.begin.c" (enter ["brackets"]) [],
    .on r"\x7b" "punctuation.section.block.begin.c" (enter ["braces"]) [],
    .mark "," "punctuation.separator.c" [],
    .mark ";" "punctuation.terminator.c" []] },
  { name := "call"
    inner := ["meta.function-call.c", "meta.group.c"]
    items := [
      .on r"\)" "meta.function-call.c meta.group.c punctuation.section.group.end.c" .close [],
      .include "expressions"] },
  { name := "group"
    inner := ["meta.group.c"]
    items := [
      .on r"\)" "meta.group.c punctuation.section.group.end.c" .close [],
      .include "expressions"] },
  { name := "brackets"
    inner := ["meta.brackets.c"]
    items := [
      .on r"\]" "meta.brackets.c punctuation.section.brackets.end.c" .close [],
      .include "expressions"] },
  { name := "braces"
    outer := ["meta.block.c"]
    items := [
      .on r"\x7d" "punctuation.section.block.end.c" .close [],
      .include "expressions"] },
  { name := "operators", items := [
    .mark r"(?:\+|-|\*|/|%|<<|>>|&|\||\^)=" "keyword.operator.assignment.augmented.c" [],
    .mark r"<=|>=|==|!=" "keyword.operator.comparison.c" [],
    .mark r"\+\+|--|<<|>>|&&|\|\|" "keyword.operator.c" [],
    .mark "=" "keyword.operator.assignment.c" [],
    .mark "<|>" "keyword.operator.comparison.c" [],
    .mark r"%|\+|-|/|\*" "keyword.operator.arithmetic.c" [],
    .mark r"!|~|&|\||\^" "keyword.operator.c" [],
    .mark r"\?|:" "keyword.operator.ternary.c" []] }]

/-- Literals and comments. -/
def cLiterals : List Context := [
  { name := "numbers", items := [
    .mark r"\b(?:\d+\.\d*|\.\d+)(?:[eE][+-]?\d+)?([fFlL])?" "constant.numeric.float.c"
      [(1, "storage.type.numeric.c")],
    .mark r"\b(0[xX])\h+([uUlL]*)\b" "constant.numeric.integer.hexadecimal.c"
      [(1, "punctuation.definition.numeric.hexadecimal.c"), (2, "storage.type.numeric.c")],
    .mark r"\b(0)[0-7]+([uUlL]*)\b" "constant.numeric.integer.octal.c"
      [(1, "punctuation.definition.numeric.octal.c"), (2, "storage.type.numeric.c")],
    .mark r"\b\d+([uUlL]*)\b" "constant.numeric.integer.decimal.c"
      [(1, "storage.type.numeric.c")]] },
  { name := "strings", items := [
    .on r#"(L|u8|u|U)?(")"# "" (enter ["double"])
      [(1, "storage.type.string.c"), (2, "punctuation.definition.string.begin.c")],
    .on r"(L|u8|u|U)?(')" "" (enter ["single"])
      [(1, "storage.type.string.c"), (2, "punctuation.definition.string.begin.c")]] },
  { name := "double"
    outer := ["string.quoted.double.c"]
    items := [
      .on "\"" "punctuation.definition.string.end.c" .close [],
      .on r"(?<!\\)\n" "invalid.illegal.unclosed-string.c" .close [],
      .include "escapes",
      .mark (r"%(?:\d+\$)?[#0\- +']*(?:-?\d+|\*)?(?:\.(?:-?\d+|\*)?)?(?:hh|h|ll|l|j|t|z|q|L)?"
          ++ "[diouxXDOUeEfFgGaACcSspn%]") "constant.other.placeholder.c" []] },
  { name := "single"
    outer := ["string.quoted.single.c"]
    items := [
      .on "'" "punctuation.definition.string.end.c" .close [],
      .on r"(?<!\\)\n" "invalid.illegal.unclosed-string.c" .close [],
      .include "escapes"] },
  { name := "escapes", items := [
    .mark r"\\$\n?" "punctuation.separator.continuation.c" [],
    .mark r#"\\(?:\\|[abefnprtv'"?]|[0-3]\d{0,2}|[4-7]\d?|x\h{1,2}|u\h{4}|U\h{8})"#
      "constant.character.escape.c" [],
    .mark r"\\." "invalid.illegal.unknown-escape.c" []] },
  { name := "comments", items := [
    .on r"/\*" "punctuation.definition.comment.c" (enter ["block comment"]) [],
    .mark r"\*/(?![/*])" "invalid.illegal.stray-comment-end.c" [],
    .on "//" "punctuation.definition.comment.c" (enter ["line comment"]) []] },
  { name := "block comment"
    outer := ["comment.block.c"]
    items := [.on r"\*/" "punctuation.definition.comment.c" .close []] },
  { name := "line comment"
    outer := ["comment.line.double-slash.c"]
    items := [
      .mark r"(\\)\n" "" [(1, "punctuation.separator.continuation.c")],
      .on r"\n" "" .close []] }]

/-- **The grammar of C.** -/
def cGrammar : Grammar where
  scope := "source.c"
  main := "file"
  contexts := cDeclarations ++ cDirectives ++ cExpressions ++ cLiterals

end ArticleMarkup.Highlight
