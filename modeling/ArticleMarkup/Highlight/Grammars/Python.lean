import ArticleMarkup.Highlight.Grammar.Context

/-!
# The grammar of Python

## Main definitions

- `pythonGrammar` — statements, definitions, expressions and literals
-/

namespace ArticleMarkup.Highlight

open Grammar

/-- A name. -/
def pythonName : String := r"\b[[:alpha:]_][[:alnum:]_]*\b"

/-- Words that are no names. -/
def pythonReserved : String :=
  r"(?!(?:and|as|assert|async|await|break|class|continue|def|del|elif|else|except|finally|for|" ++
    r"from|global|if|import|in|is|lambda|nonlocal|not|or|pass|raise|return|try|while|with|" ++
    r"yield)\b)"

/-- Names joined by dots. -/
def pythonPath : String :=
  pythonReserved ++ "(?:" ++ pythonName ++ r"[ ]*\.[ ]*)*" ++ pythonName

/-! ## Statements -/

/-- A statement that starts with a word and ends at a colon. -/
def pythonBlockRule (word scope name : String) : Item :=
  .on (r"\b" ++ word ++ r"\b") ("keyword.control.flow." ++ scope ++ ".python") (enter [name]) []

/-- The rest of a statement that ends at a colon. -/
def pythonBlock (name statement part : String) : Context where
  name := name
  outer := ["meta.statement." ++ statement ++ ".python"]
  items := [
    .on ":" ("punctuation.section.block." ++ part ++ ".python") .close [],
    .on r"(?=$)" "" .close [],
    .mark r"\bas\b" ("keyword.control.flow.as.python") [],
    .mark r"\bin\b" ("keyword.control.flow." ++ statement ++ ".in.python") [],
    .include "expressions"]

/-- Statements. -/
def pythonStatements : List Context := [
  { name := "statements", items := [
    .include "comments",
    .on r"^\s*(?=@)" "" (enter ["decorator"]) [],
    .on r"\b(?:(async)\s+)?(def)\b" "" (enter ["function"])
      [(1, "storage.modifier.async.python"), (2, "storage.type.function.python")],
    .on r"\bclass\b" "storage.type.class.python" (enter ["class"]) [],
    .on r"\bfrom\b" "keyword.control.import.from.python" (enter ["import from"]) [],
    .on r"\bimport\b" "keyword.control.import.python" (enter ["import"]) [],
    .on r"\b(?:(async)\s+)?(for)\b" "" (enter ["for"])
      [(1, "storage.modifier.async.python"), (2, "keyword.control.flow.for.python")],
    .on r"\b(?:(async)\s+)?(with)\b" "" (enter ["with"])
      [(1, "storage.modifier.async.python"), (2, "keyword.control.flow.with.python")],
    pythonBlockRule "except" "except" "except",
    pythonBlockRule "if" "conditional" "if",
    pythonBlockRule "elif" "conditional" "elif",
    pythonBlockRule "while" "while" "while",
    .mark r"\b(else|try|finally)\b(?:\s*(:))?" ""
      [(1, "keyword.control.flow.conditional.python"),
       (2, "punctuation.section.block.conditional.python")],
    .mark r"\b(return)\b" "keyword.control.flow.return.python" [],
    .mark r"\b(raise)\b" "keyword.control.flow.raise.python" [],
    .mark r"\b(yield)(?:\s+(from))?\b" ""
      [(1, "keyword.control.flow.yield.python"), (2, "keyword.control.flow.yield-from.python")],
    .mark r"\b(break)\b" "keyword.control.flow.break.python" [],
    .mark r"\b(continue)\b" "keyword.control.flow.continue.python" [],
    .mark r"\b(pass)\b" "keyword.control.flow.pass.python" [],
    .mark r"\b(assert)\b" "keyword.other.assert.python" [],
    .mark r"\b(del)\b" "keyword.other.del.python" [],
    .mark r"\b(global)\b" "storage.modifier.global.python" [],
    .mark r"\b(nonlocal)\b" "storage.modifier.nonlocal.python" [],
    .on "^\\s*(?=\"\"\")" "" (enter ["documentation"]) [],
    .include "expressions",
    .mark ";" "punctuation.terminator.statement.python" []] },
  pythonBlock "for" "for" "for",
  pythonBlock "with" "with" "with",
  pythonBlock "except" "except" "exception",
  pythonBlock "if" "if" "conditional",
  pythonBlock "elif" "conditional" "conditional",
  pythonBlock "while" "while" "while",
  { name := "import"
    outer := ["meta.statement.import.python"]
    items := [
      .on r"(?=[;#]|$)" "" .close [],
      .mark r"\bas\b" "keyword.control.import.as.python" [],
      .mark "," "punctuation.separator.import-list.python" [],
      .include "dotted name"] },
  { name := "import from"
    outer := ["meta.statement.import.python"]
    items := [
      .on r"(?=[;#]|$)" "" .close [],
      .mark r"\bimport\b" "keyword.control.import.python" [],
      .mark r"\bas\b" "keyword.control.import.as.python" [],
      .mark r"\*" "constant.language.import-all.python" [],
      .mark "," "punctuation.separator.import-list.python" [],
      .on r"\(" "punctuation.section.import-list.begin.python" (enter ["import list"]) [],
      .mark r"\.+"
        "meta.import-source.python meta.import-path.python punctuation.accessor.dot.python" [],
      .include "dotted name"] },
  { name := "import list"
    outer := ["meta.import-list.python"]
    items := [
      .on r"\)" "punctuation.section.import-list.end.python" .close [],
      .include "comments",
      .mark r"\bas\b" "keyword.control.import.as.python" [],
      .mark "," "punctuation.separator.import-list.python" [],
      .include "dotted name"] },
  { name := "dotted name", items := [
    .on ("(?=" ++ pythonPath ++ ")") "" (enter ["qualified name"]) []] }]

/-- Definitions of functions and classes. -/
def pythonDefinitions : List Context := [
  { name := "decorator"
    outer := ["meta.annotation.python"]
    items := [
      .mark "@" "punctuation.definition.annotation.python" [],
      .on r"(?=\()" "" (replace ["decorator arguments"]) [],
      .on "$" "" .close [],
      .mark (pythonName ++ r"(?=[ ]*\()")
        "meta.qualified-name.python variable.annotation.function.python" [],
      .mark pythonName "meta.qualified-name.python variable.annotation.python" [],
      .mark r"\." "punctuation.accessor.dot.python" []] },
  { name := "decorator arguments", items := [
    .on r"\(" "meta.annotation.python punctuation.section.arguments.begin.python"
      (replace ["call arguments"]) []] },
  { name := "function"
    outer := ["meta.function.python"]
    items := [
      .on ":" "punctuation.section.function.begin.python" .close [],
      .on ("(?=" ++ pythonName ++ ")") "" (enter ["function name"]) [],
      .on r"(?=\()" "" (replace ["parameters start"]) [],
      .on r"(?=[^\s\\])" "" .close []] },
  { name := "function name"
    inner := ["entity.name.function.python"]
    items := [
      .mark pythonName "meta.generic-name.python" [],
      .on "" "" .close []] },
  { name := "parameters start", items := [
    .on r"\(" "meta.function.parameters.python punctuation.section.parameters.begin.python"
      (replace ["parameters"]) []] },
  { name := "parameters"
    inner := ["meta.function.parameters.python"]
    items := [
      .on r"\)" "punctuation.section.parameters.end.python" (replace ["function end"]) [],
      .include "comments",
      .mark "," "punctuation.separator.parameters.python" [],
      .mark r"(\*\*|\*)" "keyword.operator.unpacking.sequence.python" [],
      .on r"=" "keyword.operator.assignment.python" (enter ["default value"]) [],
      .on ":" "punctuation.separator.annotation.parameter.python" (enter ["annotation"]) [],
      .mark pythonName "variable.parameter.python" [] ] },
  { name := "default value"
    outer := ["meta.function.parameters.default-value.python"]
    items := [
      .on r"(?=[,)])" "" .close [],
      .include "expressions"] },
  { name := "annotation"
    outer := ["meta.function.parameters.annotation.python"]
    items := [
      .on r"(?=[,)=])" "" .close [],
      .include "expressions"] },
  { name := "function end"
    inner := ["meta.function.python"]
    items := [
      .on ":" "meta.function.python punctuation.section.function.begin.python" .close [],
      .on "->" "punctuation.separator.annotation.return.python"
        (replace ["return annotation"]) [],
      .on r"(?=\S)|$" "" .close []] },
  { name := "return annotation"
    inner := ["meta.function.annotation.return.python"]
    items := [
      .on ":" "meta.function.python punctuation.section.function.begin.python" .close [],
      .on "$" "" .close [],
      .include "expressions"] },
  { name := "class"
    outer := ["meta.class.python"]
    items := [
      .on ":" "punctuation.section.class.begin.python" .close [],
      .on ("(?=" ++ pythonName ++ ")") "" (enter ["class name"]) [],
      .on r"(?=\()" "" (replace ["bases start"]) [],
      .on r"(?=\S)|$" "" .close []] },
  { name := "class name"
    inner := ["entity.name.class.python"]
    items := [
      .mark pythonName "meta.generic-name.python" [],
      .on "" "" .close []] },
  { name := "bases start", items := [
    .on r"\(" "meta.class.inheritance.python punctuation.section.inheritance.begin.python"
      (replace ["bases"]) []] },
  { name := "bases"
    inner := ["meta.class.inheritance.python"]
    items := [
      .on r"\)" "punctuation.section.inheritance.end.python" (replace ["class end"]) [],
      .include "comments",
      .mark "," "punctuation.separator.inheritance.python" [],
      .on ("(?=" ++ pythonPath ++ ")") "" (enter ["base"]) [],
      .include "expressions"] },
  { name := "base"
    outer := ["entity.other.inherited-class.python"]
    items := [
      .include "dotted name",
      .on "" "" .close []] },
  { name := "class end", items := [
    .on ":" "meta.class.python punctuation.section.class.begin.python" .close [],
    .on r"(?=\S)|$" "" .close []] }]

/-! ## Expressions -/

/-- Expressions. -/
def pythonExpressions : List Context := [
  { name := "expressions", items := [
    .include "comments",
    .include "constants",
    .include "numbers",
    .include "strings",
    .include "operators",
    .on r"\blambda\b" "storage.type.function.inline.python" (enter ["lambda"]) [],
    .mark r"\bawait\b" "keyword.other.await.python" [],
    .mark r"\bif\b" "keyword.control.flow.conditional.python" [],
    .mark r"\belse\b" "keyword.control.flow.else.inline.python" [],
    .mark r"\bfor\b" "keyword.control.flow.for.generator.python" [],
    .mark r"\bin\b" "keyword.operator.logical.python" [],
    .on ("(?=" ++ pythonPath ++ r"\s*\()") "" (enter ["call"]) [],
    .on ("(?=" ++ pythonPath ++ r"\s*\[)") "" (enter ["item access"]) [],
    .on ("(?=" ++ pythonPath ++ ")") "" (enter ["qualified name"]) [],
    .mark r"\." "punctuation.accessor.dot.python" [],
    .on r"\(" "punctuation.section.group.begin.python" (enter ["group"]) [],
    .on r"\[" "punctuation.section.sequence.begin.python" (enter ["sequence"]) [],
    .on r"\x7b" "punctuation.section.mapping.begin.python" (enter ["mapping"]) [],
    .mark "," "punctuation.separator.sequence.python" [],
    .mark r"(\\)(.*)$\n?" ""
      [(1, "punctuation.separator.continuation.line.python"),
       (2, "invalid.illegal.unexpected-text.python")]] },
  { name := "qualified name"
    outer := ["meta.qualified-name.python"]
    items := [
      .include "name parts",
      .on "" "" .close []] },
  { name := "name parts", items := [
    .mark r"\b__debug__\b" "constant.language.python" [],
    .mark (r"\b__(?:abs|add|call|class|contains|dict|doc|enter|eq|exit|file|get|getattr|getitem|"
        ++ r"hash|init|iter|le|len|lt|main|mod|module|mul|name|ne|new|next|repr|set|setitem|"
        ++ r"slots|str|sub)__\b") "support.variable.magic.python" [],
    .mark r"\b(?:self|cls)\b" "variable.language.python" [],
    .mark (r"(?<!\.)\b(?:abs|all|any|ascii|bin|bool|bytearray|bytes|callable|chr|classmethod|"
        ++ r"compile|complex|delattr|dict|dir|divmod|enumerate|eval|exec|filter|float|format|"
        ++ r"frozenset|getattr|globals|hasattr|hash|help|hex|id|input|int|isinstance|issubclass|"
        ++ r"iter|len|list|locals|map|max|memoryview|min|next|object|oct|open|ord|pow|print|"
        ++ r"property|range|repr|reversed|round|set|setattr|slice|sorted|staticmethod|str|sum|"
        ++ r"super|tuple|type|vars|zip)\b") "support.function.builtin.python" [],
    .mark (r"(?<!\.)\b(?:\w*(?:Error|Exception|Warning)|StopIteration|KeyboardInterrupt|"
        ++ r"SystemExit|GeneratorExit)\b") "support.type.exception.python" [],
    .mark r"\b[A-Z][A-Z0-9_]*[A-Z0-9]\b" "variable.other.constant.python" [],
    .mark (pythonReserved ++ pythonName) "meta.generic-name.python" [],
    .mark (r"\s*(\.)\s*(?=" ++ pythonName ++ ")") "" [(1, "punctuation.accessor.dot.python")]] },
  { name := "call"
    outer := ["meta.function-call.python"]
    items := [
      .on ("(?=" ++ pythonPath ++ r"\s*\()") "" (enter ["called name"]) [],
      .on r"\(" "punctuation.section.arguments.begin.python" (replace ["call arguments"]) []] },
  { name := "called name"
    outer := ["meta.qualified-name.python"]
    items := [
      .on r"(?=\s*\()" "" .close [],
      .mark (pythonReserved ++ "(?:" ++ pythonName ++ r")(?=\s*\()(?<!\bprint)(?<!\blen)")
        "variable.function.python meta.generic-name.python" [],
      .include "name parts"] },
  { name := "call arguments"
    inner := ["meta.function-call.python", "meta.function-call.arguments.python"]
    items := [
      .on r"\)" "meta.function-call.python punctuation.section.arguments.end.python" .close [],
      .mark "," "punctuation.separator.arguments.python" [],
      .mark ("(" ++ pythonName ++ r")\s*(=)(?!=)") ""
        [(1, "variable.parameter.python"), (2, "keyword.operator.assignment.python")],
      .mark r"\*\*?" "keyword.operator.unpacking.sequence.python" [],
      .include "expressions"] },
  { name := "item access"
    outer := ["meta.item-access.python"]
    items := [
      .on ("(?=" ++ pythonPath ++ r"\s*\[)") "" (enter ["qualified name"]) [],
      .on r"\[" "punctuation.section.brackets.begin.python" (replace ["item arguments"]) []] },
  { name := "item arguments"
    inner := ["meta.item-access.python", "meta.item-access.arguments.python"]
    items := [
      .on r"\]" "meta.item-access.python punctuation.section.brackets.end.python" .close [],
      .mark ":" "punctuation.separator.slice.python" [],
      .include "expressions"] },
  { name := "group"
    outer := ["meta.group.python"]
    items := [
      .on r"\)" "punctuation.section.group.end.python" .close [],
      .mark "," "punctuation.separator.tuple.python" [],
      .include "expressions"] },
  { name := "sequence"
    outer := ["meta.sequence.python"]
    items := [
      .on r"\]" "punctuation.section.sequence.end.python" .close [],
      .include "expressions"] },
  { name := "mapping"
    outer := ["meta.mapping.python"]
    items := [
      .on r"\x7d" "punctuation.section.mapping.end.python" .close [],
      .mark ":" "punctuation.separator.mapping.key-value.python" [],
      .mark "," "punctuation.separator.mapping.python" [],
      .include "expressions"] },
  { name := "lambda"
    outer := ["meta.function.inline.python"]
    items := [
      .on ":" "punctuation.section.function.begin.python" .close [],
      .on "$" "" .close [],
      .mark "," "punctuation.separator.parameters.python" [],
      .mark pythonName "variable.parameter.python" [],
      .include "expressions"] },
  { name := "operators", items := [
    .mark r"\b(?:and|in|is|not|or)\b" "keyword.operator.logical.python" [],
    .mark r"<>" "invalid.deprecated.operator.python" [],
    .mark r"<=|>=|==|!=" "keyword.operator.comparison.python" [],
    .mark r"\+=|-=|\*=|/=|//=|%=|@=|&=|\|=|\^=|>>=|<<=|\*\*="
      "keyword.operator.assignment.augmented.python" [],
    .mark r"<<|>>|&|\||\^|~" "keyword.operator.bitwise.python" [],
    .mark r"<|>" "keyword.operator.comparison.python" [],
    .mark r"\+|-|\*\*|\*|//|/|%|@" "keyword.operator.arithmetic.python" [],
    .mark "=" "keyword.operator.assignment.python" []] }]

/-! ## Literals -/

/-- The letters in front of a string and its quote, as a rule that opens the string. -/
def pythonStringRule (quote name : String) : Item :=
  .on ("(?i:([bruf]{0,2}))(" ++ quote ++ ")") ""
    (enter ["string " ++ name])
    [(1, "storage.type.string.python"),
     (2, "string.quoted." ++ name ++ ".python punctuation.definition.string.begin.python")]

/-- The inside of a string. -/
def pythonString (quote name : String) (lines : Bool) : Context where
  name := "string " ++ name
  inner := ["string.quoted." ++ name ++ ".python"]
  items := [
    .on quote ("string.quoted." ++ name ++ ".python punctuation.definition.string.end.python")
      .close [],
    if lines then .mark r"\\\n" "punctuation.separator.continuation.line.python" []
    else .on r"\n" "invalid.illegal.unclosed-string.python" .close [],
    .mark (r#"\\(?:x[0-9A-Fa-f]{2}|[0-7]{1,3}|[\\"'abfnrtv]|u[0-9A-Fa-f]{4}|"#
        ++ r"U[0-9A-Fa-f]{8}|N\x7b[A-Z0-9 -]+\x7d)") "constant.character.escape.python" [],
    .mark (r"%(?:\([\w]+\))?[#0\- +]*(?:\d+|\*)?(?:\.(?:\d+|\*))?[hlL]?[diouxXeEfFgGcrsa%]")
      "constant.other.placeholder.python" []]

/-- Literals and comments. -/
def pythonLiterals : List Context := [
  { name := "constants", items := [
    .mark r"\b(?:None|True|False|Ellipsis|NotImplemented)\b" "constant.language.python" [],
    .mark r"\.\.\.(?!\w)" "constant.language.python" []] },
  { name := "numbers", items := [
    .mark r"\b(0[xX])(?:\h+_?)+(L)?\b" "constant.numeric.integer.hexadecimal.python"
      [(1, "punctuation.definition.numeric.hexadecimal.python"),
       (2, "storage.type.numeric.long.python")],
    .mark r"\b(0[oO]?)[0-7]+(L)?\b" "constant.numeric.integer.octal.python"
      [(1, "punctuation.definition.numeric.octal.python"),
       (2, "storage.type.numeric.long.python")],
    .mark r"\b(0[bB])[01_]+(L)?\b" "constant.numeric.integer.binary.python"
      [(1, "punctuation.definition.numeric.binary.python"),
       (2, "storage.type.numeric.long.python")],
    .mark (r"(?:\b\d[\d_]*(\.)(?:\d[\d_]*)?|(\.)\d[\d_]*)(?:[eE][-+]?\d[\d_]*)?|"
        ++ r"\b\d[\d_]*[eE][-+]?\d+")
      "constant.numeric.float.python"
      [(1, "punctuation.separator.decimal.python"), (2, "punctuation.separator.decimal.python")],
    .mark r"\b(?:[1-9][\d_]*|0)([jJ])" "constant.numeric.complex.python"
      [(1, "storage.type.numeric.complex.python")],
    .mark r"\b(?:[1-9][\d_]*|0)(L)?\b" "constant.numeric.integer.decimal.python"
      [(1, "storage.type.numeric.long.python")]] },
  { name := "strings", items := [
    pythonStringRule "\"\"\"" "double.block",
    pythonStringRule "'''" "single.block",
    pythonStringRule "\"" "double",
    pythonStringRule "'" "single"] },
  pythonString "\"\"\"" "double.block" true,
  pythonString "'''" "single.block" true,
  pythonString "\"" "double" false,
  pythonString "'" "single" false,
  { name := "documentation", items := [
    .on "\"\"\"" "comment.block.documentation.python punctuation.definition.comment.begin.python"
      (replace ["in documentation"]) []] },
  { name := "in documentation"
    inner := ["comment.block.documentation.python"]
    items := [
      .on "\"\"\"" "comment.block.documentation.python punctuation.definition.comment.end.python"
        .close []] },
  { name := "comments", items := [
    .on "#" "punctuation.definition.comment.python" (enter ["comment"]) []] },
  { name := "comment"
    outer := ["comment.line.number-sign.python"]
    items := [.on r"\n" "" .close []] }]

/-- **The grammar of Python.** -/
def pythonGrammar : Grammar where
  scope := "source.python"
  main := "statements"
  contexts := pythonStatements ++ pythonDefinitions ++ pythonExpressions ++ pythonLiterals

end ArticleMarkup.Highlight
