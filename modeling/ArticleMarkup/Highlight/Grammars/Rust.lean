import ArticleMarkup.Highlight.Grammar.Context

/-!
# The grammar of Rust

## Main definitions

- `rustGrammar` — items, statements, types and literals
-/

namespace ArticleMarkup.Highlight

open Grammar

/-- Comments; those over several lines can be nested. -/
def rustComments : List Context := [
  { name := "comments", items := [
    .include "block comment",
    .on "//[!/]" "punctuation.definition.comment.rust" (enter ["line documentation"]) [],
    .on "//" "punctuation.definition.comment.rust" (enter ["line comment"]) []] },
  { name := "line documentation"
    outer := ["comment.line.documentation.rust"]
    items := [.on r"$\n?" "" .close []] },
  { name := "line comment"
    outer := ["comment.line.double-slash.rust"]
    items := [.on r"$\n?" "" .close []] },
  { name := "block comment", items := [
    .on r"/\*\*(?!/)" "punctuation.definition.comment.rust" (enter ["in documentation"]) [],
    .on r"/\*" "punctuation.definition.comment.rust" (enter ["in comment"]) []] },
  { name := "in documentation"
    outer := ["comment.block.documentation.rust"]
    items := [
      .on r"\*/" "punctuation.definition.comment.rust" .close [],
      .include "block comment"] },
  { name := "in comment"
    outer := ["comment.block.rust"]
    items := [
      .on r"\*/" "punctuation.definition.comment.rust" .close [],
      .include "block comment"] }]

/-- Strings and characters. -/
def rustTexts : List Context := [
  { name := "strings", items := [
    .on r#"(b)(")"# "" (enter ["byte string"])
      [(1, "storage.type.string.rust"),
       (2, "string.quoted.double.rust punctuation.definition.string.begin.rust")],
    .on r##"(br)((#*)")"## "" (enter ["raw byte string"])
      [(1, "storage.type.string.rust"),
       (2, "string.quoted.double.raw.rust punctuation.definition.string.begin.rust")],
    .on "\"" "punctuation.definition.string.begin.rust" (enter ["string"]) [],
    .on r##"(r)((#*)")"## "" (enter ["raw string"])
      [(1, "storage.type.string.rust"),
       (2, "string.quoted.double.raw.rust punctuation.definition.string.begin.rust")]] },
  { name := "escapes", items := [
    .mark r#"\\(?:x[0-7]\h|[nrt0"'\\]|u\x7b[\h_]{1,6}\x7d)"# "constant.character.escape.rust" [],
    .mark r"(\\)$" "punctuation.separator.continuation.line.rust" [],
    .mark r"\\." "invalid.illegal.character.escape.rust" []] },
  { name := "string"
    outer := ["string.quoted.double.rust"]
    items := [
      .on "\"" "punctuation.definition.string.end.rust" .close [],
      .include "escapes"] },
  { name := "byte string"
    inner := ["string.quoted.double.rust"]
    items := [
      .on "\"" "string.quoted.double.rust punctuation.definition.string.end.rust" .close [],
      .mark r#"\\(?:x\h{2}|[nrt0"'\\])"# "constant.character.escape.rust" [],
      .mark r"(\\)$" "punctuation.separator.continuation.line.rust" [],
      .mark r"\\." "invalid.illegal.character.escape.rust" []] },
  { name := "raw string"
    inner := ["string.quoted.double.raw.rust"]
    items := [
      .on r#""\3"# "string.quoted.double.raw.rust punctuation.definition.string.end.rust" .close
        []] },
  { name := "raw byte string"
    inner := ["string.quoted.double.raw.rust"]
    items := [
      .on r#""\3"# "string.quoted.double.raw.rust punctuation.definition.string.end.rust" .close
        []] },
  { name := "chars", items := [
    .mark r#"(b)?(')(\\(?:x\h{2}|[nrt0"'\\]|u\x7b[\h_]{1,6}\x7d))(')"# ""
      [(1, "storage.type.string.rust"),
       (2, "string.quoted.single.rust punctuation.definition.string.begin.rust"),
       (3, "string.quoted.single.rust constant.character.escape.rust"),
       (4, "string.quoted.single.rust punctuation.definition.string.end.rust")],
    .mark r"(b)'[^'\\]'" "" [(1, "storage.type.string.rust")],
    .mark r"(')[^'\\](')" "string.quoted.single.rust"
      [(1, "punctuation.definition.string.begin.rust"),
       (2, "punctuation.definition.string.end.rust")]] }]

/-- The types of numbers, as an expression. -/
def rustNumberTypes : String := "(?:[iu](?:8|16|32|64|128|size)|f32|f64)"

/-- Numbers. -/
def rustNumbers : List Context := [
  { name := "numbers", items := [
    .mark (r"\b(\d[\d_]*(?:\.(?!\.)[\d_]+)(?:[eE][+-]?[\d_]+)?|\d[\d_]*[eE][+-]?[\d_]+|"
        ++ r"\d[\d_]*(?=f32|f64))(f32|f64)?\b")
      "constant.numeric.float.rust" [(2, "storage.type.numeric.rust")],
    .mark r"\b(\d[\d_]*\.)(?!\.|[a-zA-Z_])" "constant.numeric.float.rust" [],
    .mark (r"\b(\d[\d_]*)(" ++ rustNumberTypes ++ r")?\b")
      "constant.numeric.integer.decimal.rust" [(2, "storage.type.numeric.rust")],
    .mark (r"\b(0x[\h_]+?)(" ++ rustNumberTypes ++ r")?\b")
      "constant.numeric.integer.hexadecimal.rust" [(2, "storage.type.numeric.rust")],
    .mark (r"\b(0o[0-7_]+)(" ++ rustNumberTypes ++ r")?\b")
      "constant.numeric.integer.octal.rust" [(2, "storage.type.numeric.rust")],
    .mark (r"\b(0b[01_]+)(" ++ rustNumberTypes ++ r")?\b")
      "constant.numeric.integer.binary.rust" [(2, "storage.type.numeric.rust")]] }]

/-- A name. -/
def rustName : String := r"\b(?:[[:alpha:]][_[:alnum:]]*|_[_[:alnum:]]+)\b"

/-- A lifetime. -/
def rustLifetime : String := "'" ++ r"(?:[[:alpha:]][_[:alnum:]]*|_[_[:alnum:]]+)\b"

/-- Types. -/
def rustTypes : List Context := [
  { name := "known types", items := [
    .mark (r"\b(Copy|Send|Sized|Sync|Drop|Fn|FnMut|FnOnce|Box|ToOwned|Clone|PartialEq|PartialOrd|"
        ++ r"Eq|Ord|AsRef|AsMut|Into|From|Default|Iterator|Extend|IntoIterator|"
        ++ r"DoubleEndedIterator|ExactSizeIterator|Option|Some|None|Result|Ok|Err|SliceConcatExt|"
        ++ r"String|ToString|Vec)\b") "support.type.rust" [],
    .mark r"\b(Self|i8|i16|i32|i64|i128|u8|u16|u32|u64|u128|f32|f64|isize|usize|char|bool|str)\b"
      "storage.type.rust" []] },
  { name := "types", items := [
    .include "comments",
    .on (rustName ++ r"(?=\s*<)") "" (enter ["generic"]) [],
    .include "known types",
    .mark rustLifetime "storage.modifier.lifetime.rust" [],
    .mark r"\b(?:mut|const|unsafe|extern|dyn|ref)\b" "storage.modifier.rust" [],
    .mark r"\bfn\b" "storage.type.function.rust" [],
    .mark r"\bimpl\b" "storage.type.impl.rust" [],
    .mark "->" "punctuation.separator.rust" [],
    .mark "::" "punctuation.accessor.rust" [],
    .mark "[&*+]" "keyword.operator.rust" [],
    .on r"\(" "punctuation.section.group.begin.rust" (enter ["type group"]) [],
    .on r"\[" "punctuation.section.group.begin.rust" (enter ["type array"]) [],
    .on "<" "punctuation.definition.generic.begin.rust" (enter ["generic arguments"]) [],
    .include "numbers"] },
  { name := "type group"
    outer := ["meta.group.rust"]
    items := [
      .on r"\)" "punctuation.section.group.end.rust" .close [],
      .mark "," "punctuation.separator.rust" [],
      .include "types"] },
  { name := "type array"
    outer := ["meta.group.rust"]
    items := [
      .on r"\]" "punctuation.section.group.end.rust" .close [],
      .mark ";" "punctuation.separator.rust" [],
      .include "types"] },
  { name := "generic"
    outer := ["meta.generic.rust"]
    items := [
      .on "<" "punctuation.definition.generic.begin.rust" (replace ["generic arguments"]) [],
      .on r"(?=\S)" "" .close []] },
  { name := "generic arguments"
    outer := ["meta.generic.rust"]
    items := [
      .on ">" "punctuation.definition.generic.end.rust" .close [],
      .mark "," "punctuation.separator.rust" [],
      .mark ":" "punctuation.separator.rust" [],
      .mark "=" "keyword.operator.rust" [],
      .include "types"] },
  { name := "type annotation", items := [
    .on r"(?=[=,;)\x7b\x7d\]|]|$)" "" .close [],
    .include "types"] }]

/-- Functions. -/
def rustFunctions : List Context := [
  { name := "function"
    outer := ["meta.function.rust"]
    items := [
      .include "comments",
      .mark rustName "entity.name.function.rust" [],
      .on "<" "punctuation.definition.generic.begin.rust" (enter ["generic arguments"]) [],
      .on r"(?=\()" "" (replace ["function head"]) [],
      .on r"(?=[;\x7b\x7d])" "" .close []] },
  { name := "function head"
    outer := ["meta.function.rust"]
    items := [
      .on r"\(" "punctuation.section.parameters.begin.rust" (enter ["parameters"]) [],
      .on r"\)" "meta.function.parameters.rust punctuation.section.parameters.end.rust"
        (replace ["function tail"]) [],
      .on r"(?=[;\x7b\x7d])" "" .close []] },
  { name := "parameters"
    outer := ["meta.function.parameters.rust"]
    items := [
      .on r"(?=\))" "" .close [],
      .include "comments",
      .mark "," "punctuation.separator.rust" [],
      .mark "&" "keyword.operator.rust" [],
      .mark r"\b(?:mut|ref)\b" "storage.modifier.rust" [],
      .mark rustLifetime "storage.modifier.lifetime.rust" [],
      .mark r"\bself\b" "variable.parameter.rust" [],
      .on ("(" ++ rustName ++ r")\s*(:)") "" (enter ["parameter type"])
        [(1, "variable.parameter.rust"), (2, "punctuation.separator.rust")],
      .on ":" "punctuation.separator.rust" (enter ["parameter type"]) []] },
  { name := "parameter type", items := [
    .on r"(?=[,)])" "" .close [],
    .include "types"] },
  { name := "function tail"
    outer := ["meta.function.rust"]
    items := [
      .include "comments",
      .on "->" "punctuation.separator.rust" (enter ["return type"]) [],
      .on r"\bwhere\b" "keyword.other.rust" (enter ["where clause"]) [],
      .on r"(?=\x7b)" "" (replace ["function body"]) [],
      .on r"(?=[;\x7d])" "" .close []] },
  { name := "return type"
    outer := ["meta.function.return-type.rust"]
    items := [
      .on r"(?=\s*(?:[\x7b;]|where\b))" "" .close [],
      .include "types"] },
  { name := "where clause"
    outer := ["meta.where.rust"]
    items := [
      .on r"(?=[\x7b;])" "" .close [],
      .mark "[,:]" "punctuation.separator.rust" [],
      .include "types"] },
  { name := "function body"
    outer := ["meta.function.rust"]
    items := [
      .on r"\x7b" "punctuation.section.block.begin.rust" (enter ["block"]) [],
      .on r"\x7d" "meta.block.rust punctuation.section.block.end.rust" .close [],
      .on r"(?=\S)" "" .close []] }]

/-- Items other than functions. -/
def rustItems : List Context := [
  { name := "items", items := [
    .on r"(#)!?(\[)" "" (enter ["attribute"])
      [(1, "punctuation.definition.annotation.rust"),
       (2, "punctuation.section.group.begin.rust")],
    .mark r"\bpub\b" "storage.modifier.rust" [],
    .on (r"\b(fn)\s+(?=" ++ rustName ++ ")") "meta.function.rust" (enter ["function"])
      [(1, "storage.type.function.rust")],
    .on (r"\b(mod)\s+(" ++ rustName ++ ")") "meta.module.rust" (enter ["module"])
      [(1, "storage.type.module.rust"), (2, "entity.name.module.rust")],
    .on (r"\b(struct|union)\s+(" ++ rustName ++ ")") "meta.struct.rust" (enter ["structure"])
      [(1, "storage.type.struct.rust"), (2, "entity.name.struct.rust")],
    .on (r"\b(enum)\s+(" ++ rustName ++ ")") "meta.enum.rust" (enter ["enumeration"])
      [(1, "storage.type.enum.rust"), (2, "entity.name.enum.rust")],
    .on (r"\b(trait)\s+(" ++ rustName ++ ")") "meta.trait.rust" (enter ["trait"])
      [(1, "storage.type.trait.rust"), (2, "entity.name.trait.rust")],
    .mark (r"\b(type)\s+(" ++ rustName ++ ")") ""
      [(1, "storage.type.type.rust"), (2, "entity.name.type.rust")],
    .on r"\bimpl\b" "storage.type.impl.rust" (enter ["implementation"]) [],
    .mark (r"\b(macro_rules!)\s+(" ++ rustName ++ ")") "meta.macro.rust"
      [(1, "support.function.rust"), (2, "entity.name.macro.rust")],
    .mark r"\b(?:use|extern|crate|where)\b" "keyword.other.rust" []] },
  { name := "attribute"
    outer := ["meta.annotation.rust"]
    items := [
      .on r"\]" "punctuation.section.group.end.rust" .close [],
      .mark rustName "variable.annotation.rust" [],
      .on r"\(" "punctuation.section.group.begin.rust" (enter ["attribute group"]) [],
      .mark "=" "keyword.operator.rust" [],
      .include "strings"] },
  { name := "attribute group"
    outer := ["meta.annotation.parameters.rust", "meta.group.rust"]
    items := [
      .on r"\)" "punctuation.section.group.end.rust" .close [],
      .mark "," "punctuation.separator.rust" [],
      .mark "=" "keyword.operator.rust" [],
      .on r"\(" "punctuation.section.group.begin.rust" (enter ["attribute group"]) [],
      .include "strings",
      .include "numbers"] },
  { name := "module"
    inner := ["meta.module.rust"]
    items := [
      .on r"\x7b" "punctuation.section.block.begin.rust" (enter ["block"]) [],
      .on r"\x7d" "meta.block.rust punctuation.section.block.end.rust" .close [],
      .on r"(?=\S)" "" .close []] },
  { name := "structure"
    inner := ["meta.struct.rust"]
    items := [
      .include "comments",
      .on "<" "punctuation.definition.generic.begin.rust" (enter ["generic arguments"]) [],
      .on r"\(" "punctuation.section.group.begin.rust" (enter ["type group"]) [],
      .on r"\x7b" "punctuation.section.block.begin.rust" (replace ["fields"]) [],
      .on r"(?=\S)" "" .close []] },
  { name := "fields"
    outer := ["meta.struct.rust", "meta.block.rust"]
    items := [
      .on r"\x7d" "punctuation.section.block.end.rust" .close [],
      .include "comments",
      .mark r"\bpub\b" "storage.modifier.rust" [],
      .on ("(" ++ rustName ++ r")\s*(:)") "" (enter ["field type"])
        [(1, "variable.other.member.rust"), (2, "punctuation.separator.rust")],
      .mark "," "punctuation.separator.rust" [],
      .on r"(#)!?(\[)" "" (enter ["attribute"])
        [(1, "punctuation.definition.annotation.rust"),
         (2, "punctuation.section.group.begin.rust")]] },
  { name := "field type", items := [
    .on r"(?=[,\x7d])" "" .close [],
    .include "types"] },
  { name := "enumeration"
    inner := ["meta.enum.rust"]
    items := [
      .include "comments",
      .on "<" "punctuation.definition.generic.begin.rust" (enter ["generic arguments"]) [],
      .on r"\x7b" "punctuation.section.block.begin.rust" (replace ["variants"]) [],
      .on r"(?=\S)" "" .close []] },
  { name := "variants"
    outer := ["meta.enum.rust", "meta.block.rust"]
    items := [
      .on r"\x7d" "punctuation.section.block.end.rust" .close [],
      .include "comments",
      .mark r"\b[[:alpha:]]\w*\b" "storage.type.source.rust" [],
      .on r"\(" "punctuation.section.group.begin.rust" (enter ["type group"]) [],
      .on r"\x7b" "punctuation.section.block.begin.rust" (enter ["fields"]) [],
      .mark "=" "keyword.operator.rust" [],
      .include "numbers",
      .mark "," "punctuation.separator.rust" []] },
  { name := "trait"
    inner := ["meta.trait.rust"]
    items := [
      .include "comments",
      .on "<" "punctuation.definition.generic.begin.rust" (enter ["generic arguments"]) [],
      .mark ":" "punctuation.separator.rust" [],
      .on r"\x7b" "punctuation.section.block.begin.rust" (enter ["block"]) [],
      .on r"\x7d" "meta.block.rust punctuation.section.block.end.rust" .close [],
      .on "(?=;)" "" .close [],
      .include "types"] },
  { name := "implementation"
    outer := ["meta.impl.rust"]
    items := [
      .include "comments",
      .on "<" "punctuation.definition.generic.begin.rust" (enter ["generic arguments"]) [],
      .mark r"\b(?:for|where)\b" "keyword.other.rust" [],
      .on r"\x7b" "punctuation.section.block.begin.rust" (enter ["block"]) [],
      .on r"\x7d" "meta.block.rust punctuation.section.block.end.rust" .close [],
      .on "(?=;)" "" .close [],
      .include "known types",
      .mark rustName "entity.name.impl.rust" [],
      .include "types"] }]

/-- Statements and expressions. -/
def rustStatements : List Context := [
  { name := "statements", items := [
    .include "comments",
    .include "items",
    .include "chars",
    .include "strings",
    .include "numbers",
    .mark ("(" ++ rustLifetime ++ r")\s*(:)") ""
      [(1, "entity.name.label.rust"), (2, "punctuation.separator.rust")],
    .mark rustLifetime "storage.modifier.lifetime.rust" [],
    .mark r"\b(?:let|const|static)\b" "storage.type.rust" [],
    .mark r"\b(?:mut|ref|move|unsafe|box|dyn|async)\b" "storage.modifier.rust" [],
    .mark r"\b(?:break|continue|else|for|if|in|loop|match|return|while|yield|await)\b"
      "keyword.control.rust" [],
    .mark r"\bas\b" "keyword.operator.rust" [],
    .mark r"\b(?:true|false)\b" "constant.language.rust" [],
    .mark r"\bself\b" "variable.language.rust" [],
    .mark r"\bsuper\b" "keyword.other.rust" [],
    .include "macros",
    .include "known types",
    .mark (rustName ++ r"(?=\s*\()") "support.function.rust" [],
    .on (r"(?:" ++ rustName ++ r")?(::)") "meta.path.rust" .stay
      [(1, "punctuation.accessor.rust")],
    .mark r"\b_*[A-Z][A-Z0-9_]*\b" "constant.other.rust" [],
    .on r"\x7b" "punctuation.section.block.begin.rust" (enter ["block end", "block"]) [],
    .on r"\(" "punctuation.section.group.begin.rust" (enter ["group end", "group"]) [],
    .on r"\[" "punctuation.section.group.begin.rust" (enter ["array end", "array"]) [],
    .mark "=>|->" "keyword.operator.rust" [],
    .mark r"\.\.\.|\.\.=|\.\." "keyword.operator.rust" [],
    .mark r"<<=|>>=|[-+%/*^&|=!<>]=|<<|>>|&&|\|\||[-+%/*^&|!<>=?@]" "keyword.operator.rust" [],
    .mark r"\." "punctuation.accessor.dot.rust" [],
    .mark "[,:]" "punctuation.separator.rust" [],
    .mark ";" "punctuation.terminator.rust" []] },
  { name := "block"
    outer := ["meta.block.rust"]
    items := [.on r"(?=\x7d)" "" .close [], .include "statements"] },
  { name := "block end", items := [
    .on r"\x7d" "meta.block.rust punctuation.section.block.end.rust" .close []] },
  { name := "group"
    outer := ["meta.group.rust"]
    items := [.on r"(?=\))" "" .close [], .include "statements"] },
  { name := "group end", items := [
    .on r"\)" "meta.group.rust punctuation.section.group.end.rust" .close []] },
  { name := "array"
    outer := ["meta.group.rust"]
    items := [.on r"(?=\])" "" .close [], .include "statements"] },
  { name := "array end", items := [
    .on r"\]" "meta.group.rust punctuation.section.group.end.rust" .close []] }]

/-- Macros, among them those that format text. -/
def rustMacros : List Context := [
  { name := "macros", items := [
    .on (r"\b(?:print|println|eprint|eprintln|format|write|writeln|panic|format_args|unreachable|"
        ++ r"assert|assert_eq|assert_ne|debug_assert)!(?=\s*\()") "support.macro.rust"
      (enter ["format start"]) [],
    .mark r"\b[[:alpha:]_]\w*!(?=\s*[(\x7b\[])" "support.macro.rust" []] },
  { name := "format start", items := [
    .on r"\(" "meta.group.rust punctuation.section.group.begin.rust"
      (replace ["group end", "format arguments"]) []] },
  { name := "format arguments"
    inner := ["meta.group.rust"]
    items := [
      .on r"(?=\))" "" .close [],
      .on "\"" "punctuation.definition.string.begin.rust" (enter ["format string"]) [],
      .include "statements"] },
  { name := "format string"
    outer := ["string.quoted.double.rust"]
    items := [
      .on "\"" "punctuation.definition.string.end.rust" .close [],
      .include "escapes",
      .mark r"\x7b\x7b|\x7d\x7d" "constant.character.escape.rust" [],
      .mark (r"\x7b(?:\d+|[[:alpha:]_]\w*)?(?::(?:.?[<>^])?[+-]?#?0?(?:\d+|[[:alpha:]_]\w*\$)?"
          ++ r"(?:\.(?:\d+|[[:alpha:]_]\w*\$|\*)?)?(?:\?|[oxXpbeE]\??)?)?\x7d")
        "constant.other.placeholder.rust" []] }]

/-- **The grammar of Rust.** -/
def rustGrammar : Grammar where
  scope := "source.rust"
  main := "statements"
  contexts := rustStatements ++ rustMacros ++ rustItems ++ rustFunctions ++ rustTypes ++
    rustNumbers ++ rustTexts ++ rustComments

end ArticleMarkup.Highlight
