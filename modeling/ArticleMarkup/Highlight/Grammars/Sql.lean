import ArticleMarkup.Highlight.Grammar.Context

/-!
# The grammar of SQL

## Main definitions

- `sqlGrammar` — definitions, queries, literals and comments
-/

namespace ArticleMarkup.Highlight

open Grammar

/-- Data types, as alternatives. -/
def sqlTypes : String :=
  r"(?i)\b(bigint|bigserial|bit|boolean|box|bytea|cidr|circle|date|datetime|double\sprecision|" ++
    r"inet|int|integer|line|lseg|macaddr|money|oid|path|point|polygon|real|serial|smallint|" ++
    r"sysdate|text)\b"

/-- Data types with a width, as an expression. -/
def sqlSizedTypes : String :=
  r"(?i)\b(bit\svarying|character\s(?:varying)?|tinyint|var\schar|float|interval)\((\d+)\)"

/-- Statements that define tables and the like. -/
def sqlDefinitions : List Item := [
  .mark (r#"(?i:^\s*(create(?:\s+or\s+replace)?)\s+(aggregate|conversion|database|domain|function|"#
      ++ r#"group|(unique\s+)?index|language|operator class|operator|procedure|rule|schema|"#
      ++ r##"sequence|table|tablespace|trigger|type|user|view)\s+)(['"`]?)(\w+)\4"##)
    "meta.create.sql"
    [(1, "keyword.other.create.sql"), (2, "keyword.other.sql"), (5, "entity.name.function.sql")],
  .mark (r"(?i:^\s*(drop)\s+(aggregate|conversion|database|domain|function|group|index|language|"
      ++ r"operator class|operator|procedure|rule|schema|sequence|table|tablespace|trigger|type|"
      ++ r"user|view))") "meta.drop.sql"
    [(1, "keyword.other.create.sql"), (2, "keyword.other.sql")],
  .mark r"(?i:\s*(drop)\s+(table)\s+(\w+)(\s+cascade)?\b)" "meta.drop.sql"
    [(1, "keyword.other.create.sql"), (2, "keyword.other.table.sql"),
     (3, "entity.name.function.sql"), (4, "keyword.other.cascade.sql")],
  .mark (r"(?i:^\s*(alter)\s+(aggregate|conversion|database|domain|function|group|index|language|"
      ++ r"operator class|operator|procedure|rule|schema|sequence|table|tablespace|trigger|type|"
      ++ r"user|view)\s+)") "meta.alter.sql"
    [(1, "keyword.other.create.sql"), (2, "keyword.other.table.sql")]]

/-- Types and what restricts them. -/
def sqlStorage : List Item := [
  .mark sqlTypes "" [(1, "storage.type.sql")],
  .mark sqlSizedTypes "" [(1, "storage.type.sql"), (2, "constant.numeric.sql")],
  .mark r"(?i)\b(char|number|varchar\d?)\b(?:\((\d+)\))?" ""
    [(1, "storage.type.sql"), (2, "constant.numeric.sql")],
  .mark r"(?i)\b(numeric|decimal)\b(?:\((\d+),(\d+)\))?" ""
    [(1, "storage.type.sql"), (2, "constant.numeric.sql"), (3, "constant.numeric.sql")],
  .mark r"(?i)\b(times?)\b(?:\((\d+)\))?(\swith(?:out)?\stime\szone\b)?" ""
    [(1, "storage.type.sql"), (2, "constant.numeric.sql"), (3, "storage.type.sql")],
  .mark r"(?i)\b(timestamp)(?:(s|tz))?\b(?:\((\d+)\))?(\swith(?:out)?\stime\szone\b)?" ""
    [(1, "storage.type.sql"), (2, "storage.type.sql"), (3, "constant.numeric.sql"),
     (4, "storage.type.sql")],
  .mark (r"(?i:\b((?:primary|foreign)\s+key|references|on\sdelete(\s+cascade)?|check|constraint)"
      ++ r"\b)") "storage.modifier.sql" []]

/-- Words and signs of queries. -/
def sqlQueries : List Item := [
  .mark r"\b\d+\b" "constant.numeric.sql" [],
  .mark (r"(?i:\b(select(\s+distinct)?|insert\s+(ignore\s+)?into|update|delete|from|set|where|"
      ++ r"group\s+by|or|like|between|and|union(\s+all)?|having|order\s+by|limit|offset|"
      ++ r"(inner|cross)\s+join|join|straight_join|"
      ++ r"(left|right)(\s+outer)?\s+join|natural(\s+(left|right)(\s+outer)?)?\s+join)\b)")
    "keyword.other.DML.sql" [],
  .mark r"(?i:\b(on|((is\s+)?not\s+)?null)\b)" "keyword.other.DDL.create.II.sql" [],
  .mark r"(?i:\bvalues\b)" "keyword.other.DML.II.sql" [],
  .mark r"(?i:\b(begin(\s+work)?|start\s+transaction|commit(\s+work)?|rollback(\s+work)?)\b)"
    "keyword.other.LUW.sql" [],
  .mark r"(?i:\b(grant(\swith\sgrant\soption)?|revoke)\b)" "keyword.other.authorization.sql" [],
  .mark r"(?i:\bin\b)" "keyword.other.data-integrity.sql" [],
  .mark (r"(?i:^\s*(comment\s+on\s+(table|column|aggregate|constraint|database|domain|function|"
      ++ r"index|operator|rule|schema|sequence|trigger|type|view))\s+.*?\s+(is)\s+)")
    "keyword.other.object-comments.sql" [],
  .mark r"(?i)\bAS\b" "keyword.other.alias.sql" [],
  .mark r"(?i)\b(DESC|ASC)\b" "keyword.other.order.sql" [],
  .mark r"\*" "keyword.operator.star.sql" [],
  .mark "[!<>]?=|<>|<|>" "keyword.operator.comparison.sql" [],
  .mark r"-|\+|/" "keyword.operator.math.sql" [],
  .mark r"\|\|" "keyword.operator.concatenator.sql" [],
  .mark (r"(?i)\b(CURRENT_(DATE|TIME(STAMP)?|USER)|(SESSION|SYSTEM)_USER)\b")
    "support.function.scalar.sql" [],
  .mark r"(?i)\b(AVG|COUNT|MIN|MAX|SUM)(?=\s*\()" "support.function.aggregate.sql" [],
  .mark (r"(?i)\b(CONCATENATE|CONVERT|LOWER|SUBSTRING|TRANSLATE|TRIM|UPPER)\b")
    "support.function.string.sql" [],
  .mark r"(\w+?)\.(\w+)" ""
    [(1, "constant.other.database-name.sql"), (2, "constant.other.table-name.sql")]]

/-- Comments, strings and what stands in them. -/
def sqlTexts : List Context := [
  { name := "comments", items := [
    .on "--" "punctuation.definition.comment.sql" (enter ["dashes"]) [],
    .on "#" "punctuation.definition.comment.sql" (enter ["number sign"]) [],
    .on r"/\*" "punctuation.definition.comment.sql" (enter ["block comment"]) []] },
  { name := "dashes"
    outer := ["comment.line.double-dash.sql"]
    items := [.on r"\n" "" .close []] },
  { name := "number sign"
    outer := ["comment.line.number-sign.sql"]
    items := [.on r"\n" "" .close []] },
  { name := "block comment"
    outer := ["comment.block.c"]
    items := [.on r"\*/" "punctuation.definition.comment.sql" .close []] },
  { name := "strings", items := [
    .on "'" "punctuation.definition.string.begin.sql" (enter ["single"]) [],
    .on "`" "punctuation.definition.string.begin.sql" (enter ["backtick"]) [],
    .on "\"" "punctuation.definition.string.begin.sql" (enter ["double"]) []] },
  { name := "single"
    outer := ["string.quoted.single.sql"]
    items := [
      .mark "''" "constant.character.escape.sql" [],
      .on "'" "punctuation.definition.string.end.sql" .close [],
      .mark r"\\." "constant.character.escape.sql" []] },
  { name := "backtick"
    outer := ["string.quoted.other.backtick.sql"]
    items := [
      .on "`" "punctuation.definition.string.end.sql" .close [],
      .mark r"\\." "constant.character.escape.sql" []] },
  { name := "double"
    outer := ["string.quoted.double.sql"]
    items := [
      .mark "\"\"" "constant.character.escape.sql" [],
      .on "\"" "punctuation.definition.string.end.sql" .close []] }]

/-- **The grammar of SQL.** -/
def sqlGrammar : Grammar where
  scope := "source.sql"
  main := "statements"
  contexts := { name := "statements"
                items := [.include "comments"] ++ sqlDefinitions ++ sqlStorage ++ sqlQueries ++
                  [.include "strings"] } :: sqlTexts

end ArticleMarkup.Highlight
