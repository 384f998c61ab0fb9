import ArticleMarkup.Highlight.CodeBlocks
import ArticleMarkup.Highlight.Grammar.Machine
import ArticleMarkup.Highlight.Grammars.Diff
import ArticleMarkup.Highlight.Grammars.Json
import ArticleMarkup.Highlight.Grammars.Properties
import ArticleMarkup.Highlight.Grammars.Rust
import ArticleMarkup.Highlight.Grammars.Sql
import ArticleMarkup.Highlight.Grammars.Xml
import ArticleMarkup.Highlight.Grammars.Yaml
import ArticleMarkup.Highlight.Grammars.Html
import ArticleMarkup.Highlight.Grammars.Css
import ArticleMarkup.Highlight.Grammars.Python
import ArticleMarkup.Highlight.Grammars.C
import ArticleMarkup.Highlight.Grammars.Shell
import ArticleMarkup.Highlight.Grammars.Makefile
import ArticleMarkup.Highlight.Grammars.Markdown
import ArticleMarkup.Highlight.Grammars.Ruby
import ArticleMarkup.Highlight.Grammars.Erb
import ArticleMarkup.Highlight.Language

/-!
# The standard highlighter

Every known language has a tokenizer: that of its grammar, where there is one here.

## Main definitions

- `wholeScope` — a tokenizer that knows nothing but the scope of the language
- `grammarFor?` — the grammar of a language
- `standardHighlighter` — the highlighter for all known languages

## Design notes

There are grammars for some of the known languages only. Code in one of the others is recognized, and
its block gets the class and one span of the scope of its language, but nothing is told apart inside:
`wholeScope` stands in for the grammar that is missing. A renderer takes any other highlighter in
place of this one, and what is proved about highlighting holds for all tokenizers.
-/

namespace ArticleMarkup.Highlight

/-- One scope from the first character to the last, in place of a grammar. -/
def wholeScope (scope : Scope) : Tokenizer :=
  fun _ => .ok [[(0, .push scope)]]

/-- **The grammar** of the language with a given scope, if there is one. -/
def grammarFor? (scope : Scope) : Option Grammar :=
  match scope with
  | "source.diff" => some diffGrammar
  | "source.java-props" => some propertiesGrammar
  | "source.json" => some jsonGrammar
  | "source.rust" => some rustGrammar
  | "source.sql" => some sqlGrammar
  | "text.xml" => some xmlGrammar
  | "source.yaml" => some yamlGrammar
  | "text.html.basic" => some htmlGrammar
  | "source.css" => some cssGrammar
  | "source.python" => some pythonGrammar
  | "source.c" => some cGrammar
  | "source.shell.bash" => some bashGrammar
  | "source.shell" => some shellGrammar
  | "source.makefile" => some makefileGrammar
  | "text.html.markdown" => some markdownGrammar
  | "source.ruby" => some rubyGrammar
  | "text.html.ruby" => some erbGrammar
  | _ => none

/-- How a language is read. -/
def Language.tokenizer (language : Language) : Tokenizer :=
  match grammarFor? language.scope with
  | some g => g.tokenizer
  | none => wholeScope language.scope

/-- **The highlighter for all known languages.** -/
def standardHighlighter : Highlighter where
  tokenizer? word := (findLanguage? word).map Language.tokenizer

end ArticleMarkup.Highlight
