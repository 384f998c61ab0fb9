import ArticleMarkup.Highlight.Tokenizer

/-!
# Highlighting code blocks

A code block is a `pre` element whose only child is a `code` element with a class `language-…`.
When the language is known and the code can be read, the content of the `code` element is replaced
by spans and the block is given a class; otherwise the block stays as it is and the reason is
reported.

## Main definitions

- `codeLanguage?` — the language that a `code` element names
- `Highlighter` — the known languages and how span classes are spelled
- `Highlighter.highlight` — highlight all code blocks of a document
- `Highlighter.refusals` — the blocks that were left as they are, and why
-/

namespace ArticleMarkup.Highlight

/-- The class of a highlighted block. -/
def blockClass : String := "syntax-highlight"

/-- What the first word that starts with `language-` says after it. -/
def languageOfClasses? : List String → Option String
  | [] => none
  | w :: ws =>
    match Text.dropStart? "language-".toList w.toList with
    | some [] => none
    | some name => some (String.ofList name)
    | none => languageOfClasses? ws

/-- **The language** that the classes of a `code` element name. -/
def codeLanguage? (tag : Tag) : Option String :=
  languageOfClasses? tag.classes

/-- Why a code block is left as it is. -/
inductive Refusal where
  /-- The language is not known. -/
  | unknownLanguage (language : String)
  /-- The code could not be read. -/
  | unreadable (language reason : String)
deriving DecidableEq, Repr

/-- The known languages, and the stem of every class of a span. -/
structure Highlighter where
  /-- The tokenizer for a language, if the language is known. -/
  tokenizer? : String → Option Tokenizer
  /-- What stands in front of each atom of a scope. -/
  stem : String := "syntax-"

namespace Highlighter

/-- The spans for the content of a `code` element; nothing for one that names no language. -/
def spans? (h : Highlighter) (tag : Tag) (content : Forest) : Option (Except Refusal Forest) :=
  match codeLanguage? tag with
  | none => none
  | some language =>
    match h.tokenizer? language with
    | none => some (.error (.unknownLanguage language))
    | some t =>
      match t.spans h.stem content.textContent with
      | .error reason => some (.error (.unreadable language reason))
      | .ok f => some (.ok f)

/-- The spans for a `pre` element with this content, when it is a code block. -/
def blockSpans? (h : Highlighter) : Forest → Option (Except Refusal Forest)
  | .element tag content .nil => if tag.name = "code" then h.spans? tag content else none
  | _ => none

/-- The content of a `pre` element replaced inside its `code` element. -/
def withCode (spans : Forest) : Forest → Forest
  | .element tag _ rest => .element tag spans rest
  | f => f

/-- **Highlight** all code blocks of a document. Nothing inside a `pre` element is looked at, save
for the one `code` element of a code block. -/
def highlight (h : Highlighter) : Forest → Forest
  | .nil => .nil
  | .text s rest => .text s (h.highlight rest)
  | .element tag cs rest =>
    if tag.name = "pre" then
      match h.blockSpans? cs with
      | some (.ok spans) =>
        .element (tag.addClass blockClass) (withCode spans cs) (h.highlight rest)
      | _ => .element tag cs (h.highlight rest)
    else .element tag (h.highlight cs) (h.highlight rest)

/-- **The blocks left as they are**, in document order. -/
def refusals (h : Highlighter) : Forest → List Refusal
  | .nil => []
  | .text _ rest => h.refusals rest
  | .element tag cs rest =>
    if tag.name = "pre" then
      match h.blockSpans? cs with
      | some (.error e) => e :: h.refusals rest
      | _ => h.refusals rest
    else h.refusals cs ++ h.refusals rest

end Highlighter

end ArticleMarkup.Highlight
