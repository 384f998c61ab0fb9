import ArticleMarkup.Heading.Contents
import ArticleMarkup.Heading.Ids
import ArticleMarkup.Heading.SelfLink
import ArticleMarkup.Highlight.Standard
import ArticleMarkup.Html.Budget
import ArticleMarkup.Html.Fragment
import ArticleMarkup.Markdown.Document
import ArticleMarkup.Markdown.Html
import ArticleMarkup.Render.Config
import ArticleMarkup.Render.Failure
import ArticleMarkup.Render.Report
import ArticleMarkup.Render.Request

/-!
# Rendering

From the text of an article to HTML that is safe to put into a page, with the headings for a table
of contents. The markdown is read and written as HTML, the HTML is read as a browser reads it, and
the tree that results is sanitized, given heading ids and links, highlighted and written.

## Main definitions

- `Renderer` — a schema, a configuration and a highlighter
- `Renderer.ofConfig` — the renderer for a configuration, unless its overrides are refused
- `Renderer.tree?` — the tree of an article before anything is removed
- `Renderer.finish` — what becomes of a tree
- `Renderer.render`, `Renderer.renderUnsanitized` — the whole way

## Design notes

The passes over the tree are total functions; only the limits, which are checked before the tree
exists, can fail.
-/

namespace ArticleMarkup

/-- Fail when a text has more bytes than the limit. -/
def checkInputSize (markdown : String) (limit : Nat) : Except RenderError Unit :=
  if limit < markdown.utf8ByteSize then .error (.inputTooLarge markdown.utf8ByteSize limit)
  else .ok ()

/-- Fail when a markdown tree has a node below the limit. -/
def checkDepth (document : Markdown.Blocks Markdown.Inlines) (limit : Nat) :
    Except RenderError Unit :=
  match Markdown.exceedsDepth? limit document with
  | some depth => .error (.nestingTooDeep depth limit)
  | none => .ok ()

/-- Fail when an HTML text may make more elements than the limit. -/
def checkElements (html : String) (limit : Nat) : Except RenderError Unit :=
  match Html.checkBudget html limit with
  | some estimate => .error (.tooManyElements estimate limit)
  | none => .ok ()

/-- The tree of an HTML text, unless elements are nested deeper than the limit. -/
def lowerHtml (html : String) (limit : Nat) : Except RenderError Forest :=
  match Html.lowered html limit with
  | .ok tree => .ok tree
  | .error e => .error (.nestingTooDeep e.depth e.limit)

/-- The safe HTML of an article and its headings. -/
structure Rendering where
  /-- The HTML. -/
  html : String := ""
  /-- The headings for the table of contents, in document order. -/
  headings : List HeadingRecord := []
deriving DecidableEq, Repr

/-- **A renderer.** -/
structure Renderer where
  /-- What the sanitizer lets through. -/
  schema : Schema
  /-- Limits and heading options. -/
  config : RenderConfig
  /-- How code blocks are highlighted. -/
  highlighter : Highlight.Highlighter := Highlight.standardHighlighter

namespace Renderer

/-- The renderer for a configuration: the base schema with the overrides of the configuration. -/
def ofConfig (config : RenderConfig) : Except ConfigError Renderer :=
  match Schema.base.withOverrides config.overrides with
  | .ok schema => .ok { schema, config }
  | .error e => .error (.schema e)

/-- **The tree of an article**, before anything is removed; nothing for a blank article. -/
def tree? (r : Renderer) (markdown : String) : Except RenderError (Option Forest) := do
  checkInputSize markdown r.config.maxInputBytes
  if Text.isBlank markdown then return none
  let document := Markdown.document markdown
  checkDepth document r.config.maxNestingDepth
  let html := Markdown.htmlOf document
  checkElements html r.config.maxElements
  return some (← lowerHtml html r.config.maxNestingDepth)

/-- **Headings**: give them ids, record them, and link each to itself if the configuration says
so. -/
def headings (r : Renderer) (tree : Forest) : Forest × List HeadingRecord :=
  let tree := assignHeadingIds tree
  let records := collectHeadings r.config.tocLevels tree
  (if r.config.linksHeadings then linkHeadings r.config.anchorClass tree else tree, records)

/-- What becomes of a tree, with its headings and the code blocks that are left as they are. -/
def finish (r : Renderer) (tree : Forest) : Forest × List HeadingRecord × List Highlight.Refusal :=
  let (tree, records) := r.headings tree
  (r.highlighter.highlight tree, records, r.highlighter.refusals tree)

/-- **Render** an article, and say what happened on the way. -/
def render (r : Renderer) (request : RenderRequest) :
    Except RenderError (Rendering × List RenderEvent) := do
  match ← r.tree? request.markdown with
  | none => return ({}, [])
  | some tree =>
    let removals := r.schema.removals tree
    let (final, records, refusals) := r.finish (sanitize r.schema tree)
    let html := final.written
    let events :=
      (if removals.isClean then [] else [RenderEvent.removed removals]) ++ refusals.map .refused
        ++ [.rendered html.utf8ByteSize records.length]
    return (⟨html, records⟩, events)

/-- Render an article without removing anything. The result is for diagnosis and never safe to
show. -/
def renderUnsanitized (r : Renderer) (request : RenderRequest) :
    Except RenderError (String × List RenderEvent) := do
  match ← r.tree? request.markdown with
  | none => return ("", [])
  | some tree =>
    let (final, _, refusals) := r.finish tree
    return (final.written, refusals.map .refused)

end Renderer

end ArticleMarkup
