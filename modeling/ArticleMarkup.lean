import ArticleMarkup.Anchor
import ArticleMarkup.CommandLine.Arguments
import ArticleMarkup.CommandLine.Invocation
import ArticleMarkup.Data.Decimal
import ArticleMarkup.Data.Json.Printer
import ArticleMarkup.Data.Json.Reader
import ArticleMarkup.Data.Numeral
import ArticleMarkup.Data.Toml.Reader
import ArticleMarkup.Data.Toml.Scalar
import ArticleMarkup.Data.Toml.Tree
import ArticleMarkup.Data.Value
import ArticleMarkup.Forest
import ArticleMarkup.Forest.Written
import ArticleMarkup.Heading.Contents
import ArticleMarkup.Heading.Ids
import ArticleMarkup.Heading.Levels
import ArticleMarkup.Heading.SelfLink
import ArticleMarkup.Highlight.CodeBlocks
import ArticleMarkup.Highlight.Grammar.Context
import ArticleMarkup.Highlight.Grammar.Machine
import ArticleMarkup.Highlight.Grammar.Regex
import ArticleMarkup.Highlight.Grammar.RegexReader
import ArticleMarkup.Highlight.Grammars.C
import ArticleMarkup.Highlight.Grammars.Css
import ArticleMarkup.Highlight.Grammars.Diff
import ArticleMarkup.Highlight.Grammars.Erb
import ArticleMarkup.Highlight.Grammars.Html
import ArticleMarkup.Highlight.Grammars.Json
import ArticleMarkup.Highlight.Grammars.Makefile
import ArticleMarkup.Highlight.Grammars.Markdown
import ArticleMarkup.Highlight.Grammars.Properties
import ArticleMarkup.Highlight.Grammars.Python
import ArticleMarkup.Highlight.Grammars.Ruby
import ArticleMarkup.Highlight.Grammars.Rust
import ArticleMarkup.Highlight.Grammars.Shell
import ArticleMarkup.Highlight.Grammars.Sql
import ArticleMarkup.Highlight.Grammars.Xml
import ArticleMarkup.Highlight.Grammars.Yaml
import ArticleMarkup.Highlight.Language
import ArticleMarkup.Highlight.Scope
import ArticleMarkup.Highlight.Spans
import ArticleMarkup.Highlight.Standard
import ArticleMarkup.Highlight.Tokenizer
import ArticleMarkup.Html.Budget
import ArticleMarkup.Html.Builder
import ArticleMarkup.Html.Construction
import ArticleMarkup.Html.Dom
import ArticleMarkup.Html.Foreign
import ArticleMarkup.Html.Fragment
import ArticleMarkup.Html.NamedCharacters
import ArticleMarkup.Html.Scanner
import ArticleMarkup.Html.Stack
import ArticleMarkup.Html.Token
import ArticleMarkup.Main
import ArticleMarkup.Markdown.Blocks
import ArticleMarkup.Markdown.Blocks.Open
import ArticleMarkup.Markdown.Blocks.Reader
import ArticleMarkup.Markdown.Document
import ArticleMarkup.Markdown.Escape
import ArticleMarkup.Markdown.Footnotes
import ArticleMarkup.Markdown.Html
import ArticleMarkup.Markdown.Inlines
import ArticleMarkup.Markdown.Inlines.Autolink
import ArticleMarkup.Markdown.Inlines.Emphasis
import ArticleMarkup.Markdown.Inlines.Reader
import ArticleMarkup.Markdown.Line
import ArticleMarkup.Markdown.RawHtml
import ArticleMarkup.Markdown.Reference
import ArticleMarkup.Markdown.Table
import ArticleMarkup.Program
import ArticleMarkup.Proofs.Anchor
import ArticleMarkup.Proofs.Anchor.Reference
import ArticleMarkup.Proofs.Attributes
import ArticleMarkup.Proofs.Attributes.Classes
import ArticleMarkup.Proofs.Attributes.KeptClasses
import ArticleMarkup.Proofs.CommandLine.Flags
import ArticleMarkup.Proofs.Forest.Events
import ArticleMarkup.Proofs.Forest.Joins
import ArticleMarkup.Proofs.Forest.Nodes
import ArticleMarkup.Proofs.Forest.Outline
import ArticleMarkup.Proofs.Forest.Retag
import ArticleMarkup.Proofs.Forest.Tags
import ArticleMarkup.Proofs.Forest.Texts
import ArticleMarkup.Proofs.Heading.Alike
import ArticleMarkup.Proofs.Heading.Appended
import ArticleMarkup.Proofs.Heading.Contents
import ArticleMarkup.Proofs.Heading.Ids
import ArticleMarkup.Proofs.Heading.Labels
import ArticleMarkup.Proofs.Heading.NestedLinks
import ArticleMarkup.Proofs.Heading.Relinking
import ArticleMarkup.Proofs.Heading.SelfLinks
import ArticleMarkup.Proofs.Heading.Shape
import ArticleMarkup.Proofs.Highlight.Alike
import ArticleMarkup.Proofs.Highlight.Around
import ArticleMarkup.Proofs.Highlight.CodeBlocks
import ArticleMarkup.Proofs.Highlight.Frame
import ArticleMarkup.Proofs.Highlight.Hidden
import ArticleMarkup.Proofs.Highlight.Spans
import ArticleMarkup.Proofs.Html.Adoption
import ArticleMarkup.Proofs.Html.Budget
import ArticleMarkup.Proofs.Html.Elements
import ArticleMarkup.Proofs.Html.Growth
import ArticleMarkup.Proofs.Html.LineEnds
import ArticleMarkup.Proofs.Html.Lowering
import ArticleMarkup.Proofs.Html.Modes
import ArticleMarkup.Proofs.Html.Nesting
import ArticleMarkup.Proofs.Html.Operations
import ArticleMarkup.Proofs.Html.Pending
import ArticleMarkup.Proofs.Html.Renewal
import ArticleMarkup.Proofs.Html.Reparse
import ArticleMarkup.Proofs.Html.Replaced
import ArticleMarkup.Proofs.Html.Rules
import ArticleMarkup.Proofs.Html.Scanning
import ArticleMarkup.Proofs.Html.Tally
import ArticleMarkup.Proofs.Html.Worth
import ArticleMarkup.Proofs.Markdown.Depth
import ArticleMarkup.Proofs.Markdown.RawLines
import ArticleMarkup.Proofs.Render.Again
import ArticleMarkup.Proofs.Render.Contents
import ArticleMarkup.Proofs.Render.DistinctNames
import ArticleMarkup.Proofs.Render.Ended
import ArticleMarkup.Proofs.Render.Limits
import ArticleMarkup.Proofs.Render.Nesting
import ArticleMarkup.Proofs.Render.Reread
import ArticleMarkup.Proofs.Render.Safety
import ArticleMarkup.Proofs.Sanitize.Again
import ArticleMarkup.Proofs.Sanitize.Conformance
import ArticleMarkup.Proofs.Sanitize.Content
import ArticleMarkup.Proofs.Sanitize.Report
import ArticleMarkup.Proofs.Sanitize.Settled
import ArticleMarkup.Proofs.Schema.Guarded
import ArticleMarkup.Proofs.Schema.Merging
import ArticleMarkup.Proofs.Schema.Rules
import ArticleMarkup.Proofs.Settings.Checks
import ArticleMarkup.Proofs.Settings.Layers
import ArticleMarkup.Proofs.Slug
import ArticleMarkup.Proofs.Slug.Runs
import ArticleMarkup.Proofs.Slug.Stability
import ArticleMarkup.Proofs.Text.JoinedWords
import ArticleMarkup.Proofs.Text.Lowercase
import ArticleMarkup.Proofs.Text.Trim
import ArticleMarkup.Proofs.Text.TrimmedWords
import ArticleMarkup.Proofs.Text.Words
import ArticleMarkup.Proofs.Url
import ArticleMarkup.Proofs.Written.Lines
import ArticleMarkup.Proofs.Written.Markup
import ArticleMarkup.Proofs.Written.Reading
import ArticleMarkup.Render.Config
import ArticleMarkup.Render.Failure
import ArticleMarkup.Render.Renderer
import ArticleMarkup.Render.Report
import ArticleMarkup.Render.Request
import ArticleMarkup.Sanitize
import ArticleMarkup.Schema
import ArticleMarkup.Schema.Override
import ArticleMarkup.Schema.Pattern
import ArticleMarkup.Settings.Draft
import ArticleMarkup.Settings.Level
import ArticleMarkup.Settings.Reading
import ArticleMarkup.Settings.Resolved
import ArticleMarkup.Settings.Sources
import ArticleMarkup.Slug
import ArticleMarkup.Table
import ArticleMarkup.Tag
import ArticleMarkup.Text.Alphanumeric
import ArticleMarkup.Text.Ascii
import ArticleMarkup.Text.Blank
import ArticleMarkup.Text.Folding
import ArticleMarkup.Text.Lowercase
import ArticleMarkup.Text.Numeral
import ArticleMarkup.Text.Punctuation
import ArticleMarkup.Url
import ArticleMarkup.Url.Host
import ArticleMarkup.Url.HostCharacters
import ArticleMarkup.Url.HostScripts
import ArticleMarkup.Url.NormalForm
import ArticleMarkup.Url.Punycode
