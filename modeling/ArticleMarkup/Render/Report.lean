import ArticleMarkup.Highlight.CodeBlocks
import ArticleMarkup.Sanitize

/-!
# Render reports

What happened during a render that is worth knowing and no failure.

## Main definitions

- `RenderEvent` — one such happening
- `RenderEvent.level`, `RenderEvent.message`, `RenderEvent.target` — how it is reported
-/

namespace ArticleMarkup

/-- **A happening** during a render. -/
inductive RenderEvent where
  /-- The sanitizer removed something. -/
  | removed (removals : Removals)
  /-- A code block was left as it is. -/
  | refused (refusal : Highlight.Refusal)
  /-- The render came to its end. -/
  | rendered (bytes headings : Nat)
deriving DecidableEq, Repr

/-- How much a happening matters. -/
inductive EventLevel where
  /-- For those who look closely. -/
  | debug
  /-- For everyone. -/
  | warn
deriving DecidableEq, Repr

namespace RenderEvent

/-- How much a happening matters. -/
def level : RenderEvent → EventLevel
  | .refused (.unreadable _ _) => .warn
  | _ => .debug

/-- What a happening is called in reports. -/
def message : RenderEvent → String
  | .removed _ => "Sanitizer removed disallowed markup"
  | .refused (.unknownLanguage _) => "No syntax definition; leaving block unhighlighted"
  | .refused (.unreadable _ _) => "Syntax highlighting failed; leaving block unhighlighted"
  | .rendered _ _ => "Rendered markdown"

/-- The part of the program that a happening is reported under. -/
def target : RenderEvent → String
  | .removed _ => "application::render::sanitize"
  | .refused _ => "application::render::highlight"
  | .rendered _ _ => "application::render::service"

end RenderEvent

end ArticleMarkup
