import ArticleMarkup.Heading.Levels
import ArticleMarkup.Schema.Override

/-!
# Render configuration

## Main definitions

- `RenderConfig` — limits, heading options and schema overrides
-/

namespace ArticleMarkup

/-- **How articles are rendered.** -/
structure RenderConfig where
  /-- The largest article, in bytes of UTF-8. -/
  maxInputBytes : Nat := 1048576
  /-- The deepest nesting, of the markdown tree and of the elements. -/
  maxNestingDepth : Nat := 128
  /-- The largest estimate of the number of elements. -/
  maxElements : Nat := 200000
  /-- The headings that the table of contents lists. -/
  tocLevels : Levels := Levels.standard
  /-- Headings link to themselves. -/
  linksHeadings : Bool := true
  /-- The class of these links. -/
  anchorClass : String := "heading-anchor"
  /-- What is allowed beyond the base schema. -/
  overrides : List Override := []
deriving DecidableEq, Repr

end ArticleMarkup
