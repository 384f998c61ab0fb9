import ArticleMarkup.Schema.Override

/-!
# Draft settings

Settings are put together from layers: files, the environment and the command line. A draft is what
one layer, or several of them together, say about each setting. Nothing in it is checked yet, so a
bad value in a lower layer does no harm when a higher layer replaces it.

## Main definitions

- `Draft` — what is said about each setting
- `Draft.onTopOf` — one draft on top of another
- `Draft.loggingOnly` — the part that concerns logging
-/

namespace ArticleMarkup

/-- **What is said about each setting.** -/
structure Draft where
  /-- The log level, as text. -/
  level : Option String := none
  /-- Log lines are JSON. -/
  json : Option Bool := none
  /-- The largest article, in bytes. -/
  maxInputBytes : Option Nat := none
  /-- The deepest nesting. -/
  maxNestingDepth : Option Nat := none
  /-- The largest number of elements. -/
  maxElements : Option Nat := none
  /-- The first heading level of the table of contents. -/
  tocMinLevel : Option Nat := none
  /-- The last heading level of the table of contents. -/
  tocMaxLevel : Option Nat := none
  /-- Headings link to themselves. -/
  linksHeadings : Option Bool := none
  /-- The class of these links. -/
  anchorClass : Option String := none
  /-- What is allowed beyond the base schema. -/
  overrides : Option (List Override) := none
deriving DecidableEq, Repr, Inhabited

namespace Draft

/-- **One draft on top of another**: for each setting the upper draft has its say first. -/
def onTopOf (upper lower : Draft) : Draft where
  level := upper.level <|> lower.level
  json := upper.json <|> lower.json
  maxInputBytes := upper.maxInputBytes <|> lower.maxInputBytes
  maxNestingDepth := upper.maxNestingDepth <|> lower.maxNestingDepth
  maxElements := upper.maxElements <|> lower.maxElements
  tocMinLevel := upper.tocMinLevel <|> lower.tocMinLevel
  tocMaxLevel := upper.tocMaxLevel <|> lower.tocMaxLevel
  linksHeadings := upper.linksHeadings <|> lower.linksHeadings
  anchorClass := upper.anchorClass <|> lower.anchorClass
  overrides := upper.overrides <|> lower.overrides

/-- The part of a draft that concerns logging. -/
def loggingOnly (draft : Draft) : Draft :=
  { level := draft.level, json := draft.json }

end Draft

end ArticleMarkup
