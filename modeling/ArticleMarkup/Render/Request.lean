import ArticleMarkup.Text.Blank

/-!
# Render requests

## Main definitions

- `RenderRequest` — an article to render, with a label for reports
- `RenderRequest.withLabel` — the same article under a label
-/

namespace ArticleMarkup

/-- **An article to render.** -/
structure RenderRequest where
  /-- The text of the article. -/
  markdown : String
  /-- What reports call the article. -/
  label : Option String := none
deriving DecidableEq, Repr

namespace RenderRequest

/-- Label a request. A blank label is no label and changes nothing. -/
def withLabel (request : RenderRequest) (label : String) : RenderRequest :=
  if Text.isBlank label then request else { request with label := some label }

/-- What reports call the article: its label, or a dash. -/
def title (request : RenderRequest) : String :=
  request.label.getD "-"

end RenderRequest

end ArticleMarkup
