import ArticleMarkup.Text.Alphanumeric
import ArticleMarkup.Text.Lowercase

/-!
# Slugs

The slug of a text keeps its letters and numbers, in lowercase, and joins the runs of them by
single hyphens: `Hello, World!` becomes `hello-world`.

## Main definitions

- `slugChars` — one pass over the characters
- `slug` — the slug of a text, `section` when the text has no letter and no number
-/

namespace ArticleMarkup

/-- The slug of a text without any letter or number. -/
def fallbackSlug : String := "section"

/-- The slug of the remaining characters. `started` says that a letter or number came before, and
`gap` that something else has come since the last of them. -/
def slugChars (started gap : Bool) : List Char → List Char
  | [] => []
  | c :: cs =>
    if Text.isAlphanumeric c then
      if started && gap then '-' :: (Text.lowercase c ++ slugChars true false cs)
      else Text.lowercase c ++ slugChars true false cs
    else
      slugChars started true cs

/-- **The slug of a text**: its runs of letters and numbers, in lowercase, joined by hyphens. -/
def slug (text : String) : String :=
  match slugChars false false text.toList with
  | [] => fallbackSlug
  | cs => String.ofList cs

end ArticleMarkup
