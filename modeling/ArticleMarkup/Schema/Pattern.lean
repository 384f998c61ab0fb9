import ArticleMarkup.Table
import ArticleMarkup.Text.Ascii
import ArticleMarkup.Text.Blank
import ArticleMarkup.Url

/-!
# Value patterns

A pattern restricts the value of an attribute, or each word of a class list.

## Main definitions

- `Pattern` — the kinds of restriction
- `Pattern.accepts` — the test of a value
-/

namespace ArticleMarkup

/-- A restriction on a value. -/
inductive Pattern where
  /-- Every value. -/
  | any
  /-- One of the listed values, compared without case and without blank ends. -/
  | oneOf (values : List String)
  /-- A listed beginning with something after it. -/
  | startingWith (starts : List String)
  /-- A relative reference, or an address with one of the listed schemes. -/
  | url (schemes : List String)
deriving DecidableEq, Repr, Inhabited

namespace Pattern

/-- A pattern of listed values, kept in order and without repetition. -/
def ofValues (values : List String) : Pattern :=
  .oneOf (sortedDistinct values)

/-- A pattern of listed schemes, kept in order and without repetition. -/
def ofSchemes (schemes : List String) : Pattern :=
  .url (sortedDistinct schemes)

/-- The value begins with `start` and goes on after it. -/
def extends? (start value : String) : Bool :=
  match Text.dropStart? start.toList value.toList with
  | some (_ :: _) => true
  | _ => false

/-- A reference whose scheme is listed, or that has none. -/
def acceptsUrl (schemes : List String) (value : String) : Bool :=
  match Url.classify value with
  | .absolute scheme => schemes.contains scheme
  | .relative => true
  | .invalid => false

/-- **The test of a value** (or of a single word, for class lists). -/
def accepts : Pattern → String → Bool
  | .any, _ => true
  | .oneOf values, value => values.any (Text.sameIgnoringCase · (Text.trim value))
  | .startingWith starts, value => starts.any (extends? · value)
  | .url schemes, value => acceptsUrl schemes value

end Pattern

end ArticleMarkup
