import ArticleMarkup.Forest.Written
import ArticleMarkup.Heading.Levels

/-!
# Tables of contents

The headings of a document as records, and the navigation markup that links to them.

## Main definitions

- `HeadingRecord` — id, text and level of a heading
- `collectHeadings` — the records of a document, in document order
- `contentsHtml` — the navigation markup
-/

namespace ArticleMarkup

/-- An entry of a table of contents. -/
structure HeadingRecord where
  /-- The id of the heading. -/
  id : String
  /-- The text of the heading without blank ends. -/
  text : String
  /-- The level of the heading. -/
  level : Nat
deriving DecidableEq, Repr, Inhabited

/-- The record of one element, if it is a heading in range that has an id and some text. -/
def headingRecord? (levels : Levels) (tag : Tag) (children : Forest) : Option HeadingRecord :=
  match tag.headingLevel?, tag.attr? "id" with
  | some level, some id =>
    if levels.contains level && !Text.isBlank children.textContent then
      some ⟨id, Text.trim children.textContent, level⟩
    else none
  | _, _ => none

/-- **The headings of a document** that are in range and not blank, in document order. -/
def collectHeadings (levels : Levels) : Forest → List HeadingRecord
  | .nil => []
  | .text _ rest => collectHeadings levels rest
  | .element tag cs rest =>
    (headingRecord? levels tag cs).toList ++ collectHeadings levels cs
      ++ collectHeadings levels rest

/-- The title of a table of contents when none is asked for. -/
def standardContentsTitle : String := "Table of contents"

/-- The entry for one heading. -/
def contentsItem (record : HeadingRecord) (rest : Forest) : Forest :=
  .element ⟨"li", [⟨"class", "toc-item toc-level-" ++ toString record.level⟩]⟩
    (.single ⟨"a", [⟨"href", "#" ++ record.id⟩]⟩ (.ofText record.text)) rest

/-- The navigation element over some headings. -/
def contentsForest (title : String) (records : List HeadingRecord) : Forest :=
  .single ⟨"nav", [⟨"aria-label", title⟩, ⟨"class", "toc-container"⟩]⟩
    (.element ⟨"h2", [⟨"class", "toc-title"⟩]⟩ (.ofText title)
      (.single ⟨"ul", [⟨"class", "toc-list"⟩]⟩ (records.foldr contentsItem .nil)))

/-- **Navigation markup** that links to every heading, or nothing when there is none. -/
def contentsHtml (title : String) (records : List HeadingRecord) : String :=
  if records.isEmpty then "" else (contentsForest title records).written

end ArticleMarkup
