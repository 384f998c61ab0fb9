import ArticleMarkup.Anchor
import ArticleMarkup.Forest

/-!
# Heading ids

Every heading of a document gets an id of its own. An id that it carries is kept unless another
element has it or an earlier heading was given it; a new id is made from the text of the heading.

## Main definitions

- `reserveIds` — take the ids of all elements that are not headings
- `assignIds` — give ids to the headings in document order, outer headings before inner ones
- `assignHeadingIds` — both, for a whole document
-/

namespace ArticleMarkup

/-- The id that a tag carries, without blank ends, unless it is blank. -/
def ownId? (tag : Tag) : Option String :=
  match tag.attr? "id" with
  | none => none
  | some value => if Text.isBlank value then none else some (Text.trim value)

/-- Take the ids of all elements that are not headings, at any depth. -/
def reserveIds (anchors : Anchors) : Forest → Anchors
  | .nil => anchors
  | .text _ rest => reserveIds anchors rest
  | .element tag cs rest =>
    let anchors :=
      match tag.isHeading, ownId? tag with
      | false, some id => (anchors.reserve id).2
      | _, _ => anchors
    reserveIds (reserveIds anchors cs) rest

/-- The id of one heading: its own while it is free, else one made from its text. -/
def headingId (anchors : Anchors) (tag : Tag) (children : Forest) : String × Anchors :=
  match ownId? tag with
  | none => anchors.anchorFor children.textContent
  | some id =>
    match anchors.reserve id with
    | (true, anchors) => (id, anchors)
    | (false, anchors) => anchors.anchorFor children.textContent

/-- Give ids to the headings in document order, with the ids taken so far carried along. -/
def assignIds (anchors : Anchors) : Forest → Forest × Anchors
  | .nil => (.nil, anchors)
  | .text s rest =>
    let (rest, anchors) := assignIds anchors rest
    (.text s rest, anchors)
  | .element tag cs rest =>
    let (tag, anchors) :=
      if tag.isHeading then
        let (id, anchors) := headingId anchors tag cs
        (tag.setAttr "id" id, anchors)
      else (tag, anchors)
    let (cs, anchors) := assignIds anchors cs
    let (rest, anchors) := assignIds anchors rest
    (.element tag cs rest, anchors)

/-- **Give every heading an id of its own.** No heading gets the id of another element, wherever
that element stands. -/
def assignHeadingIds (document : Forest) : Forest :=
  (assignIds (reserveIds {} document) document).1

end ArticleMarkup
