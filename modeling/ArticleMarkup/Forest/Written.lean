import ArticleMarkup.Forest

/-!
# The written form of a forest

A forest is written as HTML text. Nothing is added, removed or rewritten on the way, except that
the written form never holds a blank line: a newline that would end a line of spaces and tabs is
written as a character reference, so that the whole fragment reads back as one block of raw HTML.

## Main definitions

- `Forest.pieces` — the written form before its lines are laid out
- `Piece.layOut` — the characters of a sequence of pieces
- `Forest.written` — the HTML text

## Design notes

Only newlines depend on what was written before them. They are kept apart from the rest, so that
`Forest.pieces` goes by the structure of the forest alone.
-/

namespace ArticleMarkup

/-- A part of the written form. -/
inductive Piece where
  /-- Characters that stand on the line. -/
  | ink (cs : List Char)
  /-- A space or a tab of a text. -/
  | space (c : Char)
  /-- A newline of a text. -/
  | newline
deriving DecidableEq, Repr

/-- **The characters** of a sequence of pieces. `blank` says that the current line was begun by a
newline and holds nothing but spaces and tabs. -/
def Piece.layOut (blank : Bool) : List Piece → List Char
  | [] => []
  | .ink cs :: rest => cs ++ layOut false rest
  | .space c :: rest => c :: layOut blank rest
  | .newline :: rest =>
    if blank then "&#10;".toList ++ layOut false rest else '\n' :: layOut true rest

/-- The elements that have no content and no end tag. -/
def voidTags : List String :=
  ["area", "base", "br", "col", "embed", "hr", "img", "input", "link", "meta", "source", "track",
    "wbr"]

/-- The elements that swallow a newline right after their start tag. -/
def newlineSwallowingTags : List String := ["pre", "textarea", "listing"]

/-- The piece for one character of a text. -/
def textPiece (c : Char) : Piece :=
  if c = '\n' then .newline
  else if c = ' ' || c = '\t' then .space c
  else if c = '&' then .ink "&amp;".toList
  else if c = '<' then .ink "&lt;".toList
  else if c = '>' then .ink "&gt;".toList
  else if c = '\u00a0' then .ink "&nbsp;".toList
  else .ink [c]

/-- The characters for one character of an attribute's value. -/
def valueChars (c : Char) : List Char :=
  if c = '&' then "&amp;".toList
  else if c = '"' then "&quot;".toList
  else if c = '<' then "&lt;".toList
  else if c = '>' then "&gt;".toList
  else if c = '\n' then "&#10;".toList
  else if c = '\u00a0' then "&nbsp;".toList
  else [c]

/-- The characters of an attribute, with the space in front. -/
def Attribute.chars (attr : Attribute) : List Char :=
  ' ' :: (attr.name.toList ++ '=' :: '"' :: (attr.value.toList.flatMap valueChars ++ ['"']))

/-- The characters of a start tag. -/
def Tag.startChars (tag : Tag) : List Char :=
  let inside := tag.name.toList ++ tag.attrs.flatMap Attribute.chars
  if voidTags.contains tag.name then '<' :: (inside ++ " />".toList) else '<' :: (inside ++ ['>'])

/-- The characters of an end tag. -/
def Tag.endChars (tag : Tag) : List Char :=
  '<' :: '/' :: (tag.name.toList ++ ['>'])

namespace Forest

/-- The first node is a text that starts with a newline. -/
def startsWithNewline : Forest → Bool
  | text s _ => s.toList.head? == some '\n'
  | _ => false

/-- The extra newline that an element with this name needs in front of its children. -/
def leadPieces (name : String) (children : Forest) : List Piece :=
  if newlineSwallowingTags.contains name && children.startsWithNewline then [.newline] else []

/-- **The pieces** of a forest in document order. The children of a void element are not
written. -/
def pieces : Forest → List Piece
  | nil => []
  | text s rest => s.toList.map textPiece ++ rest.pieces
  | element tag cs rest =>
    if voidTags.contains tag.name then .ink tag.startChars :: rest.pieces
    else
      .ink tag.startChars ::
        (leadPieces tag.name cs ++ cs.pieces ++ .ink tag.endChars :: rest.pieces)

/-- **The HTML text** of a forest. -/
def written (f : Forest) : String :=
  String.ofList (Piece.layOut false f.pieces)

end Forest

end ArticleMarkup
