import ArticleMarkup.Forest
import ArticleMarkup.Highlight.Scope

/-!
# Spans

Code that is cut into pieces by scope changes becomes nested `span` elements: a span for each scope
that holds some text, with the atoms of the scope as its classes.

## Main definitions

- `Piece` — a piece of text, or a step of the scope stack
- `spans` — the nodes for a sequence of pieces
- `linePieces` — cut a line at the places where scopes change

## Design notes

`spans` reads the pieces from the last to the first. What it has built so far is a row of forests:
the first is the inside of the span that is still to be opened to the left, the next is what follows
that span, and so on outwards. An ending therefore starts a new forest, and a beginning closes the
first forest into a span. A beginning without an ending reaches to the end of the text, and an
ending without a beginning separates nothing, so the forests on its two sides are glued.
-/

namespace ArticleMarkup.Highlight

/-- A piece of highlighted code. -/
inductive Piece where
  /-- Some text. -/
  | text (content : String)
  /-- A step of the scope stack. -/
  | mark (mark : ScopeMark)
deriving DecidableEq, Repr

/-- The tag of a span: each atom of the scope is a class, with `stem` in front. -/
def spanTag (stem : String) (scope : Scope) : Tag :=
  ⟨"span", [⟨"class", Text.joinWith " " (scope.atoms.map (stem ++ ·))⟩]⟩

/-- A forest wrapped in a span, unless it is empty. -/
def spanAround (stem : String) (scope : Scope) (inner rest : Forest) : Forest :=
  if inner.isEmpty then rest else .element (spanTag stem scope) inner rest

/-- Put a piece in front of a row of forests. -/
def consPiece (stem : String) (piece : Piece) (row : List Forest) : List Forest :=
  match piece, row with
  | .text s, [] => [.ofText s]
  | .text s, inner :: outer => inner.consText s :: outer
  | .mark .pop, row => .nil :: row
  | .mark (.push _), [] => []
  | .mark (.push scope), [inner] => [spanAround stem scope inner .nil]
  | .mark (.push scope), inner :: rest :: outer => spanAround stem scope inner rest :: outer

/-- **Spans**: the nodes for a sequence of pieces. -/
def spans (stem : String) (pieces : List Piece) : Forest :=
  (pieces.foldr (consPiece stem) [.nil]).foldr Forest.glue .nil

/-- Why code could not be cut into pieces. -/
inductive ScopeError where
  /-- Scopes were to be restored and none were set aside. -/
  | nothingToRestore
deriving DecidableEq, Repr

/-- The wording of a scope error. -/
def ScopeError.message : ScopeError → String
  | .nothingToRestore => "NoClearedScopesToRestore"

/-- Scope changes, each with the number of characters of the line in front of it. -/
abbrev LineChanges := List (Nat × ScopeChange)

/-- The text between two places of a line, as pieces. -/
def textBetween (start stop : Nat) (line : List Char) : List Piece :=
  if start < stop then [.text (String.ofList ((line.drop start).take (stop - start)))] else []

/-- **Cut a line** at its scope changes, where `start` characters are cut off already. A place that
lies before `start` counts as `start`, and one past the end of the line as the end. -/
def linePieces (line : List Char) (start : Nat) (stack : ScopeStack) :
    LineChanges → Except ScopeError (List Piece × ScopeStack)
  | [] => .ok (textBetween start line.length line, stack)
  | (place, change) :: changes =>
    let stop := max start (min place line.length)
    match stack.apply change with
    | none => .error .nothingToRestore
    | some (marks, stack) =>
      match linePieces line stop stack changes with
      | .error e => .error e
      | .ok (pieces, stack) =>
        .ok (textBetween start stop line ++ marks.map .mark ++ pieces, stack)

end ArticleMarkup.Highlight
