import ArticleMarkup.Markdown.Blocks

/-!
# Table rows

The cells of a row are separated by bars; a backslash in front of a bar makes it part of the cell.
The row below the head holds nothing but hyphens, with colons where a column is aligned.

## Main definitions

- `rowOf?` — the cells at the end of a text whose last line is a row
- `isDelimiterRow` — the row below the head
- `Alignment.ofCell` — the alignment that one of its cells asks for
-/

namespace ArticleMarkup.Markdown

/-- The space between the parts of a row. -/
def isRowSpace (c : Char) : Bool :=
  c == ' ' || c == '\t' || c == '\x0b' || c == '\x0c'

/-- Remove the backslashes in front of bars. -/
def dropBarEscapes : List Char → List Char
  | [] => []
  | c :: cs =>
    if c = '\\' && cs.head? == some '|' then dropBarEscapes cs else c :: dropBarEscapes cs

/-- A cell's content: the characters up to a line end or a bar without a backslash before it, and
the text from there on. -/
def cellContent (escaped : Bool) : List Char → List Char × List Char
  | [] => ([], [])
  | c :: cs =>
    if c = '\n' || c = '\r' || (c = '|' && !escaped) then ([], c :: cs)
    else
      let (content, rest) := cellContent (c == '\\') cs
      (c :: content, rest)

/-- The text behind a bar and the space after it. -/
def cellEnd? (cs : List Char) : Option (List Char) :=
  match cs with
  | '|' :: rest => some (rest.dropWhile isRowSpace)
  | _ => none

/-- The text behind a line end and the space before it. -/
def rowEnd? (cs : List Char) : Option (List Char) :=
  match cs.dropWhile isRowSpace with
  | '\r' :: '\n' :: rest | '\n' :: rest => some rest
  | _ => none

/-- A row, and the text above it. -/
structure Row where
  /-- The text above the row. -/
  above : List Char
  /-- The cells, without space at their ends. -/
  cells : List (List Char)
deriving DecidableEq, Repr

/-- Read the rows of a text, of which the last one counts. `row` is the text from the start of the
present row on, `cells` holds its cells, the last first; `fuel` bounds the steps. -/
def rowsFrom (text : List Char) :
    Nat → List Char → List (List Char) → List Char → Option Row
  | 0, _, _, _ => none
  | fuel + 1, row, cells, cs =>
    if cs.isEmpty then
      if cells.isEmpty then none else some ⟨upTo text row, cells.reverse⟩
    else
      let (content, afterContent) := cellContent false cs
      let bar := cellEnd? afterContent
      let cells :=
        if content.isEmpty && bar.isNone then cells
        else trimBoth (dropBarEscapes content) :: cells
      match bar with
      | some rest => rowsFrom text fuel row cells rest
      | none =>
        match rowEnd? afterContent with
        | none =>
          if afterContent.isEmpty then rowsFrom text fuel row cells [] else none
        | some [] => if cells.isEmpty then none else some ⟨upTo text row, cells.reverse⟩
        | some rest => rowsFrom text fuel rest [] ((cellEnd? rest).getD rest)

/-- **The row at the end of a text** whose lines all have their line ends. -/
def rowOf? (text : List Char) : Option Row :=
  rowsFrom text (text.length + 1) text [] ((cellEnd? text).getD text)

/-- A cell of hyphens, with a colon at either end or both: the text behind it and the space around
it. -/
def delimiterCell? (cs : List Char) : Option (List Char) :=
  let colon (cs : List Char) : List Char :=
    match cs with
    | ':' :: rest => rest
    | cs => cs
  let cs := colon (cs.dropWhile isRowSpace)
  let hyphens := cs.takeWhile (· == '-')
  if hyphens.isEmpty then none
  else some ((colon (cs.drop hyphens.length)).dropWhile isRowSpace)

/-- The text consists of cells of hyphens with bars between them; `fuel` bounds their number. -/
def delimiterCells : Nat → List Char → Bool
  | 0, _ => false
  | fuel + 1, cs =>
    match delimiterCell? cs with
    | none => false
    | some [] => true
    | some ('|' :: rest) => (rest.dropWhile isRowSpace).isEmpty || delimiterCells fuel rest
    | some _ => false

/-- **The row below the head**, given the line without its line end. -/
def isDelimiterRow (body : List Char) : Bool :=
  match body with
  | '|' :: rest => delimiterCells rest.length rest
  | cs => delimiterCells cs.length cs

/-- The alignment that a cell of the row below the head asks for. -/
def Alignment.ofCell (cell : List Char) : Alignment :=
  match cell.head? == some ':', cell.getLast? == some ':' with
  | true, true => .center
  | true, false => .left
  | false, true => .right
  | false, false => .standard

/-- The cells of a row made to fit the columns. -/
def fitCells : List Alignment → List (List Char) → List (List Char)
  | [], _ => []
  | _ :: as, [] => [] :: fitCells as []
  | _ :: as, c :: cs => c :: fitCells as cs

end ArticleMarkup.Markdown
