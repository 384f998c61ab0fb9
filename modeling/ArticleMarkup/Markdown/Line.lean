import ArticleMarkup.Text.Ascii

/-!
# Lines of markdown

A document is read line by line. Within a line a cursor moves over the markers of the blocks that
the line continues or begins; it counts columns, because a tab reaches to the next multiple of
four and may belong in part to a marker and in part to the text behind it.

## Main definitions

- `Line`, `linesOf` — the lines of a document, each with its line end
- `Cursor` — a place in a line, with the columns that are left of a tab
- `Cursor.indent`, `Cursor.text` — the blank columns ahead and the text behind them
-/

namespace ArticleMarkup.Markdown

/-- **White space** in markdown: the space and the control characters from tab to carriage
return. -/
def isSpace (c : Char) : Bool :=
  c == ' ' || ('\t' ≤ c && c ≤ '\r')

/-- A space or a tab. -/
def isSpaceOrTab (c : Char) : Bool :=
  c == ' ' || c == '\t'

/-- The characters before the white space at the end. -/
def trimRight (cs : List Char) : List Char :=
  (cs.reverse.dropWhile isSpace).reverse

/-- The characters between the white space at both ends. -/
def trimBoth (cs : List Char) : List Char :=
  trimRight (cs.dropWhile isSpace)

/-- A line of a document. -/
structure Line where
  /-- The characters of the line. -/
  body : List Char
  /-- The line end, which only the last line may lack. -/
  ending : List Char
deriving DecidableEq, Repr

/-- The line with its line end. -/
def Line.chars (line : Line) : List Char :=
  line.body ++ line.ending

/-- The line with its line end, or a line feed if it has none. -/
def Line.terminated (line : Line) : List Char :=
  line.body ++ if line.ending.isEmpty then ['\n'] else line.ending

/-- The lines of the remaining characters, where `body` holds those of a line already begun, last
first. A null character is read as the replacement character. -/
def linesFrom (body : List Char) : List Char → List Line
  | [] => if body.isEmpty then [] else [⟨body.reverse, []⟩]
  | '\r' :: '\n' :: cs => ⟨body.reverse, ['\r', '\n']⟩ :: linesFrom [] cs
  | '\r' :: cs => ⟨body.reverse, ['\r']⟩ :: linesFrom [] cs
  | '\n' :: cs => ⟨body.reverse, ['\n']⟩ :: linesFrom [] cs
  | c :: cs => linesFrom ((if c = '\x00' then '\ufffd' else c) :: body) cs

/-- **The lines of a document.** A mark of the byte order at its start is not part of the text. -/
def linesOf (source : List Char) : List Line :=
  match source with
  | '\ufeff' :: cs => linesFrom [] cs
  | cs => linesFrom [] cs

/-! ## Columns -/

/-- The columns that a tab takes at the given column. -/
def tabWidth (column : Nat) : Nat :=
  4 - column % 4

/-- The columns of the spaces and tabs at the front. -/
def blankColumns (column : Nat) : List Char → Nat
  | ' ' :: cs => 1 + blankColumns (column + 1) cs
  | '\t' :: cs => tabWidth column + blankColumns (column + tabWidth column) cs
  | _ => 0

/-- A place in a line. -/
structure Cursor where
  /-- The columns passed. -/
  column : Nat := 0
  /-- The columns that are left of a tab which was passed in part. -/
  owed : Nat := 0
  /-- The characters ahead, without that tab. -/
  rest : List Char
deriving DecidableEq, Repr

namespace Cursor

/-- The blank columns ahead. -/
def indent (c : Cursor) : Nat :=
  c.owed + blankColumns (c.column + c.owed) c.rest

/-- The characters behind the blank columns. -/
def text (c : Cursor) : List Char :=
  c.rest.dropWhile isSpaceOrTab

/-- Only blanks are ahead. -/
def isBlank (c : Cursor) : Bool :=
  c.text.isEmpty

/-- The next column is blank. -/
def atBlank (c : Cursor) : Bool :=
  c.owed > 0 || (match c.rest with
    | ch :: _ => isSpaceOrTab ch
    | [] => false)

/-- The characters ahead, with spaces for the columns left of a tab. -/
def content (c : Cursor) : List Char :=
  List.replicate c.owed ' ' ++ c.rest

/-- Pass the blank columns. -/
def skipIndent (c : Cursor) : Cursor :=
  ⟨c.column + c.indent, 0, c.text⟩

/-- Pass characters that take one column each. -/
def skipChars (c : Cursor) (n : Nat) : Cursor :=
  ⟨c.column + n, 0, c.rest.drop n⟩

/-- Pass one column. -/
def skipColumn (c : Cursor) : Cursor :=
  match c.owed, c.rest with
  | n + 1, cs => ⟨c.column + 1, n, cs⟩
  | 0, '\t' :: cs => ⟨c.column + 1, tabWidth c.column - 1, cs⟩
  | 0, _ :: cs => ⟨c.column + 1, 0, cs⟩
  | 0, [] => c

/-- Pass columns. -/
def skipColumns (c : Cursor) : Nat → Cursor
  | 0 => c
  | n + 1 => c.skipColumn.skipColumns n

/-- Pass at most `n` blank columns. -/
def skipBlanks (c : Cursor) : Nat → Cursor
  | 0 => c
  | n + 1 => if c.atBlank then c.skipColumn.skipBlanks n else c

/-- Pass to the end of the line. -/
def toEnd (c : Cursor) : Cursor :=
  ⟨c.column + c.rest.length, 0, []⟩

end Cursor

end ArticleMarkup.Markdown
