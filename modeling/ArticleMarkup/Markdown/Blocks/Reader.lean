import ArticleMarkup.Markdown.Blocks.Open

/-!
# Reading blocks

Each line is first matched against the open blocks from the document inward. Behind the markers of
the blocks that it continues it may begin new ones; what is left is text for the innermost block.
A paragraph whose line is not matched by the blocks around it is still continued if nothing new
begins.

## Main definitions

- `OpenBlock.continuedBy` — how a line continues an open block
- `Place` — a line between its markers and its text
- `Place.start?` — the block that begins at a place
- `Place.settle` — what becomes of the rest of the line
- `blocksOf` — all blocks of a document, with the targets of its labels
-/

namespace ArticleMarkup.Markdown

/-- The indent at which text becomes code. -/
def codeIndent : Nat := 4

/-- The most blocks that one line begins, lists and footnotes counted. -/
def maxStarts : Nat := 100

/-! ## Continuing open blocks -/

/-- How a line continues an open block. -/
inductive Continuation where
  /-- The line goes on behind this place. -/
  | goesOn (cursor : Cursor)
  /-- The line does not continue the block. -/
  | stops
  /-- The line is the closing fence of the block. -/
  | closingFence
deriving DecidableEq, Repr

/-- The number of marks of a fence that stands alone on its line. -/
def fenceLength (char : Char) (cs : List Char) : Nat :=
  let n := (cs.takeWhile (· == char)).length
  if (cs.drop n).all isSpaceOrTab then n else 0

/-- **How a line continues** an open block. `holds` says that the block has some block inside. -/
def OpenBlock.continuedBy (b : OpenBlock) (holds : Bool) (line : Line) (c : Cursor) :
    Continuation :=
  match b.kind with
  | .document | .list _ _ => .goesOn c
  | .quote =>
    if c.indent < codeIndent && c.text.head? == some '>' then
      .goesOn ((c.skipIndent.skipChars 1).skipBlanks 1)
    else .stops
  | .item width =>
    if c.indent ≥ width then .goesOn (c.skipColumns width)
    else if c.isBlank && holds then .goesOn c.skipIndent
    else .stops
  | .footnote _ =>
    if c.indent ≥ codeIndent then .goesOn (c.skipColumns codeIndent)
    else if line.body.isEmpty && line.ending != ['\r'] then .goesOn c
    else .stops
  | .indentedCode =>
    if c.indent ≥ codeIndent then .goesOn (c.skipColumns codeIndent)
    else if c.isBlank then .goesOn c.skipIndent
    else .stops
  | .fencedCode fence =>
    if c.indent < codeIndent && fenceLength fence.char c.text ≥ fence.length then .closingFence
    else .goesOn (c.skipBlanks fence.offset)
  | .html .blankLine | .paragraph _ => if c.isBlank then .stops else .goesOn c
  | .html _ => .goesOn c
  | .table _ _ _ =>
    if (rowOf? (c.text ++ (Line.mk [] line.ending).terminated)).isSome then .goesOn c else .stops
  | .heading _ | .rule => .stops

/-- A line after its blocks are matched. -/
structure Matched where
  /-- The number of innermost blocks that the line does not continue. -/
  pending : Nat
  /-- The place behind the markers of the others. -/
  cursor : Cursor
  /-- The line is the closing fence of the innermost block. -/
  closesFence : Bool
deriving DecidableEq, Repr

/-- **Match a line** against open blocks, given from the innermost one out. `holds` says that there
is a block inside the first of them. -/
def matchBlocks (line : Line) : Bool → List OpenBlock → Matched
  | _, [] => ⟨0, ⟨0, 0, line.body⟩, false⟩
  | holds, b :: outer =>
    let m := matchBlocks line true outer
    if m.pending > 0 then { m with pending := m.pending + 1 }
    else
      match b.continuedBy (holds || !b.closed.isEmpty) line m.cursor with
      | .goesOn cursor => { m with cursor }
      | .stops => { m with pending := 1 }
      | .closingFence => { m with closesFence := true }

/-! ## Starting blocks -/

/-- A line between its markers and its text. -/
structure Place where
  /-- The open blocks. -/
  path : Path
  /-- The number of innermost blocks that the line does not continue. They are closed as soon as
  something new begins. -/
  pending : Nat
  /-- The place in the line. -/
  cursor : Cursor
  /-- Nothing is left of the line, because it became a row of a table. -/
  consumed : Bool := false
deriving DecidableEq, Repr

namespace Place

/-- The innermost block that the line continues or begins. -/
def block? (p : Place) : Option OpenBlock :=
  p.path.blocks[p.pending]?

/-- Its kind. -/
def kind (p : Place) : OpenKind :=
  (p.block?.map (·.kind)).getD .document

/-- Begin a block, and go on behind its marker. -/
def begin (p : Place) (line : Nat) (kind : OpenKind) (cursor : Cursor) : Place :=
  { p with path := (p.path.closeMany p.pending).push kind line, pending := 0, cursor }

/-- A quotation begins with `>`. -/
def quote? (p : Place) (line : Nat) : Option Place :=
  if p.cursor.text.head? == some '>' then
    some (p.begin line .quote ((p.cursor.skipIndent.skipChars 1).skipBlanks 1))
  else none

/-- A heading begins with one to six number signs. -/
def heading? (p : Place) (line : Nat) : Option Place :=
  let cs := p.cursor.text
  let level := (cs.takeWhile (· == '#')).length
  let rest := cs.drop level
  if 1 ≤ level ∧ level ≤ 6 ∧ (rest.head?.all isSpaceOrTab) then
    some (p.begin line (.heading level) (p.cursor.skipIndent.skipChars level).skipIndent)
  else none

/-- Fenced code begins with three or more backticks or tildes. No backtick may follow backticks. -/
def fence? (p : Place) (line : Nat) : Option Place :=
  let cs := p.cursor.text
  match cs with
  | c :: _ =>
    let n := (cs.takeWhile (· == c)).length
    if (c = '~' ∨ (c = '\x60' ∧ !(cs.drop n).contains '\x60')) ∧ n ≥ 3 then
      let blanks := (p.cursor.rest.takeWhile isSpaceOrTab).length
      let offset := blanks + if p.cursor.owed > 0 then 1 else 0
      some (p.begin line (.fencedCode ⟨c, n, offset⟩) (p.cursor.skipIndent.skipChars n))
    else none
  | [] => none

/-- Raw HTML begins with a tag or a comment. -/
def html? (p : Place) (line : Nat) : Option Place :=
  (blockStart? (!p.kind.isParagraph) p.cursor.text).map fun stop =>
    p.begin line (.html stop) p.cursor

/-- The level of the heading that a line below a paragraph makes of it. -/
def underline? (cs : List Char) : Option Nat :=
  match cs with
  | c :: _ =>
    if fenceLength c cs = 0 then none
    else if c = '=' then some 1
    else if c = '-' then some 2
    else none
  | [] => none

/-- A paragraph becomes a heading when it is underlined, unless it holds only definitions. -/
def underlined? (p : Place) : Option Place :=
  match p.block?, p.kind, underline? p.cursor.text with
  | some b, .paragraph _, some level =>
    let (refs, rest) := takeDefinitions p.path.refs b.text
    let path := { p.path with refs }
    if OpenBlock.isBlankText rest then
      some { p with path := path.modify p.pending fun b => { b with pieces := [rest] } }
    else
      some { p with
        path := path.modify p.pending fun b => { b with kind := .heading level, pieces := [rest] }
        cursor := p.cursor.toEnd }
  | _, _, _ => none

/-- The line is a thematic break: three or more of one mark, with blanks between them. -/
def isRule (cs : List Char) : Bool :=
  match cs with
  | c :: _ =>
    (c == '*' || c == '-' || c == '_') && cs.all (fun x => x == c || isSpaceOrTab x) &&
      cs.count c ≥ 3
  | [] => false

/-- A thematic break. -/
def rule? (p : Place) (line : Nat) : Option Place :=
  if isRule p.cursor.text then some (p.begin line .rule p.cursor.toEnd) else none

/-- A footnote begins with its label. -/
def footnote? (p : Place) (line : Nat) : Option Place :=
  match p.cursor.text with
  | '[' :: '^' :: rest =>
    let label := rest.takeWhile fun c => !(c == ']' || c == '\t' || c == ' ')
    match rest.drop label.length with
    | ']' :: ':' :: _ =>
      if label.isEmpty then none
      else
        let cursor := (p.cursor.skipIndent.skipChars (label.length + 4)).skipIndent
        some (p.begin line (.footnote (String.ofList label)) cursor)
    | _ => none
  | _ => none

/-- The marker of a list item: the mark, the number, the length of the marker and the text behind
it. -/
def marker? (cs : List Char) : Option (ListMark × Nat × Nat × List Char) :=
  match cs with
  | [] => none
  | c :: rest =>
    if c = '*' ∨ c = '-' ∨ c = '+' then some (.bullet c, 1, 1, rest)
    else
      let digits := (cs.takeWhile Text.isAsciiDigit).take 9
      match digits, cs.drop digits.length with
      | _ :: _, d :: rest =>
        if d = '.' ∨ d = ')' then
          let start := digits.foldl (fun n c => 10 * n + Text.hexValue c) 0
          some (.number d, start, digits.length + 1, rest)
        else none
      | _, _ => none

/-- An item begins with a bullet or a number. It interrupts a paragraph only if it is not empty and,
if it is numbered, its number is one. -/
def item? (p : Place) (line : Nat) : Option Place :=
  match marker? p.cursor.text with
  | none => none
  | some (mark, start, length, rest) =>
    if !rest.head?.all isSpace then none
    else if p.kind.isParagraph && (start != 1 || (skipBlanks rest).isEmpty) then none
    else
      let behind := p.cursor.skipIndent.skipChars length
      let content := behind.skipBlanks 6
      let blanks := content.column - behind.column
      let empty := content.owed == 0 && content.rest.isEmpty
      let wide := blanks = 0 ∨ blanks ≥ 5 ∨ empty
      let padding := if wide then 1 else blanks
      let cursor := if wide then behind.skipBlanks 1 else content
      let p :=
        match p.kind with
        | .list mark' _ => if mark' = mark then p else p.begin line (.list mark start) p.cursor
        | _ => p.begin line (.list mark start) p.cursor
      some (p.begin line (.item (p.cursor.indent + length + padding)) cursor)

/-- Indented code begins where no paragraph can be continued. -/
def indented? (p : Place) (line : Nat) (lazy : Bool) : Option Place :=
  if lazy || p.cursor.isBlank then none
  else some (p.begin line .indentedCode (p.cursor.skipColumns codeIndent))

/-- The table whose head is the last line of the text of a paragraph and whose second row is `body`:
the text above it, the alignments and the head. -/
def tableHead? (text body : List Char) : Option (List Char × List Alignment × List (List Char)) :=
  match rowOf? (body ++ ['\n']), rowOf? text with
  | some delimiters, some head =>
    if delimiters.cells.length = head.cells.length then
      some (head.above, delimiters.cells.map Alignment.ofCell, head.cells)
    else none
  | _, _ => none

/-- A table begins when its second row follows its head, which is the last line of a paragraph; the
lines above remain a paragraph. Further rows are added to a table that is open. -/
def table? (p : Place) (line : Line) : Option Place :=
  match p.block?, p.kind with
  | some b, .paragraph false =>
    if line.ending == ['\r'] || !isDelimiterRow p.cursor.text then none
    else
      match tableHead? b.text p.cursor.text with
      | none =>
        some { p with
          path := p.path.modify p.pending fun b => { b with kind := .paragraph true } }
      | some (above, alignments, head) =>
        let table : OpenBlock := ⟨.table alignments head [], b.firstLine, [], [], false⟩
        let path := p.path.modify p.pending fun _ => table
        let paragraph : ClosedBlock :=
          ⟨.leaf (.paragraph (trimBoth (dropBarEscapes above))) .nil, false, false⟩
        let path :=
          if above.isEmpty then path
          else path.modify (p.pending + 1) (·.take (some paragraph))
        some { p with path, cursor := p.cursor.toEnd }
  | some _, .table alignments head rows =>
    if p.cursor.isBlank then none
    else
      match rowOf? (p.cursor.text ++ (Line.mk [] line.ending).terminated) with
      | none => none
      | some row =>
        let kind := .table alignments head (fitCells alignments row.cells :: rows)
        some { p with
          path := (p.path.closeMany p.pending).modify 0 fun b => { b with kind }
          pending := 0
          cursor := p.cursor.toEnd
          consumed := true }
  | _, _ => none

/-- **The block that begins** at a place. `number` is the number of the line and `starts` counts the
blocks that it has begun; `lazy` says that it may still continue an open paragraph. -/
def start? (p : Place) (line : Line) (number starts : Nat) (lazy : Bool) : Option Place :=
  if p.cursor.indent ≥ codeIndent then p.indented? number lazy
  else
    (p.quote? number)
    <|> (p.heading? number)
    <|> (p.fence? number)
    <|> (p.html? number)
    <|> p.underlined?
    <|> (p.rule? number)
    <|> (if starts < maxStarts then p.footnote? number <|> p.item? number else none)
    <|> (p.table? line)

/-- Begin all blocks that begin on a line; `fuel` bounds their number. -/
def startAll (line : Line) (number : Nat) : Nat → Nat → Bool → Place → Place
  | 0, _, _, p => p
  | fuel + 1, starts, lazy, p =>
    if p.kind.isVerbatim then p
    else
      match p.start? line number (starts + 1) lazy with
      | none => p
      | some p =>
        if p.consumed || p.kind.takesLines then p
        else startAll line number fuel (starts + 1) false p

/-! ## Text -/

/-- A blank line counts as the last line of a block of this kind. -/
def marksBlank (b : OpenBlock) (holds : Bool) (number : Nat) : Bool :=
  match b.kind with
  | .quote | .heading _ | .rule | .fencedCode _ => false
  | .item _ => holds || !b.closed.isEmpty || b.firstLine != number
  | _ => true

/-- Note whether the line is blank, in the innermost block and in what comes last inside it. -/
def noteBlank (p : Place) (number : Nat) : Place :=
  let blank := p.cursor.isBlank && !p.consumed
  let path := p.path
  let path :=
    if !blank then path
    else if p.pending > 0 then path.modify (p.pending - 1) fun b => { b with lastBlank := true }
    else
      path.modify p.pending fun b =>
        match b.closed with
        | c :: cs => { b with closed := { c with endsBlank := true } :: cs }
        | [] => b
  let path :=
    path.modify p.pending fun b =>
      { b with lastBlank := blank && marksBlank b (p.pending > 0) number }
  let inner := path.blocks.take (p.pending + 1)
  let outer := (path.blocks.drop (p.pending + 1)).map fun b => { b with lastBlank := false }
  { p with path := { path with blocks := inner ++ outer } }

/-- The text of a heading without the number signs that close it. -/
def withoutClosingSigns (cs : List Char) : List Char :=
  let cs := trimRight cs
  let back := cs.reverse.dropWhile (· == '#')
  match back with
  | [] => []
  | c :: _ => if back.length < cs.length && isSpaceOrTab c then trimRight back.reverse else cs

/-- Add text to the innermost block. -/
def addText (p : Place) (cs : List Char) : Path :=
  p.path.modify 0 (·.addText cs)

/-- **Settle** the rest of the line. Where blocks are still to be closed the line has begun none,
and it may continue an open paragraph. -/
def settle (p : Place) (line : Line) (number : Nat) : Path :=
  let p := p.noteBlank number
  let blank := p.cursor.isBlank
  let inParagraph := p.path.blocks.head?.any (·.kind.isParagraph)
  if p.pending > 0 && !blank && inParagraph then
    p.addText (p.cursor.content ++ line.ending)
  else
    let p := { p with path := p.path.closeMany p.pending, pending := 0 }
    match p.kind with
    | .indentedCode | .fencedCode _ => p.addText (p.cursor.content ++ line.ending)
    | .html stop =>
      let path := p.addText (p.cursor.content ++ line.ending)
      if stop.isMetBy p.cursor.text then path.closeTop else path
    | kind =>
      if blank || p.consumed then p.path
      else
        match kind with
        | .heading _ => p.addText (withoutClosingSigns p.cursor.text)
        | .paragraph _ => p.addText (p.cursor.text ++ line.ending)
        | _ =>
          (p.begin number (.paragraph false) p.cursor).addText (p.cursor.text ++ line.ending)

end Place

/-! ## The document -/

/-- **Read a line.** -/
def Path.readLine (path : Path) (number : Nat) (line : Line) : Path :=
  let m := matchBlocks line false path.blocks
  if m.closesFence then path.closeTop
  else
    let lazy := path.blocks.head?.any (·.kind.isParagraph)
    let place : Place := ⟨path, m.pending, m.cursor, false⟩
    (place.startAll line number (line.body.length + 2) 0 lazy).settle line number

/-- Read lines, of which the first has the given number. -/
def Path.readLines (path : Path) (number : Nat) : List Line → Path
  | [] => path
  | line :: lines => (path.readLine number line).readLines (number + 1) lines

/-- **The blocks of a document**, and the targets of its labels. -/
def blocksOf (source : List Char) : References × RawBlocks :=
  ((Path.mk [] [⟨.document, 0, [], [], false⟩]).readLines 1 (linesOf source)).finish

end ArticleMarkup.Markdown
