import ArticleMarkup.Markdown.Table

/-!
# Open blocks

While a document is read, the blocks that the next line may still continue are open. They form a
path from the innermost one out to the document; each holds the blocks inside it that are already
closed and the text that it has taken up.

## Main definitions

- `OpenKind`, `OpenBlock` — a block that is open
- `OpenBlock.close` — the finished block
- `closeTop`, `closeMany` — close blocks from the innermost on
- `push` — open a block inside the innermost one that can hold it

## Design notes

A list is loose if some blank line separates two of its items, or two blocks directly inside an
item. A closed block therefore remembers whether a blank line ends it and whether one separates two
of its parts.
-/

namespace ArticleMarkup.Markdown

/-- The fence of a code block. -/
structure Fence where
  /-- The mark. -/
  char : Char
  /-- The number of marks. -/
  length : Nat
  /-- The blanks in front of it, which are left out of the lines of code too. -/
  offset : Nat
deriving DecidableEq, Repr

/-- The kinds of open block. -/
inductive OpenKind where
  /-- The document. -/
  | document
  /-- A quotation. -/
  | quote
  /-- A list with the number of its first item. -/
  | list (mark : ListMark) (start : Nat)
  /-- An item whose content stands at this many columns. -/
  | item (width : Nat)
  /-- A footnote. -/
  | footnote (label : String)
  /-- A paragraph; `refused` says that it is known not to be the head of a table. -/
  | paragraph (refused : Bool)
  /-- A heading. -/
  | heading (level : Nat)
  /-- Code that is indented. -/
  | indentedCode
  /-- Code between fences. -/
  | fencedCode (fence : Fence)
  /-- Raw HTML. -/
  | html (stop : BlockEnd)
  /-- A thematic break. -/
  | rule
  /-- A table with its rows, the last first. -/
  | table (alignments : List Alignment) (head : List (List Char)) (rows : List (List (List Char)))
deriving DecidableEq, Repr

namespace OpenKind

/-- The block takes up lines of text. -/
def takesLines : OpenKind → Bool
  | paragraph _ | heading _ | indentedCode | fencedCode _ => true
  | _ => false

/-- The block is code or raw HTML, in which nothing else begins. -/
def isVerbatim : OpenKind → Bool
  | indentedCode | fencedCode _ | html _ => true
  | _ => false

/-- The block is a paragraph. -/
def isParagraph : OpenKind → Bool
  | paragraph _ => true
  | _ => false

/-- The block is an item of a list. -/
def isItem : OpenKind → Bool
  | item _ => true
  | _ => false

/-- A block of the one kind can hold one of the other. -/
def holds : OpenKind → OpenKind → Bool
  | document, inner | quote, inner | item _, inner | footnote _, inner => !inner.isItem
  | list _ _, inner => inner.isItem
  | _, _ => false

end OpenKind

/-- The blocks of a document whose texts are not read yet. -/
abbrev RawBlocks := Blocks (List Char)

/-- A block that is closed. -/
structure ClosedBlock where
  /-- The block, by itself. -/
  block : RawBlocks
  /-- A blank line comes at the end of it. -/
  endsBlank : Bool
  /-- A blank line separates two of its parts. -/
  hasGap : Bool
deriving DecidableEq, Repr

/-- A block that is open. -/
structure OpenBlock where
  /-- The kind. -/
  kind : OpenKind
  /-- The number of the line that began it. -/
  firstLine : Nat
  /-- The closed blocks inside it, the last first. -/
  closed : List ClosedBlock := []
  /-- The text that it has taken up, the last piece first. -/
  pieces : List (List Char) := []
  /-- Its last line is blank. -/
  lastBlank : Bool := false
deriving DecidableEq, Repr

namespace OpenBlock

/-- The text of a block. -/
def text (b : OpenBlock) : List Char :=
  b.pieces.reverse.flatten

/-- Take up more text. -/
def addText (b : OpenBlock) (cs : List Char) : OpenBlock :=
  { b with pieces := cs :: b.pieces }

/-- The blocks inside. -/
def content (b : OpenBlock) : RawBlocks :=
  b.closed.foldl (fun rest c => c.block ++ rest) .nil

/-- Take up a closed block. -/
def take (b : OpenBlock) (c : Option ClosedBlock) : OpenBlock :=
  match c with
  | some c => { b with closed := c :: b.closed }
  | none => b

/-- A list is tight if no item but the last ends with a blank line, and none has a gap. -/
def isTight (b : OpenBlock) : Bool :=
  match b.closed with
  | [] => true
  | last :: items => !last.hasGap && items.all fun i => !(i.hasGap || i.endsBlank)

/-- The lines of indented code without the blank ones at the end. -/
def withoutBlankEnd (cs : List Char) : List Char :=
  let isEnd (c : Char) : Bool := c == '\n' || c == '\r'
  let kept := (cs.reverse.dropWhile fun c => isSpaceOrTab c || isEnd c).length
  cs.take kept ++ (cs.drop kept).takeWhile (!isEnd ·)

/-- The words behind a fence, and the lines of code. -/
def splitFenced (cs : List Char) : List Char × List Char :=
  let info := cs.takeWhile fun c => c != '\n' && c != '\r'
  let rest := cs.drop info.length
  (info, (lineEnd? rest).getD rest)

/-- No text is left on the first line. -/
def isBlankText (cs : List Char) : Bool :=
  match skipBlanks cs with
  | [] | '\n' :: _ | '\r' :: _ => true
  | _ => false

/-- **Close** a block. The definitions at the front of a paragraph are taken out of it, and a
paragraph that holds nothing else disappears. -/
def close (refs : References) (b : OpenBlock) : References × Option ClosedBlock :=
  let leaf (l : LeafBlock (List Char)) : References × Option ClosedBlock :=
    (refs, some ⟨.leaf l .nil, b.lastBlank, false⟩)
  let container (k : Container) (nests : Bool) : References × Option ClosedBlock :=
    let lastEnds := (b.closed.head?.map (·.endsBlank)).getD false
    (refs, some ⟨.container k b.content .nil, b.lastBlank || (nests && lastEnds),
      (b.closed.drop 1).any (·.endsBlank)⟩)
  match b.kind with
  | .document => (refs, none)
  | .quote => container .quote false
  | .list mark start => container (.list mark start b.isTight) true
  | .item _ => container (.item .none) true
  | .footnote label => container (.footnote label 0) false
  | .paragraph _ =>
    let (refs, rest) := takeDefinitions refs b.text
    if isBlankText rest then (refs, none)
    else (refs, some ⟨.leaf (.paragraph rest) .nil, b.lastBlank, false⟩)
  | .heading level => leaf (.heading level b.text)
  | .indentedCode => leaf (.code "" (String.ofList (withoutBlankEnd b.text ++ ['\n'])))
  | .fencedCode _ =>
    let (info, literal) := splitFenced b.text
    leaf (.code (cleanInfo info) (String.ofList literal))
  | .html _ => leaf (.html (String.ofList b.text))
  | .rule => leaf .rule
  | .table as head rows => leaf (.table as head rows.reverse)

end OpenBlock

/-! ## The path of open blocks -/

/-- The definitions found so far, and the open blocks from the innermost one out. -/
structure Path where
  /-- The targets of labels. -/
  refs : References := []
  /-- The open blocks. -/
  blocks : List OpenBlock
deriving DecidableEq, Repr

namespace Path

/-- Close the innermost block. The document stays open. -/
def closeTop (p : Path) : Path :=
  match p.blocks with
  | b :: parent :: outer =>
    let (refs, closed) := b.close p.refs
    ⟨refs, parent.take closed :: outer⟩
  | _ => p

/-- Close blocks from the innermost one on. -/
def closeMany (p : Path) : Nat → Path
  | 0 => p
  | n + 1 => p.closeTop.closeMany n

/-- The innermost block can hold one of this kind. -/
def holds (p : Path) (kind : OpenKind) : Bool :=
  p.blocks.head?.any (·.kind.holds kind)

/-- Close blocks until one can hold a block of this kind; `fuel` bounds their number. -/
def closeUntilHolds (kind : OpenKind) : Nat → Path → Path
  | 0, p => p
  | fuel + 1, p => if p.holds kind then p else closeUntilHolds kind fuel p.closeTop

/-- **Open a block**, after closing the blocks that cannot hold it. -/
def push (p : Path) (kind : OpenKind) (line : Nat) : Path :=
  let p := closeUntilHolds kind p.blocks.length p
  { p with blocks := ⟨kind, line, [], [], false⟩ :: p.blocks }

/-- Change the block that has `n` open blocks inside it. -/
def modify (p : Path) (n : Nat) (f : OpenBlock → OpenBlock) : Path :=
  { p with blocks := p.blocks.modify n f }

/-- The blocks of the document, once all are closed. -/
def finish (p : Path) : References × RawBlocks :=
  let p := p.closeMany p.blocks.length
  (p.refs, (p.blocks.head?.map (·.content)).getD .nil)

end Path

end ArticleMarkup.Markdown
