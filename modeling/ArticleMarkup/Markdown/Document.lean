import ArticleMarkup.Markdown.Blocks.Reader
import ArticleMarkup.Markdown.Footnotes
import ArticleMarkup.Markdown.Inlines.Reader

/-!
# Markdown documents

The reading of a document: first all blocks, then the texts inside them, then what depends on the
whole, namely footnotes, check boxes and mail addresses.

## Main definitions

- `checkBox?` — a check box at the front of a text
- `Blocks.tickItems` — the list items that begin with one
- `document` — the blocks of a source text
- `exceedsDepth?` — the first depth above a limit
-/

namespace ArticleMarkup.Markdown

/-- **A check box** at the front of a text, and the text behind it: brackets with a space or an `x`
between them, and white space or the end of the text behind them. -/
def checkBox? (cs : List Char) : Option (CheckBox × List Char) :=
  match cs.dropWhile isSpace with
  | '[' :: mark :: ']' :: rest =>
    let box :=
      if mark = ' ' then some CheckBox.empty
      else if mark = 'x' ∨ mark = 'X' then some CheckBox.ticked
      else none
    match rest with
    | [] => box.map (·, [])
    | c :: rest => if isSpace c then box.map (·, rest) else none
  | _ => none

/-- The item with this content, whose first paragraph loses the check box at its front. -/
def tickedItem (content rest : Blocks Inlines) : Blocks Inlines :=
  let plain := Blocks.container (.item .none) content rest
  match content with
  | .leaf (.paragraph (.leaf (.text s) more)) blocks =>
    match checkBox? s.toList with
    | some (box, behind) =>
      let text := if behind.isEmpty then more else .leaf (.text (String.ofList behind)) more
      .container (.item box) (.leaf (.paragraph text) blocks) rest
    | none => plain
  | _ => plain

/-- Find the check boxes of all list items. -/
def Blocks.tickItems : Blocks Inlines → Blocks Inlines
  | nil => nil
  | leaf l rest => leaf l rest.tickItems
  | container k cs rest =>
    match k with
    | .item _ => tickedItem cs.tickItems rest.tickItems
    | k => container k cs.tickItems rest.tickItems

/-- **The document** that a source text describes. -/
def document (source : String) : Blocks Inlines :=
  let (refs, blocks) := blocksOf source.toList
  let read := (blocks.map (inlinesOf refs)).placeNotes
  ((read.map Inlines.mergeTexts).tickItems).map Inlines.linkMail

/-- A depth above the limit at which some node lies; the document itself has depth zero. -/
def exceedsDepth? (limit : Nat) (doc : Blocks Inlines) : Option Nat :=
  Shape.tooDeep? limit [(0, .node doc.shape .nil)]

end ArticleMarkup.Markdown
