import ArticleMarkup.Markdown.Blocks

/-!
# Footnotes

A mark refers to a footnote by its label. The footnotes that marks refer to move to the end of the
document, numbered in the order of their first marks; the others go. Of two footnotes with one label
the later one counts, and the earlier one is left where it stands.

## Main definitions

- `NoteMarks.mark` — the number of one mark
- `Blocks.numberMarks` — the numbers of all marks; a mark without a footnote becomes text
- `Blocks.takeNotes` — the footnotes that count, taken out of the document
- `Blocks.placeNotes` — the document with its footnotes at the end
-/

namespace ArticleMarkup.Markdown

/-- A footnote. -/
structure Note where
  /-- The folded label. -/
  key : String
  /-- The label. -/
  label : String
  /-- The blocks. -/
  content : Blocks Inlines

/-- The marks that are numbered so far. -/
structure NoteMarks where
  /-- The labels of the footnotes, by their folded forms. -/
  labels : Table String
  /-- The folded labels that are referred to, in the order of their first marks, with the number of
  marks. -/
  used : List (String × Nat) := []
deriving DecidableEq, Repr

/-- Count one more use of a key: its number, its uses and the new counts. -/
def countUse (key : String) : List (String × Nat) → Nat × Nat × List (String × Nat)
  | [] => (1, 1, [(key, 1)])
  | (k, n) :: used =>
    if k = key then (1, n + 1, (k, n + 1) :: used)
    else
      let (number, uses, used) := countUse key used
      (number + 1, uses, (k, n) :: used)

/-- **Number a mark.** A mark without a footnote is text. -/
def NoteMarks.mark (m : NoteMarks) (label : String) : Leaf × NoteMarks :=
  let key := foldLabel label.toList
  match m.labels.find? key with
  | none => (.text ("[^" ++ label ++ "]"), m)
  | some own =>
    let (number, uses, used) := countUse key m.used
    (.noteLink own number uses, { m with used })

/-- Number the marks of inline content. -/
def Inlines.numberMarks (m : NoteMarks) : Inlines → Inlines × NoteMarks
  | nil => (nil, m)
  | leaf l rest =>
    let (l, m) :=
      match l with
      | .noteMark label => m.mark label
      | l => (l, m)
    let (rest, m) := rest.numberMarks m
    (leaf l rest, m)
  | span k cs rest =>
    let (cs, m) := cs.numberMarks m
    let (rest, m) := rest.numberMarks m
    (span k cs rest, m)

/-- Number the marks of the cells of a row. -/
def numberCells (m : NoteMarks) : List Inlines → List Inlines × NoteMarks
  | [] => ([], m)
  | c :: cs =>
    let (c, m) := c.numberMarks m
    let (cs, m) := numberCells m cs
    (c :: cs, m)

/-- Number the marks of rows. -/
def numberRows (m : NoteMarks) : List (List Inlines) → List (List Inlines) × NoteMarks
  | [] => ([], m)
  | r :: rs =>
    let (r, m) := numberCells m r
    let (rs, m) := numberRows m rs
    (r :: rs, m)

/-- Number the marks of a block. -/
def LeafBlock.numberMarks (m : NoteMarks) : LeafBlock Inlines → LeafBlock Inlines × NoteMarks
  | paragraph c =>
    let (c, m) := c.numberMarks m
    (paragraph c, m)
  | heading n c =>
    let (c, m) := c.numberMarks m
    (heading n c, m)
  | table as head rows =>
    let (head, m) := numberCells m head
    let (rows, m) := numberRows m rows
    (table as head rows, m)
  | b => (b, m)

namespace Blocks

/-- **Number all marks** in the order of the document. -/
def numberMarks (m : NoteMarks) : Blocks Inlines → Blocks Inlines × NoteMarks
  | nil => (nil, m)
  | leaf l rest =>
    let (l, m) := l.numberMarks m
    let (rest, m) := rest.numberMarks m
    (leaf l rest, m)
  | container k cs rest =>
    let (cs, m) := cs.numberMarks m
    let (rest, m) := rest.numberMarks m
    (container k cs rest, m)

/-- **Take the footnotes** out of the document, except those inside another footnote. `later` holds
the footnotes that come behind; they count before these. -/
def takeNotes (later : List Note) : Blocks Inlines → Blocks Inlines × List Note
  | nil => (nil, later)
  | leaf l rest =>
    let (rest, notes) := rest.takeNotes later
    (leaf l rest, notes)
  | container k cs rest =>
    let (rest, notes) := rest.takeNotes later
    match k with
    | .footnote label _ =>
      let key := foldLabel label.toList
      if notes.any (·.key == key) then (container k cs rest, notes)
      else (rest, ⟨key, String.ofList (plainLabel label.toList), cs⟩ :: notes)
    | k =>
      let (cs, notes) := cs.takeNotes notes
      (container k cs rest, notes)

/-- The footnotes that are referred to, in the order of their numbers. -/
def usedNotes (notes : List Note) : List (String × Nat) → Blocks Inlines
  | [] => nil
  | (key, uses) :: used =>
    match notes.find? (·.key == key) with
    | some note => container (.footnote note.label uses) note.content (usedNotes notes used)
    | none => usedNotes notes used

/-- **Place the footnotes** at the end of the document. -/
def placeNotes (doc : Blocks Inlines) : Blocks Inlines :=
  let labels := Table.ofList ((doc.takeNotes []).2.map fun n => (n.key, n.label))
  let (numbered, marks) := doc.numberMarks ⟨labels, []⟩
  let (rest, notes) := numbered.takeNotes []
  rest ++ usedNotes notes marks.used

end Blocks

end ArticleMarkup.Markdown
