import ArticleMarkup.Html.Stack

/-!
# The tree builder

The state of tree construction and the operations that the rules are made of: inserting nodes,
closing elements, and keeping the list of formatting elements.

## Main definitions

- `Builder` — the state
- `Builder.place` — where the next node goes, with foster parenting around tables
- `Builder.open` — insert an element and put it on the stack
- `Builder.reopenFormatting` — open again the formatting elements that were closed from outside
- `Builder.adopt` — the end tag of a formatting element, in the midst of other elements
-/

namespace ArticleMarkup.Html

/-- The insertion modes that occur within a body. -/
inductive Mode where
  /-- Flow content. -/
  | body
  /-- Raw text up to its end tag. -/
  | text
  /-- Directly in a table. -/
  | table
  /-- Characters directly in a table. -/
  | tableText
  /-- In a caption. -/
  | caption
  /-- In a group of columns. -/
  | columnGroup
  /-- In a group of rows. -/
  | tableBody
  /-- In a row. -/
  | row
  /-- In a cell. -/
  | cell
  /-- In a selection. -/
  | select
  /-- In a selection within a table. -/
  | selectInTable
  /-- In a template whose content has not shown its kind. -/
  | template
deriving DecidableEq, Repr, Inhabited

/-- The state of tree construction. The root, which encloses everything, is not on the stack. -/
structure Builder where
  /-- The children of the root. -/
  dom : Dom := .nil
  /-- The number of the next element. The root has number zero. -/
  next : Nat := 1
  /-- The open elements, the newest first. -/
  stack : List OpenElement := []
  /-- The formatting elements, the newest first. -/
  marks : List Mark := []
  /-- The insertion mode. -/
  mode : Mode := .body
  /-- The mode to go back to after raw text or table text. -/
  returnMode : Mode := .body
  /-- The modes of the open templates, the innermost first. -/
  templateModes : List Mode := []
  /-- The form that is open. -/
  form : Option Nat := none
  /-- Nodes that do not belong into a table go in front of it. -/
  fostering : Bool := false
  /-- The characters of the current table text, the last one first. -/
  tableText : List Char := []
  /-- A line feed at the start of the content is left out. -/
  skipNewline : Bool := false
  /-- How the scanner reads the text after the current tag. -/
  wanted : Content := .markup
deriving DecidableEq, Repr, Inhabited

/-- Where a node goes. -/
inductive Place where
  /-- After the last child of the element. -/
  | inside (id : Nat)
  /-- In front of the element. -/
  | before (id : Nat)
deriving DecidableEq, Repr

namespace Builder

/-- The newest open element is an HTML element with the name. -/
def currentIs (b : Builder) (name : String) : Bool :=
  match b.stack with
  | e :: _ => e.isHtml name
  | [] => false

/-- An HTML element with the name is open. -/
def hasOpen (b : Builder) (name : String) : Bool :=
  b.stack.any (·.isHtml name)

/-- An HTML element with the name is open within the usual scope. -/
def scope (b : Builder) (name : String) : Bool :=
  inScope OpenElement.endsScope (·.isHtml name) b.stack

/-- An HTML element with the name is open within the scope of table parts. -/
def tableScope (b : Builder) (name : String) : Bool :=
  inScope OpenElement.endsTableScope (·.isHtml name) b.stack

/-! ## Inserting nodes -/

/-- The innermost table, or template within it, decides where a fostered node goes. -/
def fosterPlace : List OpenElement → Place
  | [] => .inside 0
  | e :: rest =>
    if e.isHtml "template" then .inside e.id
    else if e.isHtml "table" then .before e.id
    else fosterPlace rest

/-- **Where a node goes** whose parent would be `parent`. -/
def placeIn (b : Builder) (parent : Option OpenElement) : Place :=
  match parent with
  | none => .inside 0
  | some e =>
    if b.fostering && e.isHtmlIn ["table", "tbody", "tfoot", "thead", "tr"] then
      fosterPlace b.stack
    else .inside e.id

/-- Where the next node goes. -/
def place (b : Builder) : Place :=
  b.placeIn b.stack.head?

/-- Change the nodes after which a place comes. -/
def changeAt (dom : Dom) (place : Place) (f : Dom → Dom) : Dom :=
  match place with
  | .inside 0 => f dom
  | .inside id => (dom.within? id f).getD dom
  | .before id => (dom.besideOlder? id f).getD dom

/-- Insert a character. -/
def insertChar (b : Builder) (c : Char) : Builder :=
  { b with dom := changeAt b.dom b.place (Dom.pushChar c) }

/-- Insert a node without content. -/
def insertOther (b : Builder) : Builder :=
  { b with dom := changeAt b.dom (.inside ((b.stack.head?.map (·.id)).getD 0)) .other }

/-- Insert an element without opening it. -/
def insertElement (b : Builder) (space : Space) (tag : Tag) : Builder :=
  { b with
    dom := changeAt b.dom b.place (.element b.next space (space.nodeTag tag) .nil)
    next := b.next + 1 }

/-- The tag marks an annotation in mathematical markup whose content is HTML. -/
def annotationHoldsHtml (space : Space) (tag : Tag) : Bool :=
  space == .math && tag.name == "annotation-xml" &&
    tag.attrs.any fun a => a.name == "encoding" &&
      (Text.sameIgnoringCase a.value "text/html" ||
        Text.sameIgnoringCase a.value "application/xhtml+xml")

/-- **Insert an element and open it.** -/
def openIn (b : Builder) (space : Space) (tag : Tag) : Builder :=
  let e : OpenElement := ⟨b.next, space, tag.name, annotationHoldsHtml space tag⟩
  let b := b.insertElement space tag
  { b with stack := e :: b.stack }

/-- Insert an HTML element and open it. -/
def «open» (b : Builder) (tag : Tag) : Builder :=
  b.openIn .html tag

/-- Insert an HTML element whose content is raw text, and read that. -/
def openRaw (b : Builder) (tag : Tag) (content : Content) : Builder :=
  { b.open tag with mode := .text, returnMode := b.mode, wanted := content }

/-! ## Closing elements -/

/-- Close the newest element. -/
def pop (b : Builder) : Builder :=
  { b with stack := b.stack.tail }

/-- Close elements through the newest one with the name. -/
def close (b : Builder) (name : String) : Builder :=
  { b with stack := popThrough (·.isHtml name) b.stack }

/-- Close elements until the newest one has one of the names. -/
def closeTo (b : Builder) (names : List String) : Builder :=
  { b with stack := popTo (·.isHtmlIn names) b.stack }

/-- Close the newest elements whose end tags are implied, except those with the name. -/
def impliedExcept (b : Builder) (name : String) : Builder :=
  { b with stack := popImplied (impliedEnds.filter (· != name)) b.stack }

/-- Close the newest elements whose end tags are implied. -/
def implied (b : Builder) : Builder :=
  { b with stack := popImplied impliedEnds b.stack }

/-- Close the paragraph that is open, with everything in it. -/
def closeParagraph (b : Builder) : Builder :=
  (b.impliedExcept "p").close "p"

/-- Close a paragraph if one is open in its scope. -/
def endParagraph (b : Builder) : Builder :=
  if inScope OpenElement.endsButtonScope (·.isHtml "p") b.stack then b.closeParagraph else b

/-- Forget the formatting elements since the newest border. -/
def clearMarks (b : Builder) : Builder :=
  { b with marks := Mark.clearToBorder b.marks }

/-- Put a border on the list of formatting elements. -/
def border (b : Builder) : Builder :=
  { b with marks := .border :: b.marks }

/-- **The mode** that the open elements call for. -/
def modeFor (templateModes : List Mode) : List OpenElement → Mode
  | [] => .body
  | e :: rest =>
    if e.space != .html then modeFor templateModes rest
    else if e.name == "select" then
      match rest.find? (·.isHtmlIn ["template", "table"]) with
      | some e => if e.name == "table" then .selectInTable else .select
      | none => .select
    else if e.name == "td" || e.name == "th" then .cell
    else if e.name == "tr" then .row
    else if e.name == "tbody" || e.name == "thead" || e.name == "tfoot" then .tableBody
    else if e.name == "caption" then .caption
    else if e.name == "colgroup" then .columnGroup
    else if e.name == "table" then .table
    else if e.name == "template" then templateModes.headD .body
    else modeFor templateModes rest

/-- Take the mode that the open elements call for. -/
def resetMode (b : Builder) : Builder :=
  { b with mode := modeFor b.templateModes b.stack }

/-- An end tag without a rule of its own closes the newest element of its name, unless an element
with a rule of its own comes first. -/
def closeGeneric (b : Builder) (name : String) : Builder :=
  if inScope OpenElement.isSpecial (·.isHtml name) b.stack then (b.impliedExcept name).close name
  else b

/-! ## Formatting elements -/

/-- The entry needs no element to be opened: it is a border, or its element is open. -/
def standsOpen (b : Builder) : Mark → Bool
  | .border => true
  | .element id _ => b.stack.any (·.id == id)

/-- Open new elements for the entries, the oldest of which comes first. -/
def reopen (b : Builder) : List Mark → Builder
  | [] => b
  | .border :: rest => reopen { b with marks := .border :: b.marks } rest
  | .element _ tag :: rest =>
    let id := b.next
    let b := b.open tag
    reopen { b with marks := .element id tag :: b.marks } rest

/-- **Open again** the newest formatting elements that are not open. -/
def reopenFormatting (b : Builder) : Builder :=
  let closed := b.marks.takeWhile fun m => !b.standsOpen m
  reopen { b with marks := b.marks.drop closed.length } closed.reverse

/-- Open a formatting element. At most three recent ones with the same tag are remembered. -/
def openFormatting (b : Builder) (tag : Tag) : Builder :=
  let marks := Mark.makeRoom tag b.marks
  let id := b.next
  let b := b.open tag
  { b with marks := .element id tag :: marks }

/-- The subtree that is moved while the elements between a formatting element and a block are
renewed around it. -/
structure Adoption where
  /-- The subtree. -/
  moved : Dom
  /-- The number of the next element. -/
  next : Nat
  /-- The open elements that were renewed, the last one first. -/
  renewed : List OpenElement := []
  /-- The formatting elements. -/
  marks : List Mark
  /-- The first renewed element, behind which the formatting element is remembered. -/
  behind : Option Nat := none

/-- Renew an element between a formatting element and a block: at most the three nearest to the
block are renewed, and only formatting elements are. -/
def Adoption.renew (a : Adoption) (count : Nat) (e : OpenElement) : Adoption :=
  match a.marks.find? (·.isFor e.id) with
  | some (.element _ tag) =>
    if 3 < count then { a with marks := Mark.without e.id a.marks }
    else
      let id := a.next
      { moved := .element id .html (Space.html.nodeTag tag) a.moved .nil
        next := a.next + 1
        renewed := ⟨id, .html, tag.name, false⟩ :: a.renewed
        marks := a.marks.map fun m => if m.isFor e.id then .element id tag else m
        behind := a.behind.or (some id) }
  | _ => a

/-- Renew the elements from the block outwards. -/
def Adoption.renewAll (a : Adoption) (count : Nat) : List OpenElement → Adoption
  | [] => a
  | e :: rest => (a.renew count e).renewAll (count + 1) rest

/-- Put an entry in front of the one for the element `behind`. -/
def insertBehind (behind : Nat) (entry : Mark) : List Mark → List Mark
  | [] => [entry]
  | m :: rest => if m.isFor behind then entry :: m :: rest else m :: insertBehind behind entry rest

/-- One round of the end tag of a formatting element: the block in it is moved out, and a new
formatting element takes up the content of the block. `none` ends the rounds. -/
def adoptOnce (b : Builder) (name : String) : Builder × Bool :=
  match Mark.newest? name b.marks with
  | none => (b.closeGeneric name, false)
  | some (id, tag) =>
    if !b.stack.any (·.id == id) then ({ b with marks := Mark.without id b.marks }, false)
    else if !inScope OpenElement.endsScope (·.id == id) b.stack then (b, false)
    else
      let above := b.stack.takeWhile (·.id != id)
      let below := b.stack.drop (above.length + 1)
      match above.reverse.find? OpenElement.isSpecial with
      | none => ({ b with stack := below, marks := Mark.without id b.marks }, false)
      | some block =>
        let inner := above.takeWhile (·.id != block.id)
        let between := above.drop (inner.length + 1)
        match b.dom.extract? block.id with
        | none => (b, false)
        | some (subtree, dom) =>
          let start : Adoption :=
            { moved := subtree, next := b.next, marks := b.marks }
          let a := start.renewAll 1 between
          let fresh : OpenElement := ⟨a.next, .html, tag.name, false⟩
          let placed := changeAt dom (b.placeIn below.head?) (Dom.onTop a.moved)
          let wrapped := (placed.within? block.id fun cs =>
            .element a.next .html (Space.html.nodeTag tag) cs .nil).getD placed
          let entry : Mark := .element a.next tag
          let marks := match a.behind with
            | some behind => Mark.without id (insertBehind behind entry a.marks)
            | none => a.marks.map fun m => if m.isFor id then entry else m
          ({ b with
              dom := wrapped
              next := a.next + 1
              marks := marks
              stack := inner ++ fresh :: block :: (a.renewed.reverse ++ below) }, true)

/-- Up to `rounds` rounds. -/
def adoptRounds (b : Builder) (name : String) : Nat → Builder
  | 0 => b
  | rounds + 1 =>
    match b.adoptOnce name with
    | (b, true) => b.adoptRounds name rounds
    | (b, false) => b

/-- **The end tag of a formatting element.** -/
def adopt (b : Builder) (name : String) : Builder :=
  match b.stack with
  | e :: _ =>
    if e.isHtml name && !b.marks.any (·.isFor e.id) then b.pop else b.adoptRounds name 8
  | [] => b.adoptRounds name 8

end Builder

end ArticleMarkup.Html
