import ArticleMarkup.Html.Builder
import ArticleMarkup.Html.Foreign

/-!
# Tree construction

What each token does to the tree, by insertion mode. Some rules change the mode and hand the token
to the rules of the new mode; each of them moves outwards through the tables and selections that
are open.

## Main definitions

- `Builder.inBody` — the rules of flow content, which the other modes fall back to
- `Builder.byMode` — the rules of every mode
- `Builder.process` — one token, with the rules for vector graphics and mathematical markup
- `Builder.finish` — the end of the input
-/

namespace ArticleMarkup.Html

namespace Builder

/-- What a rule answers: it is done, or the token is to be handled again in the new state. -/
inductive Outcome where
  /-- The token has been handled. -/
  | done (b : Builder)
  /-- The token is handled again. -/
  | again (b : Builder)

/-! ## Metadata and templates -/

/-- The elements that are handled as in the head of a page. -/
def headNames : List String :=
  ["base", "basefont", "bgsound", "link", "meta", "noframes", "script", "style", "template",
    "title"]

/-- A start tag as in the head of a page. -/
def headStart (b : Builder) (tag : Tag) : Builder :=
  match tag.name with
  | "title" => b.openRaw tag .plainWithReferences
  | "noframes" | "style" => b.openRaw tag .raw
  | "script" => b.openRaw tag .script
  | "template" =>
    let b := (b.open tag).border
    { b with mode := .template, templateModes := .template :: b.templateModes }
  | _ => b.insertElement .html tag

/-- The end tag of a template. -/
def endTemplate (b : Builder) : Builder :=
  if b.hasOpen "template" then
    let b := { b with stack := popImplied allImpliedEnds b.stack }
    let b := (b.close "template").clearMarks
    { b with templateModes := b.templateModes.tail }.resetMode
  else b

/-! ## Flow content -/

/-- The block elements that end a paragraph and have no other rule. -/
def blockNames : List String :=
  ["address", "article", "aside", "blockquote", "center", "details", "dialog", "dir", "div", "dl",
    "fieldset", "figcaption", "figure", "footer", "header", "hgroup", "main", "menu", "nav", "ol",
    "p", "section", "summary", "ul"]

/-- The elements that an end tag closes when they are in scope. -/
def closableNames : List String :=
  ["address", "article", "aside", "blockquote", "button", "center", "details", "dialog", "dir",
    "div", "dl", "fieldset", "figcaption", "figure", "footer", "header", "hgroup", "listing",
    "main", "menu", "nav", "ol", "pre", "section", "summary", "ul"]

/-- The formatting elements without a rule against nesting. -/
def plainFormattingNames : List String :=
  ["b", "big", "code", "em", "font", "i", "s", "small", "strike", "strong", "tt", "u"]

/-- The parts of tables and pages that do not occur in flow content. -/
def misplacedNames : List String :=
  ["caption", "col", "colgroup", "frame", "head", "tbody", "td", "tfoot", "th", "thead", "tr"]

/-- The elements of a list or a definition list that a new one closes. -/
def closeItem (b : Builder) (names : List String) : Builder :=
  let ends (e : OpenElement) : Bool := e.isSpecial && !e.isHtmlIn ["address", "div", "p"]
  let rec go : List OpenElement → Builder
    | [] => b
    | e :: rest =>
      if e.isHtmlIn names then (b.impliedExcept e.name).close e.name
      else if ends e then b
      else go rest
  go b.stack

/-- The tag is that of a hidden input. -/
def isHiddenInput (tag : Tag) : Bool :=
  match tag.attr? "type" with
  | some value => Text.sameIgnoringCase value "hidden"
  | none => false

/-- A start tag in flow content. -/
def startInBody (b : Builder) (tag : Tag) (selfClosing : Bool) : Builder :=
  let name := tag.name
  if name == "html" || name == "body" || name == "frameset" then b
  else if headNames.contains name then b.headStart tag
  else if blockNames.contains name then b.endParagraph.open tag
  else if headingNames.contains name then
    let b := b.endParagraph
    let b := match b.stack with
      | e :: _ => if e.isHtmlIn headingNames then b.pop else b
      | [] => b
    b.open tag
  else if name == "pre" || name == "listing" then
    { b.endParagraph.open tag with skipNewline := true }
  else if name == "form" then
    if b.form.isSome && !b.hasOpen "template" then b
    else
      let b := b.endParagraph
      let id := b.next
      let b := b.open tag
      if b.hasOpen "template" then b else { b with form := some id }
  else if name == "li" then ((b.closeItem ["li"]).endParagraph).open tag
  else if name == "dd" || name == "dt" then ((b.closeItem ["dd", "dt"]).endParagraph).open tag
  else if name == "plaintext" then { b.endParagraph.open tag with wanted := .rest }
  else if name == "button" then
    let b := if b.scope "button" then b.implied.close "button" else b
    b.reopenFormatting.open tag
  else if name == "a" then
    let b :=
      match Mark.newest? "a" b.marks with
      | none => b
      | some (id, _) =>
        let b := b.adopt "a"
        { b with
          marks := Mark.without id b.marks
          stack := b.stack.filter (·.id != id) }
    b.reopenFormatting.openFormatting tag
  else if plainFormattingNames.contains name then b.reopenFormatting.openFormatting tag
  else if name == "nobr" then
    let b := b.reopenFormatting
    let b := if b.scope "nobr" then (b.adopt "nobr").reopenFormatting else b
    b.openFormatting tag
  else if name == "applet" || name == "marquee" || name == "object" then
    (b.reopenFormatting.open tag).border
  else if name == "table" then { b.endParagraph.open tag with mode := .table }
  else if ["area", "br", "embed", "img", "keygen", "wbr", "input"].contains name then
    b.reopenFormatting.insertElement .html tag
  else if name == "param" || name == "source" || name == "track" then b.insertElement .html tag
  else if name == "hr" then b.endParagraph.insertElement .html tag
  else if name == "image" then b.reopenFormatting.insertElement .html { tag with name := "img" }
  else if name == "textarea" then
    { b.openRaw tag .plainWithReferences with skipNewline := true }
  else if name == "xmp" then b.endParagraph.reopenFormatting.openRaw tag .raw
  else if name == "iframe" || name == "noembed" || name == "noscript" then b.openRaw tag .raw
  else if name == "select" then
    let mode := if [Mode.table, .caption, .tableBody, .row, .cell].contains b.mode then
      Mode.selectInTable else .select
    { b.reopenFormatting.open tag with mode := mode }
  else if name == "optgroup" || name == "option" then
    let b := if b.currentIs "option" then b.pop else b
    b.reopenFormatting.open tag
  else if name == "rb" || name == "rtc" then
    let b := if b.scope "ruby" then b.implied else b
    b.open tag
  else if name == "rp" || name == "rt" then
    let b := if b.scope "ruby" then b.impliedExcept "rtc" else b
    b.open tag
  else if name == "math" then b.insertForeign .math tag selfClosing
  else if name == "svg" then b.insertForeign .svg tag selfClosing
  else if misplacedNames.contains name then b
  else b.reopenFormatting.open tag

/-- An end tag in flow content. -/
def endInBody (b : Builder) (name : String) : Builder :=
  if name == "template" then b.endTemplate
  else if name == "body" || name == "html" then b
  else if closableNames.contains name then
    if b.scope name then b.implied.close name else b
  else if name == "form" then
    if b.hasOpen "template" then
      if b.scope "form" then b.implied.close "form" else b
    else
      match b.form with
      | none => b
      | some id =>
        let b := { b with form := none }
        if inScope OpenElement.endsScope (·.id == id) b.stack then
          let b := b.implied
          { b with stack := b.stack.filter (·.id != id) }
        else b
  else if name == "p" then
    let b :=
      if inScope OpenElement.endsButtonScope (·.isHtml "p") b.stack then b
      else b.open { name := "p" }
    b.closeParagraph
  else if name == "li" then
    if inScope OpenElement.endsListScope (·.isHtml "li") b.stack then
      (b.impliedExcept "li").close "li"
    else b
  else if name == "dd" || name == "dt" then
    if b.scope name then (b.impliedExcept name).close name else b
  else if headingNames.contains name then
    if inScope OpenElement.endsScope (·.isHtmlIn headingNames) b.stack then
      let b := b.implied
      { b with stack := popThrough (·.isHtmlIn headingNames) b.stack }
    else b
  else if name == "a" || name == "nobr" || plainFormattingNames.contains name then b.adopt name
  else if name == "applet" || name == "marquee" || name == "object" then
    if b.scope name then (b.implied.close name).clearMarks else b
  else if name == "br" then b.reopenFormatting.insertElement .html { name := "br" }
  else b.closeGeneric name

/-- **Flow content.** -/
def inBody (b : Builder) (token : Token) : Builder :=
  match token with
  | .char c => b.reopenFormatting.insertChar c
  | .null | .remark => b
  | .comment => b.insertOther
  | .startTag tag selfClosing => b.startInBody tag selfClosing
  | .endTag name => b.endInBody name

/-! ## Tables -/

/-- A node that does not belong into a table goes in front of it. -/
def foster (b : Builder) (token : Token) : Builder :=
  { { b with fostering := true }.inBody token with fostering := false }

/-- Enter the characters of table text: all into the table when they are white space, else all in
front of it. -/
def flushTableText (b : Builder) : Builder :=
  let cs := b.tableText.reverse
  let b := { b with tableText := [], mode := b.returnMode }
  if cs.all Text.isAsciiSpace then cs.foldl insertChar b
  else cs.foldl (fun b c => b.foster (.char c)) b

/-- The elements in which characters are table text. -/
def tableParts : List String := ["table", "tbody", "tfoot", "thead", "tr"]

/-- The border of a table. -/
def tableBorder : List String := ["table", "template", "html"]

/-- The border of a group of rows. -/
def groupBorder : List String := ["tbody", "tfoot", "thead", "template", "html"]

/-- The border of a row. -/
def rowBorder : List String := ["tr", "template", "html"]

/-- Close everything up to the table. -/
def closeToTable (b : Builder) : Builder :=
  b.closeTo tableBorder

/-- Directly in a table. -/
def inTable (b : Builder) (token : Token) : Outcome :=
  match token with
  | .char _ | .null =>
    match b.stack with
    | e :: _ =>
      if e.isHtmlIn tableParts then
        .again { b with mode := .tableText, returnMode := b.mode, tableText := [] }
      else .done (b.foster token)
    | [] => .done (b.foster token)
  | .comment => .done b.insertOther
  | .remark => .done b
  | .startTag tag _ =>
    let name := tag.name
    if name == "caption" then .done { b.closeToTable.border.open tag with mode := .caption }
    else if name == "colgroup" then .done { b.closeToTable.open tag with mode := .columnGroup }
    else if name == "col" then
      .again { b.closeToTable.open { name := "colgroup" } with mode := .columnGroup }
    else if name == "tbody" || name == "tfoot" || name == "thead" then
      .done { b.closeToTable.open tag with mode := .tableBody }
    else if name == "td" || name == "th" || name == "tr" then
      .again { b.closeToTable.open { name := "tbody" } with mode := .tableBody }
    else if name == "table" then
      if b.tableScope "table" then .again (b.close "table").resetMode else .done b
    else if name == "style" || name == "script" || name == "template" then .done (b.headStart tag)
    else if name == "input" && isHiddenInput tag then .done (b.insertElement .html tag)
    else if name == "form" then
      if !b.hasOpen "template" && b.form.isNone then
        .done { b.insertElement .html tag with form := some b.next }
      else .done b
    else .done (b.foster token)
  | .endTag name =>
    if name == "table" then
      if b.tableScope "table" then .done (b.close "table").resetMode else .done b
    else if ["body", "caption", "col", "colgroup", "html", "tbody", "td", "tfoot", "th", "thead",
        "tr"].contains name then .done b
    else if name == "template" then .done b.endTemplate
    else .done (b.foster token)

/-- The characters directly in a table, up to the next other token. -/
def inTableText (b : Builder) (token : Token) : Outcome :=
  match token with
  | .char c => .done { b with tableText := c :: b.tableText }
  | .null | .remark => .done b
  | _ => .again b.flushTableText

/-- In a caption. -/
def inCaption (b : Builder) (token : Token) : Outcome :=
  let leave (again : Bool) : Outcome :=
    if b.tableScope "caption" then
      let b := { (b.implied.close "caption").clearMarks with mode := .table }
      if again then .again b else .done b
    else .done b
  match token with
  | .startTag tag _ =>
    if ["caption", "col", "colgroup", "tbody", "td", "tfoot", "th", "thead", "tr"].contains
        tag.name then leave true
    else .done (b.inBody token)
  | .endTag name =>
    if name == "caption" then leave false
    else if name == "table" then leave true
    else if ["body", "col", "colgroup", "html", "tbody", "td", "tfoot", "th", "thead",
        "tr"].contains name then .done b
    else .done (b.inBody token)
  | _ => .done (b.inBody token)

/-- In a group of columns. -/
def inColumnGroup (b : Builder) (token : Token) : Outcome :=
  let leave : Outcome :=
    if b.currentIs "colgroup" then .again { b.pop with mode := .table } else .done b
  match token with
  | .char c => if Text.isAsciiSpace c then .done (b.insertChar c) else leave
  | .comment => .done b.insertOther
  | .remark => .done b
  | .null => leave
  | .startTag tag _ =>
    if tag.name == "html" then .done b
    else if tag.name == "col" then .done (b.insertElement .html tag)
    else if tag.name == "template" then .done (b.headStart tag)
    else leave
  | .endTag name =>
    if name == "colgroup" then
      if b.currentIs "colgroup" then .done { b.pop with mode := .table } else .done b
    else if name == "col" then .done b
    else if name == "template" then .done b.endTemplate
    else leave

/-- In a group of rows. -/
def inTableBody (b : Builder) (token : Token) : Outcome :=
  let leave : Outcome :=
    if inScope OpenElement.endsTableScope (·.isHtmlIn ["table", "tbody", "tfoot"]) b.stack then
      .again { (b.closeTo groupBorder).pop with mode := .table }
    else .done b
  match token with
  | .startTag tag _ =>
    let name := tag.name
    if name == "tr" then .done { (b.closeTo groupBorder).open tag with mode := .row }
    else if name == "th" || name == "td" then
      .again { (b.closeTo groupBorder).open { name := "tr" } with mode := .row }
    else if ["caption", "col", "colgroup", "tbody", "tfoot", "thead"].contains name then leave
    else b.inTable token
  | .endTag name =>
    if name == "tbody" || name == "tfoot" || name == "thead" then
      if b.tableScope name then .done { (b.closeTo groupBorder).pop with mode := .table }
      else .done b
    else if name == "table" then leave
    else if ["body", "caption", "col", "colgroup", "html", "td", "th", "tr"].contains name then
      .done b
    else b.inTable token
  | _ => b.inTable token

/-- In a row. -/
def inRow (b : Builder) (token : Token) : Outcome :=
  let closed : Builder := { (b.closeTo rowBorder).pop with mode := .tableBody }
  let leave : Outcome := if b.tableScope "tr" then .again closed else .done b
  match token with
  | .startTag tag _ =>
    let name := tag.name
    if name == "th" || name == "td" then
      .done { ((b.closeTo rowBorder).open tag).border with mode := .cell }
    else if ["caption", "col", "colgroup", "tbody", "tfoot", "thead", "tr"].contains name then
      leave
    else b.inTable token
  | .endTag name =>
    if name == "tr" then (if b.tableScope "tr" then .done closed else .done b)
    else if name == "table" then leave
    else if name == "tbody" || name == "tfoot" || name == "thead" then
      if b.tableScope name then leave else .done b
    else if ["body", "caption", "col", "colgroup", "html", "td", "th"].contains name then .done b
    else b.inTable token
  | _ => b.inTable token

/-- Close the cell that is open. -/
def closeCell (b : Builder) : Builder :=
  let b := b.implied
  { b with stack := popThrough (·.isHtmlIn ["td", "th"]) b.stack }.clearMarks

/-- In a cell. -/
def inCell (b : Builder) (token : Token) : Outcome :=
  match token with
  | .startTag tag _ =>
    if ["caption", "col", "colgroup", "tbody", "td", "tfoot", "th", "thead", "tr"].contains
        tag.name then
      if inScope OpenElement.endsTableScope (·.isHtmlIn ["td", "th"]) b.stack then
        .again { b.closeCell with mode := .row }
      else .done b
    else .done (b.inBody token)
  | .endTag name =>
    if name == "td" || name == "th" then
      if b.tableScope name then
        .done { (b.implied.close name).clearMarks with mode := .row }
      else .done b
    else if ["body", "caption", "col", "colgroup", "html"].contains name then .done b
    else if ["table", "tbody", "tfoot", "thead", "tr"].contains name then
      if b.tableScope name then .again { b.closeCell with mode := .row } else .done b
    else .done (b.inBody token)
  | _ => .done (b.inBody token)

/-! ## Selections -/

/-- A selection is open in its own scope. -/
def selectScope (b : Builder) : Bool :=
  inScope OpenElement.endsSelectScope (·.isHtml "select") b.stack

/-- In a selection. -/
def inSelect (b : Builder) (token : Token) : Outcome :=
  match token with
  | .char c => .done (b.insertChar c)
  | .comment => .done b.insertOther
  | .null | .remark => .done b
  | .startTag tag _ =>
    let name := tag.name
    let closeOption (b : Builder) : Builder := if b.currentIs "option" then b.pop else b
    if name == "option" then .done ((closeOption b).open tag)
    else if name == "optgroup" then
      let b := closeOption b
      let b := if b.currentIs "optgroup" then b.pop else b
      .done (b.open tag)
    else if name == "select" then
      if b.selectScope then .done (b.close "select").resetMode else .done b
    else if name == "input" || name == "keygen" || name == "textarea" then
      if b.selectScope then .again (b.close "select").resetMode else .done b
    else if name == "script" || name == "template" then .done (b.headStart tag)
    else .done b
  | .endTag name =>
    if name == "optgroup" then
      let b :=
        match b.stack with
        | e :: g :: _ => if e.isHtml "option" && g.isHtml "optgroup" then b.pop else b
        | _ => b
      .done (if b.currentIs "optgroup" then b.pop else b)
    else if name == "option" then .done (if b.currentIs "option" then b.pop else b)
    else if name == "select" then
      if b.selectScope then .done (b.close "select").resetMode else .done b
    else if name == "template" then .done b.endTemplate
    else .done b

/-- The parts of a table that end a selection in it. -/
def selectEnders : List String :=
  ["caption", "table", "tbody", "tfoot", "thead", "tr", "td", "th"]

/-- In a selection within a table. -/
def inSelectInTable (b : Builder) (token : Token) : Outcome :=
  match token with
  | .startTag tag _ =>
    if selectEnders.contains tag.name then .again (b.close "select").resetMode
    else b.inSelect token
  | .endTag name =>
    if selectEnders.contains name then
      if b.tableScope name then .again (b.close "select").resetMode else .done b
    else b.inSelect token
  | _ => b.inSelect token

/-! ## Templates and raw text -/

/-- In a template whose content has not shown its kind. -/
def inTemplate (b : Builder) (token : Token) : Outcome :=
  let become (mode : Mode) : Outcome :=
    .again { b with mode := mode, templateModes := mode :: b.templateModes.tail }
  match token with
  | .char _ | .comment => .done (b.inBody token)
  | .null | .remark => .done b
  | .startTag tag _ =>
    let name := tag.name
    if headNames.contains name then .done (b.headStart tag)
    else if ["caption", "colgroup", "tbody", "tfoot", "thead"].contains name then become .table
    else if name == "col" then become .columnGroup
    else if name == "tr" then become .tableBody
    else if name == "td" || name == "th" then become .row
    else become .body
  | .endTag name => .done (if name == "template" then b.endTemplate else b)

/-- In raw text. -/
def inText (b : Builder) (token : Token) : Outcome :=
  match token with
  | .char c => .done (b.insertChar c)
  | .endTag _ => .done { b.pop with mode := b.returnMode }
  | _ => .done b

/-! ## All modes -/

/-- **The rules of the current mode.** -/
def byMode (b : Builder) (token : Token) : Outcome :=
  match b.mode with
  | .body => .done (b.inBody token)
  | .text => b.inText token
  | .table => b.inTable token
  | .tableText => b.inTableText token
  | .caption => b.inCaption token
  | .columnGroup => b.inColumnGroup token
  | .tableBody => b.inTableBody token
  | .row => b.inRow token
  | .cell => b.inCell token
  | .select => b.inSelect token
  | .selectInTable => b.inSelectInTable token
  | .template => b.inTemplate token

/-- The rules for a token in vector graphics or mathematical markup; `none` leaves it to the rules
of the mode. -/
def inForeign (b : Builder) (token : Token) : Option Builder :=
  match token with
  | .null => some (b.insertChar '\ufffd')
  | .char c => some (b.insertChar c)
  | .comment => some b.insertOther
  | .remark => some b
  | .startTag tag selfClosing =>
    if breaksOut tag then none
    else
      let space := match b.stack with
        | e :: _ => e.space
        | [] => .html
      some (b.insertForeign space tag selfClosing)
  | .endTag name =>
    match foreignEnd name true b.stack with
    | .close stack => some { b with stack := stack }
    | .ignore => some b
    | .html => none

/-- Handle a token until it is done, in at most `fuel` steps. A rule hands a token on only to move
outwards, so fewer steps than there are modes are taken. -/
def run (b : Builder) (token : Token) : Nat → Builder
  | 0 => b
  | fuel + 1 =>
    let step (b : Builder) : Builder :=
      match b.byMode token with
      | .done b => b
      | .again b => b.run token fuel
    if isForeign b.stack token then
      match b.inForeign token with
      | some b => b
      | none => step (b.breakOut token)
    else step b

/-- More steps than a token can take. -/
def processFuel : Nat := 24

/-- **Handle one token.** -/
def process (b : Builder) (token : Token) : Builder :=
  let skip := b.skipNewline && token == .char '\n'
  let b := { b with skipNewline := false, wanted := .markup }
  if skip then b else b.run token processFuel

/-- **The end of the input.** Table text that is still pending goes where it belongs. -/
def finish (b : Builder) : Builder :=
  match b.mode with
  | .tableText => b.flushTableText
  | _ => b

/-- The scanner is to read what follows as content that is not HTML. -/
def readsForeign (b : Builder) : Bool :=
  match b.stack with
  | e :: _ => e.space != .html
  | [] => false

end Builder

end ArticleMarkup.Html
