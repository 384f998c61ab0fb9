import ArticleMarkup.Markdown.Document

/-!
# Markdown as HTML

The HTML text that a document stands for. Raw HTML passes through as it is, and a line break of
either kind becomes a break element.

## Main definitions

- `escapeText`, `escapeAddress` — text and addresses as they are written
- `Inlines.toHtml` — inline content
- `Blocks.write` — blocks, each on lines of its own
- `htmlOf` — a whole document
-/

namespace ArticleMarkup.Markdown

/-! ## Text and addresses -/

/-- Text with the characters that mean something in HTML written as references. -/
def escapeText (s : String) : String :=
  String.ofList <| s.toList.flatMap fun c =>
    if c = '"' then "&quot;".toList
    else if c = '&' then "&amp;".toList
    else if c = '<' then "&lt;".toList
    else if c = '>' then "&gt;".toList
    else [c]

/-- A hexadecimal digit in upper case. -/
def hexDigit (n : Nat) : Char :=
  if n < 10 then Char.ofNat ('0'.toNat + n) else Char.ofNat ('A'.toNat + n - 10)

/-- A character as the percent-encoded bytes of its UTF-8 form. -/
def percentEncode (c : Char) : List Char :=
  (String.utf8EncodeChar c).flatMap fun b => ['%', hexDigit (b.toNat / 16), hexDigit (b.toNat % 16)]

/-- A character as it is written in an address. -/
def addressChar (c : Char) : List Char :=
  if Text.isAsciiAlnum c || "-_.+!*(),%#@?=;:/$~".toList.contains c then [c]
  else if c = '&' then "&amp;".toList
  else if c = '\'' then "&#x27;".toList
  else percentEncode c

/-- The text behind a web scheme and a host in brackets, which are written as they are. -/
def bracketedHost? (cs : List Char) : Option (List Char) :=
  match Text.dropStartIgnoringCase? "http".toList cs with
  | none => none
  | some rest =>
    let rest := (Text.dropStartIgnoringCase? ['s'] rest).getD rest
    match Text.dropStart? "://[".toList rest with
    | none => none
    | some host =>
      let digits := host.takeWhile fun c => Text.isHexDigit c || c == ':'
      let behind := host.drop digits.length
      let behind :=
        match Text.dropStart? "%25".toList behind with
        | some zone =>
          let name := zone.takeWhile Text.isAsciiAlnum
          if name.isEmpty then behind else zone.drop name.length
        | none => behind
      match behind with
      | ']' :: rest => if digits.isEmpty then none else some rest
      | _ => none

/-- An address as it is written in an attribute. -/
def escapeAddress (s : String) : String :=
  let cs := s.toList
  let rest := (bracketedHost? cs).getD cs
  String.ofList (upTo cs rest ++ rest.flatMap addressChar)

/-! ## Inline content -/

/-- Inline content as the text that stands for an image. -/
def Inlines.toPlain : Inlines → String
  | nil => ""
  | leaf (.text s) rest | leaf (.code s) rest | leaf (.html s) rest => escapeText s ++ rest.toPlain
  | leaf (.lineBreak _) rest => " " ++ rest.toPlain
  | leaf _ rest => rest.toPlain
  | span _ cs rest => cs.toPlain ++ rest.toPlain

/-- The identifier of a mark, the first of a footnote or a later one. -/
def markId (label : String) (occurrence : Nat) : String :=
  "fnref-" ++ label ++ if occurrence > 1 then "-" ++ toString occurrence else ""

/-- A piece of inline content. -/
def Leaf.toHtml : Leaf → String
  | text s => escapeText s
  | lineBreak _ => "<br />\n"
  | code s => "<code>" ++ escapeText s ++ "</code>"
  | html s => s
  | noteMark _ => ""
  | noteLink label number occurrence =>
    "<sup class=\"footnote-ref\"><a href=\"#fn-" ++ escapeAddress label ++ "\" id=\"" ++
      escapeAddress (markId label occurrence) ++ "\" data-footnote-ref>" ++ toString number ++
      "</a></sup>"

/-- The title of a link or an image as an attribute. -/
def titleAttribute (title : String) : String :=
  if title.isEmpty then "" else " title=\"" ++ escapeText title ++ "\""

/-- **Inline content** as HTML. -/
def Inlines.toHtml : Inlines → String
  | nil => ""
  | leaf l rest => l.toHtml ++ rest.toHtml
  | span k cs rest =>
    let own :=
      match k with
      | .emphasis => "<em>" ++ cs.toHtml ++ "</em>"
      | .strong => "<strong>" ++ cs.toHtml ++ "</strong>"
      | .strike => "<del>" ++ cs.toHtml ++ "</del>"
      | .link t =>
        "<a href=\"" ++ escapeAddress t.url ++ "\"" ++ titleAttribute t.title ++ ">" ++ cs.toHtml ++
          "</a>"
      | .image t =>
        "<img src=\"" ++ escapeAddress t.url ++ "\" alt=\"" ++ cs.toPlain ++ "\"" ++
          titleAttribute t.title ++ " />"
    own ++ rest.toHtml

/-! ## Blocks -/

/-- The HTML written so far. -/
structure Output where
  /-- The text. -/
  text : String := ""
  /-- The footnotes begun. -/
  notes : Nat := 0
  /-- The number of the last footnote whose links back to its marks are written. -/
  linkedBack : Nat := 0
deriving DecidableEq, Repr

namespace Output

/-- Add text. -/
def add (o : Output) (s : String) : Output :=
  { o with text := o.text ++ s }

/-- End the line, unless nothing stands on it. -/
def freshLine (o : Output) : Output :=
  if o.text.isEmpty || o.text.endsWith "\n" then o else o.add "\n"

/-- The link from a footnote back to one of its marks. -/
def backLink (label : String) (note occurrence : Nat) : String :=
  let mark := toString note ++ if occurrence > 1 then "-" ++ toString occurrence else ""
  let suffix := if occurrence > 1 then "-" ++ toString occurrence else ""
  "<a href=\"#fnref-" ++ escapeAddress label ++ suffix ++
    "\" class=\"footnote-backref\" data-footnote-backref data-footnote-backref-idx=\"" ++ mark ++
    "\" aria-label=\"Back to reference " ++ mark ++ "\">↩" ++
    (if occurrence > 1 then "<sup class=\"footnote-ref\">" ++ toString occurrence ++ "</sup>"
      else "") ++ "</a>"

/-- The links from a footnote back to its marks. -/
def backLinks (label : String) (note references : Nat) : String :=
  Text.joinWith " " ((List.range references).map fun i => backLink label note (i + 1))

/-- Write the links back from the present footnote. -/
def linkBack (o : Output) (label : String) (references : Nat) : Output :=
  if o.linkedBack < o.notes then
    { o.add (backLinks label o.notes references) with linkedBack := o.notes }
  else o

end Output

/-- What surrounds a block directly. -/
structure Surroundings where
  /-- It stands in an item of a tight list, or is itself one. -/
  tight : Bool := false
  /-- The footnote it stands in, with the number of its marks. -/
  note : Option (String × Nat) := none

/-- The attribute that aligns a cell. -/
def Alignment.attribute : Alignment → String
  | standard => ""
  | left => " align=\"left\""
  | center => " align=\"center\""
  | right => " align=\"right\""

/-- The cells of a row, with the given tag. -/
def cellsHtml (tag : String) : List Alignment → List Inlines → String
  | _, [] => ""
  | alignments, c :: cs =>
    "<" ++ tag ++ (alignments.headD .standard).attribute ++ ">" ++ c.toHtml ++
      "</" ++ tag ++ ">\n" ++ cellsHtml tag alignments.tail cs

/-- A row, with the given tag for its cells. -/
def rowHtml (tag : String) (alignments : List Alignment) (row : List Inlines) : String :=
  "<tr>\n" ++ cellsHtml tag alignments row ++ "</tr>\n"

/-- A table. -/
def tableHtml (alignments : List Alignment) (head : List Inlines) (rows : List (List Inlines)) :
    String :=
  let body := String.join (rows.map (rowHtml "td" alignments))
  "<table>\n<thead>\n" ++ rowHtml "th" alignments head ++ "</thead>\n" ++
    (if rows.isEmpty then "" else "<tbody>\n" ++ body ++ "</tbody>\n") ++ "</table>\n"

/-- The class of code in the language that the words behind its fence begin with. -/
def languageAttribute (info : String) : String :=
  if info.isEmpty then ""
  else
    let language := String.ofList (info.toList.takeWhile (!isSpace ·))
    " class=\"language-" ++ escapeText language ++ "\""

/-- Write a block that holds no blocks. `last` says that nothing comes after it. -/
def LeafBlock.write (s : Surroundings) (last : Bool) (o : Output) : LeafBlock Inlines → Output
  | paragraph c =>
    if s.tight then o.add c.toHtml
    else
      let o := (o.freshLine.add "<p>").add c.toHtml
      let o :=
        match s.note with
        | some (label, references) => if last then (o.add " ").linkBack label references else o
        | none => o
      o.add "</p>\n"
  | heading level c =>
    let tag := "h" ++ toString level
    o.freshLine.add ("<" ++ tag ++ ">" ++ c.toHtml ++ "</" ++ tag ++ ">\n")
  | code info literal =>
    o.freshLine.add
      ("<pre><code" ++ languageAttribute info ++ ">" ++ escapeText literal ++ "</code></pre>\n")
  | html literal => (o.freshLine.add literal).freshLine
  | rule => o.freshLine.add "<hr />\n"
  | table alignments head rows => o.freshLine.add (tableHtml alignments head rows)

/-- What is written where a container begins. -/
def Container.openHtml : Container → String
  | quote => "<blockquote>\n"
  | list (.bullet _) _ _ => "<ul>\n"
  | list (.number _) start _ =>
    if start = 1 then "<ol>\n" else "<ol start=\"" ++ toString start ++ "\">\n"
  | item .none => "<li>"
  | item .empty => "<li><input type=\"checkbox\" disabled=\"\" /> "
  | item .ticked => "<li><input type=\"checkbox\" checked=\"\" disabled=\"\" /> "
  | footnote label _ => "<li id=\"fn-" ++ escapeAddress label ++ "\">"

/-- What is written where a container ends. -/
def Container.closeHtml : Container → String
  | quote => "</blockquote>\n"
  | list (.bullet _) _ _ => "</ul>\n"
  | list (.number _) _ _ => "</ol>\n"
  | item _ | footnote _ _ => "</li>\n"

/-- What a container is for the blocks inside it. -/
def Container.surroundings (s : Surroundings) : Container → Surroundings
  | quote => {}
  | list _ _ tight => ⟨tight, none⟩
  | item _ => ⟨s.tight, none⟩
  | footnote label references => ⟨false, some (label, references)⟩

/-- Begin a container. The first footnote begins the section of footnotes. -/
def Container.writeOpen (o : Output) (k : Container) : Output :=
  match k with
  | footnote _ _ =>
    let o := if o.notes = 0 then o.add "<section class=\"footnotes\" data-footnotes>\n<ol>\n" else o
    { o.add k.openHtml with notes := o.notes + 1 }
  | _ => o.freshLine.add k.openHtml

/-- End a container. -/
def Container.writeClose (o : Output) (k : Container) : Output :=
  match k with
  | footnote label references =>
    let o := if o.linkedBack < o.notes then (o.linkBack label references).add "\n" else o
    o.add k.closeHtml
  | item _ => o.add k.closeHtml
  | quote => o.freshLine.add k.closeHtml
  | list _ _ _ => o.add k.closeHtml

/-- There is no block. -/
def Blocks.isEmpty {α : Type} : Blocks α → Bool
  | nil => true
  | _ => false

/-- **Write blocks.** -/
def Blocks.write (s : Surroundings) (o : Output) : Blocks Inlines → Output
  | nil => o
  | leaf l rest => rest.write s (l.write s rest.isEmpty o)
  | container k cs rest =>
    rest.write s (Container.writeClose (cs.write (k.surroundings s) (Container.writeOpen o k)) k)

/-- **The HTML of a document.** -/
def htmlOf (doc : Blocks Inlines) : String :=
  let o := doc.write {} {}
  if o.notes > 0 then o.text ++ "</ol>\n</section>\n" else o.text

end ArticleMarkup.Markdown
