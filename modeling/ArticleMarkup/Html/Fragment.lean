import ArticleMarkup.Html.Construction
import ArticleMarkup.Html.Scanner

/-!
# HTML fragments

The reading of an HTML text as the content of a body: the characters go one by one through the
scanner, and its tokens through the tree builder, which in turn tells the scanner how to read on.

## Main definitions

- `Parser.feed` — one character
- `Html.tree` — the tree of a whole text
- `Html.lowered`, `Html.lower` — the forest of a text, within a limit on nesting
-/

namespace ArticleMarkup.Html

/-- The scanner and the tree builder. -/
structure Parser where
  /-- The scanner. -/
  scanner : Scanner := {}
  /-- The tree builder. -/
  builder : Builder := {}
deriving DecidableEq, Repr, Inhabited

/-- The token is a tag. -/
def Token.isTag : Token → Bool
  | .startTag _ _ | .endTag _ => true
  | _ => false

/-- **Feed one character** to the parser. After a tag the builder decides how the text that follows
is read. -/
def Parser.feed (p : Parser) (c : Char) : Parser :=
  let (scanner, tokens) := p.scanner.step p.builder.readsForeign c
  let builder := tokens.foldl Builder.process p.builder
  if tokens.any Token.isTag then ⟨{ scanner with content := builder.wanted }, builder⟩
  else ⟨scanner, builder⟩

/-- The tree after the end of the input. -/
def Parser.finish (p : Parser) : Dom :=
  (p.scanner.finish.foldl Builder.process p.builder).finish.dom

/-- The characters as they are scanned: without a mark of the byte order at the start, and with
line feeds for all line ends. -/
def inputChars (html : String) : List Char :=
  normalizeNewlines <|
    match html.toList with
    | '\ufeff' :: cs => cs
    | cs => cs

/-- **The tree of a text.** -/
def tree (html : String) : Dom :=
  ((inputChars html).foldl Parser.feed {}).finish

/-- **The forest of a text**, unless an element lies deeper than `limit`. A blank text has no nodes. -/
def lowered (html : String) (limit : Nat) : Except Dom.TooDeep Forest :=
  if Text.isBlank html then .ok .nil else (tree html).lower limit

/-- The forest of a text, or nothing when an element lies deeper than `limit`. -/
def lower (html : String) (limit : Nat) : Option Forest :=
  (lowered html limit).toOption

end ArticleMarkup.Html
