import ArticleMarkup.Markdown.Line

/-!
# Raw HTML

Markdown lets HTML through as it is: tags and comments inside a text, and whole blocks of lines
that begin with a tag. The scanners here only find where such a piece ends; they build nothing.

## Main definitions

- `openTag?`, `closeTag?` — the text behind a tag
- `inlineHtml?` — the text behind any piece of HTML inside a text
- `BlockEnd`, `blockStart?` — the kinds of HTML block, told apart by what ends them
- `BlockEnd.isMetBy` — the line that ends a block
-/

namespace ArticleMarkup.Markdown

/-- Take the characters of `cs` up to the suffix `rest`. -/
def upTo (cs rest : List Char) : List Char :=
  cs.take (cs.length - rest.length)

/-- A character of a tag's name after the first. -/
def isTagNameChar (c : Char) : Bool :=
  Text.isAsciiAlnum c || c == '-'

/-- A first character of an attribute's name. -/
def isAttrNameStart (c : Char) : Bool :=
  Text.isAsciiLetter c || c == '_' || c == ':'

/-- A later character of an attribute's name. -/
def isAttrNameChar (c : Char) : Bool :=
  isAttrNameStart c || Text.isAsciiDigit c || c == '.' || c == '-'

/-- A character of a value without quotes. -/
def isBareValueChar (c : Char) : Bool :=
  !(isSpace c || c == '"' || c == '\'' || c == '=' || c == '<' || c == '>' || c == '\x60')

/-- The text behind a tag's name. -/
def tagName? : List Char → Option (List Char)
  | c :: cs => if Text.isAsciiLetter c then some (cs.dropWhile isTagNameChar) else none
  | [] => none

/-- The text behind a quoted value whose opening quote is passed. -/
def quoted? (quote : Char) : List Char → Option (List Char)
  | [] => none
  | c :: cs => if c = quote then some cs else quoted? quote cs

/-- The text behind an attribute's value. -/
def attrValue? (cs : List Char) : Option (List Char) :=
  match cs with
  | '"' :: rest => quoted? '"' rest
  | '\'' :: rest => quoted? '\'' rest
  | c :: rest => if isBareValueChar c then some (rest.dropWhile isBareValueChar) else none
  | [] => none

/-- The text behind an attribute with the white space before it. -/
def attr? (cs : List Char) : Option (List Char) :=
  match cs with
  | c :: _ =>
    if isSpace c then
      match cs.dropWhile isSpace with
      | n :: rest =>
        if isAttrNameStart n then
          let rest := rest.dropWhile isAttrNameChar
          match rest.dropWhile isSpace with
          | '=' :: value => some ((attrValue? (value.dropWhile isSpace)).getD rest)
          | _ => some rest
        else none
      | [] => none
    else none
  | [] => none

/-- The text behind the attributes; `fuel` bounds their number. -/
def attrs : Nat → List Char → List Char
  | 0, cs => cs
  | fuel + 1, cs =>
    match attr? cs with
    | some rest => attrs fuel rest
    | none => cs

/-- **An opening tag**: the text behind it, given the text behind its `<`. -/
def openTag? (cs : List Char) : Option (List Char) :=
  match tagName? cs with
  | some rest =>
    match (attrs rest.length rest).dropWhile isSpace with
    | '>' :: rest | '/' :: '>' :: rest => some rest
    | _ => none
  | none => none

/-- **A closing tag**: the text behind it, given the text behind its `<`. -/
def closeTag? (cs : List Char) : Option (List Char) :=
  match cs with
  | '/' :: cs =>
    match (tagName? cs).map (·.dropWhile isSpace) with
    | some ('>' :: rest) => some rest
    | _ => none
  | _ => none

/-- The text behind a comment whose `<!--` is passed. Two hyphens that do not end it take the
character behind them along. -/
def comment? : List Char → Option (List Char)
  | '-' :: '-' :: '>' :: rest => some rest
  | '-' :: '-' :: _ :: rest => comment? rest
  | '-' :: '-' :: [] => none
  | '-' :: _ :: rest => comment? rest
  | '-' :: [] => none
  | _ :: rest => comment? rest
  | [] => none

/-- The text behind a section of character data whose `<![CDATA[` is passed. Two brackets that do
not end it take the character behind them along. -/
def dataSection? : List Char → Option (List Char)
  | ']' :: ']' :: '>' :: rest => some rest
  | ']' :: ']' :: _ :: rest => dataSection? rest
  | ']' :: ']' :: [] => none
  | ']' :: _ :: rest => dataSection? rest
  | ']' :: [] => none
  | _ :: rest => dataSection? rest
  | [] => none

/-- The text behind a processing instruction whose `<?` is passed. A question mark that does not end
it takes the character behind it along. -/
def instruction? : List Char → Option (List Char)
  | '?' :: '>' :: rest => some rest
  | '?' :: _ :: rest => instruction? rest
  | '?' :: [] => none
  | _ :: rest => instruction? rest
  | [] => none

/-- The text behind the first place where `stop` is written. -/
def behind? (stop : List Char) : List Char → Option (List Char)
  | [] => Text.dropStart? stop []
  | c :: cs =>
    match Text.dropStart? stop (c :: cs) with
    | some rest => some rest
    | none => behind? stop cs

/-- The text behind a declaration, given the text behind its `<!`: a name, white space, and
anything up to `>`. -/
def declaration? (cs : List Char) : Option (List Char) :=
  match cs, cs.dropWhile Text.isAsciiLetter with
  | c :: _, s :: rest => if Text.isAsciiLetter c && isSpace s then behind? ['>'] rest else none
  | _, _ => none

/-- **A piece of HTML inside a text**: the text behind it, given the text behind its `<`. -/
def inlineHtml? (cs : List Char) : Option (List Char) :=
  match cs with
  | '!' :: '-' :: '-' :: '>' :: rest => some rest
  | '!' :: '-' :: '-' :: '-' :: '>' :: rest => some rest
  | '!' :: '-' :: '-' :: rest => comment? rest
  | '!' :: '[' :: rest => (Text.dropStart? "CDATA[".toList rest).bind dataSection?
  | '!' :: rest => declaration? rest
  | '?' :: rest => instruction? rest
  | '/' :: _ => closeTag? cs
  | _ => openTag? cs

/-! ## Blocks -/

/-- What ends an HTML block. -/
inductive BlockEnd where
  /-- The closing tag of an element with unparsed text. -/
  | closingTag
  /-- The end of a comment. -/
  | commentEnd
  /-- The end of a processing instruction. -/
  | instructionEnd
  /-- The end of a declaration. -/
  | declarationEnd
  /-- The end of a section of character data. -/
  | dataEnd
  /-- A blank line. -/
  | blankLine
deriving DecidableEq, Repr

/-- The elements whose content is no markup, closed by their own tags. -/
def unparsedNames : List String := ["script", "pre", "textarea", "style"]

/-- The elements that begin a block in any place. -/
def blockNames : List String :=
  ["address", "article", "aside", "base", "basefont", "blockquote", "body", "caption", "center",
   "col", "colgroup", "dd", "details", "dialog", "dir", "div", "dl", "dt", "fieldset", "figcaption",
   "figure", "footer", "form", "frame", "frameset", "h1", "h2", "h3", "h4", "h5", "h6", "head",
   "header", "hr", "html", "iframe", "legend", "li", "link", "main", "menu", "menuitem", "nav",
   "noframes", "ol", "optgroup", "option", "p", "param", "search", "section", "summary", "table",
   "tbody", "td", "tfoot", "th", "thead", "title", "tr", "track", "ul"]

/-- The text behind a name out of the list, in any case, that ends in front of a character with the
property or at the end of the line. -/
def nameBefore (names : List String) (ends : Char → Bool) (cs : List Char) : Bool :=
  names.any fun name =>
    match Text.dropStartIgnoringCase? name.toList cs with
    | some [] => true
    | some (c :: _) => ends c
    | none => false

/-- A name out of the list, in any case, that white space, `>` or `/>` follows. -/
def tagNameOf (names : List String) (cs : List Char) : Bool :=
  names.any fun name =>
    match Text.dropStartIgnoringCase? name.toList cs with
    | some [] => true
    | some ('>' :: _) | some ('/' :: '>' :: _) => true
    | some (c :: _) => isSpace c
    | none => false

/-- **The start of an HTML block**: what will end the block that begins with this line. A line that
holds a single tag of some other name begins a block too, but only where `anyTag` allows it. -/
def blockStart? (anyTag : Bool) (cs : List Char) : Option BlockEnd :=
  match cs with
  | '<' :: rest =>
    if nameBefore unparsedNames (fun c => isSpace c || c == '>') rest then some .closingTag
    else if (Text.dropStart? "!--".toList rest).isSome then some .commentEnd
    else if (Text.dropStart? ['?'] rest).isSome then some .instructionEnd
    else if (match rest with
        | '!' :: c :: _ => Text.isAsciiLetter c
        | _ => false) then some .declarationEnd
    else if (Text.dropStartIgnoringCase? "![CDATA[".toList rest).isSome then some .dataEnd
    else if tagNameOf blockNames (match rest with
        | '/' :: name => name
        | name => name) then some .blankLine
    else if anyTag then
      match (openTag? rest).or (closeTag? rest) with
      | some behind =>
        if behind.all (fun c => isSpaceOrTab c || c == '\x0c') then some .blankLine else none
      | none => none
    else none
  | _ => none

/-- The line holds the end of the block. -/
def BlockEnd.isMetBy (e : BlockEnd) (cs : List Char) : Bool :=
  match e with
  | .closingTag => closes cs
  | .commentEnd => (behind? "-->".toList cs).isSome
  | .instructionEnd => (behind? "?>".toList cs).isSome
  | .declarationEnd => (behind? ['>'] cs).isSome
  | .dataEnd => (behind? "]]>".toList cs).isSome
  | .blankLine => false
where
  closes : List Char → Bool
    | [] => false
    | c :: cs =>
      unparsedNames.any (fun name =>
        (Text.dropStartIgnoringCase? ("</" ++ name ++ ">").toList (c :: cs)).isSome) || closes cs

end ArticleMarkup.Markdown
