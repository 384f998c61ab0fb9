import ArticleMarkup.Html.NamedCharacters
import ArticleMarkup.Html.Token

/-!
# The HTML scanner

Splits HTML text into tokens, one character at a time. A character is either taken up by the
current state or handed on to the state that follows, so no character is looked at ahead of its
turn.

## Main definitions

- `Scanner` — a state with the parts of the token under construction
- `Scanner.step` — take one character, give the tokens that are complete
- `Scanner.finish` — the tokens that the end of the input completes
- `normalizeNewlines` — every line end becomes a line feed before the text is scanned
-/

namespace ArticleMarkup.Html

/-- Line ends of all kinds become line feeds. -/
def normalizeNewlines : List Char → List Char
  | [] => []
  | '\r' :: '\n' :: cs => '\n' :: normalizeNewlines cs
  | '\r' :: cs => '\n' :: normalizeNewlines cs
  | c :: cs => c :: normalizeNewlines cs

/-- How far a script is inside a comment. -/
inductive ScriptDepth where
  /-- Not in a comment. -/
  | outside
  /-- In a comment. -/
  | inComment
  /-- In a script within a comment. -/
  | inInnerScript
deriving DecidableEq, Repr, Inhabited

/-- How an attribute's value is delimited. -/
inductive Delimiter where
  /-- Double quotes. -/
  | double
  /-- Single quotes. -/
  | single
  /-- Nothing; the value ends at white space or `>`. -/
  | space
deriving DecidableEq, Repr, Inhabited

/-- The part of a character reference that has been read. -/
inductive Reference where
  /-- The `&` only. -/
  | start
  /-- Letters and digits, the last one first. -/
  | name (reversed : List Char)
  /-- The `&#`. -/
  | number
  /-- The `&#` and this letter X. -/
  | hexMark (x : Char)
  /-- At least one digit. -/
  | digits (hex : Bool) (value : Nat)
deriving DecidableEq, Repr, Inhabited

/-- What the scanner is reading. -/
inductive State where
  /-- Text between tags, read as the current `Content` says. -/
  | text
  /-- A character reference in text, or in a value that is delimited like this. -/
  | reference (within : Option Delimiter) (read : Reference)
  /-- After `<`. -/
  | tagOpen
  /-- After `</`. -/
  | endTagOpen
  /-- In the name of a tag. -/
  | tagName
  /-- Between attributes. -/
  | beforeAttrName
  /-- In the name of an attribute. -/
  | attrName
  /-- After the name of an attribute. -/
  | afterAttrName
  /-- After the `=` of an attribute. -/
  | beforeAttrValue
  /-- In the value of an attribute. -/
  | attrValue (delimiter : Delimiter)
  /-- After the closing quote of a value. -/
  | afterAttrValue
  /-- After a `/` in a tag. -/
  | selfClosing
  /-- After `<` in text that ends at a matching end tag. -/
  | rawTagOpen
  /-- After `</` in such text. -/
  | rawEndTagOpen
  /-- In the name of an end tag in such text; the name as written, last character first. -/
  | rawEndTagName (reversed : List Char)
  /-- After `<!` in a script. -/
  | scriptMark
  /-- After `<!-` in a script. -/
  | scriptMarkDash
  /-- After a dash in the comment of a script. -/
  | scriptDash
  /-- After two dashes in the comment of a script. -/
  | scriptDashDash
  /-- In a tag name that may open an inner script; the name in lowercase, last character first. -/
  | innerScriptOpen (reversed : List Char)
  /-- In a tag name that may close an inner script; the name in lowercase, last character first. -/
  | innerScriptClose (reversed : List Char)
  /-- After `<!`, with what has been read of a known beginning, last character first. -/
  | declaration (reversed : List Char)
  /-- In something that is skipped up to the next `>`, as a comment or as a document type. -/
  | skipping (isComment : Bool)
  /-- After `<!--`. -/
  | commentStart
  /-- After `<!---`. -/
  | commentStartDash
  /-- In a comment. -/
  | comment
  /-- After a dash in a comment. -/
  | commentDash
  /-- After two dashes in a comment. -/
  | commentDashDash
  /-- After `--!` in a comment. -/
  | commentBang
  /-- In a character data section. -/
  | section
  /-- After a bracket in such a section. -/
  | sectionBracket
  /-- After two brackets in such a section. -/
  | sectionBrackets
deriving DecidableEq, Repr, Inhabited

/-- The scanner. The parts of a tag are kept with their last character, or last attribute,
first. -/
structure Scanner where
  /-- What is being read. -/
  state : State := .text
  /-- How the text between tags is read. -/
  content : Content := .markup
  /-- Where a script stands. -/
  script : ScriptDepth := .outside
  /-- The name of the last start tag, which ends raw text. -/
  lastStart : String := ""
  /-- The current tag is an end tag. -/
  isEnd : Bool := false
  /-- The name of the current tag. -/
  name : List Char := []
  /-- The complete attributes of the current tag. -/
  attrs : List Attribute := []
  /-- The name of the current attribute. -/
  attr : List Char := []
  /-- The value of the current attribute. -/
  value : List Char := []
deriving DecidableEq, Repr, Inhabited

namespace Scanner

/-- The replacement character stands for NUL in names and values. -/
def replacement : Char := '\ufffd'

/-- The NUL character. -/
def nul : Char := '\x00'

/-- A character of a name: in lowercase, NUL replaced. -/
def nameChar (c : Char) : Char :=
  if c = nul then replacement else c.toLower

/-- A character of a value: NUL replaced. -/
def valueChar (c : Char) : Char :=
  if c = nul then replacement else c

/-- White space within a tag. -/
def isTagSpace (c : Char) : Bool :=
  c == ' ' || c == '\t' || c == '\n' || c == '\x0c'

/-- Go to a state. -/
def goTo (s : Scanner) (state : State) : Scanner :=
  { s with state := state }

/-- The texts as tokens. -/
def chars (cs : List Char) : List Token :=
  cs.map Token.char

/-- Begin a tag whose name starts with `c`. -/
def beginTag (s : Scanner) (isEnd : Bool) (c : Char) (state : State) : Scanner :=
  { s with
    state := state, isEnd := isEnd, name := [c.toLower], attrs := [], attr := [], value := [] }

/-- Put the current attribute, if there is one, to the complete ones. Of two attributes with one
name the first stands. -/
def endAttr (s : Scanner) : Scanner :=
  if s.attr.isEmpty then s
  else
    let name := String.ofList s.attr.reverse
    let attrs :=
      if s.attrs.any (·.name == name) then s.attrs
      else ⟨name, String.ofList s.value.reverse⟩ :: s.attrs
    { s with attrs := attrs, attr := [], value := [] }

/-- Begin an attribute whose name starts with `c`. -/
def beginAttr (s : Scanner) (c : Char) : Scanner :=
  { s.endAttr with state := .attrName, attr := [nameChar c] }

/-- Append a character to the value of the current attribute. -/
def pushValue (s : Scanner) (c : Char) : Scanner :=
  { s with value := valueChar c :: s.value }

/-- **Complete the current tag.** Text after it is ordinary markup until the tree builder says
otherwise. -/
def endTag (s : Scanner) (selfClosing : Bool) : Scanner × List Token :=
  let s := s.endAttr
  let name := String.ofList s.name.reverse
  let after := { s with state := .text, content := .markup, script := .outside }
  if s.isEnd then (after, [.endTag name])
  else ({ after with lastStart := name }, [.startTag ⟨name, s.attrs.reverse⟩ selfClosing])

/-! ## Text -/

/-- A character in a script. -/
def stepScript (s : Scanner) (c : Char) : Scanner × List Token :=
  match s.script with
  | .outside => if c = '<' then (s.goTo .rawTagOpen, []) else (s, [.char (valueChar c)])
  | .inComment =>
    if c = '-' then (s.goTo .scriptDash, [.char c])
    else if c = '<' then (s.goTo .rawTagOpen, [])
    else (s, [.char (valueChar c)])
  | .inInnerScript =>
    if c = '-' then (s.goTo .scriptDash, [.char c])
    else if c = '<' then (s.goTo .rawTagOpen, [.char c])
    else (s, [.char (valueChar c)])

/-- A character of text between tags. -/
def stepText (s : Scanner) (c : Char) : Scanner × List Token :=
  let s := s.goTo .text
  match s.content with
  | .markup =>
    if c = '&' then (s.goTo (.reference none .start), [])
    else if c = '<' then (s.goTo .tagOpen, [])
    else if c = nul then (s, [.null])
    else (s, [.char c])
  | .plainWithReferences =>
    if c = '&' then (s.goTo (.reference none .start), [])
    else if c = '<' then (s.goTo .rawTagOpen, [])
    else (s, [.char (valueChar c)])
  | .raw => if c = '<' then (s.goTo .rawTagOpen, []) else (s, [.char (valueChar c)])
  | .script => s.stepScript c
  | .rest => (s, [.char (valueChar c)])

/-- Give some characters as text, then take `c` as text. -/
def textThen (s : Scanner) (before : List Char) (c : Char) : Scanner × List Token :=
  let (s, tokens) := s.stepText c
  (s, chars before ++ tokens)

/-! ## Tags -/

/-- A character between attributes. -/
def stepBeforeAttrName (s : Scanner) (c : Char) : Scanner × List Token :=
  if isTagSpace c then (s.goTo .beforeAttrName, [])
  else if c = '/' then (s.goTo .selfClosing, [])
  else if c = '>' then s.endTag false
  else (s.beginAttr c, [])

/-- A character in the name of a tag. -/
def stepTagName (s : Scanner) (c : Char) : Scanner × List Token :=
  if isTagSpace c then (s.goTo .beforeAttrName, [])
  else if c = '/' then (s.goTo .selfClosing, [])
  else if c = '>' then s.endTag false
  else ({ s with name := nameChar c :: s.name }, [])

/-- A character in the name of an attribute. -/
def stepAttrName (s : Scanner) (c : Char) : Scanner × List Token :=
  if isTagSpace c then (s.goTo .afterAttrName, [])
  else if c = '/' then (s.goTo .selfClosing, [])
  else if c = '=' then (s.goTo .beforeAttrValue, [])
  else if c = '>' then s.endTag false
  else ({ s with attr := nameChar c :: s.attr }, [])

/-- A character after the name of an attribute. -/
def stepAfterAttrName (s : Scanner) (c : Char) : Scanner × List Token :=
  if isTagSpace c then (s, [])
  else if c = '/' then (s.goTo .selfClosing, [])
  else if c = '=' then (s.goTo .beforeAttrValue, [])
  else if c = '>' then s.endTag false
  else (s.beginAttr c, [])

/-- A character in the value of an attribute. -/
def stepAttrValue (s : Scanner) (delimiter : Delimiter) (c : Char) : Scanner × List Token :=
  let s := s.goTo (.attrValue delimiter)
  if c = '&' then (s.goTo (.reference (some delimiter) .start), [])
  else
    match delimiter with
    | .double => if c = '"' then (s.goTo .afterAttrValue, []) else (s.pushValue c, [])
    | .single => if c = '\x27' then (s.goTo .afterAttrValue, []) else (s.pushValue c, [])
    | .space =>
      if isTagSpace c then (s.goTo .beforeAttrName, [])
      else if c = '>' then s.endTag false
      else (s.pushValue c, [])

/-- A character after the `=` of an attribute. -/
def stepBeforeAttrValue (s : Scanner) (c : Char) : Scanner × List Token :=
  if isTagSpace c then (s, [])
  else if c = '"' then (s.goTo (.attrValue .double), [])
  else if c = '\x27' then (s.goTo (.attrValue .single), [])
  else if c = '>' then s.endTag false
  else s.stepAttrValue .space c

/-- A character after `<`. -/
def stepTagOpen (s : Scanner) (c : Char) : Scanner × List Token :=
  if c = '!' then (s.goTo (.declaration []), [])
  else if c = '/' then (s.goTo .endTagOpen, [])
  else if c = '?' then (s.goTo (.skipping true), [])
  else if Text.isAsciiLetter c then (s.beginTag false c .tagName, [])
  else s.textThen ['<'] c

/-- A character after `</`. -/
def stepEndTagOpen (s : Scanner) (c : Char) : Scanner × List Token :=
  if c = '>' then (s.goTo .text, [])
  else if Text.isAsciiLetter c then (s.beginTag true c .tagName, [])
  else (s.goTo (.skipping true), [])

/-! ## Text that ends at a matching end tag -/

/-- A character after `<` in text that ends at a matching end tag. -/
def stepRawTagOpen (s : Scanner) (c : Char) : Scanner × List Token :=
  match s.script with
  | .inInnerScript =>
    if c = '/' then (s.goTo (.innerScriptClose []), [.char c]) else s.stepText c
  | .inComment =>
    if c = '/' then (s.goTo .rawEndTagOpen, [])
    else if Text.isAsciiLetter c then (s.goTo (.innerScriptOpen [c.toLower]), chars ['<', c])
    else s.textThen ['<'] c
  | .outside =>
    if c = '/' then (s.goTo .rawEndTagOpen, [])
    else if c = '!' && s.content == .script then (s.goTo .scriptMark, chars ['<', '!'])
    else s.textThen ['<'] c

/-- A character after `</` in such text. -/
def stepRawEndTagOpen (s : Scanner) (c : Char) : Scanner × List Token :=
  if Text.isAsciiLetter c then (s.beginTag true c (.rawEndTagName [c]), [])
  else s.textThen ['<', '/'] c

/-- A character in the name of an end tag in such text. Only the end tag that matches the last
start tag is one. -/
def stepRawEndTagName (s : Scanner) (reversed : List Char) (c : Char) : Scanner × List Token :=
  let isMatch := String.ofList s.name.reverse == s.lastStart
  if isMatch && isTagSpace c then (s.goTo .beforeAttrName, [])
  else if isMatch && c == '/' then (s.goTo .selfClosing, [])
  else if isMatch && c == '>' then s.endTag false
  else if Text.isAsciiLetter c then
    ({ s with name := c.toLower :: s.name, state := .rawEndTagName (c :: reversed) }, [])
  else s.textThen ('<' :: '/' :: reversed.reverse) c

/-- White space, a slash and `>` end a tag name. -/
def endsTagName (c : Char) : Bool :=
  isTagSpace c || c == '/' || c == '>'

/-- A character after one or two dashes in the comment of a script. -/
def stepScriptDash (s : Scanner) (two : Bool) (c : Char) : Scanner × List Token :=
  if c = '-' then (s.goTo .scriptDashDash, [.char c])
  else if two && c == '>' then ({ s with state := .text, script := .outside }, [.char c])
  else s.stepText c

/-- A character in a tag name within a script; at its end the name decides how deep the script
stands. -/
def stepInnerScript (s : Scanner) (opening : Bool) (reversed : List Char) (c : Char) :
    Scanner × List Token :=
  if endsTagName c then
    let isScript := String.ofList reversed.reverse == "script"
    let depth := if isScript == opening then ScriptDepth.inInnerScript else .inComment
    ({ s with state := .text, script := depth }, [.char c])
  else if Text.isAsciiLetter c then
    let name := c.toLower :: reversed
    (s.goTo (if opening then .innerScriptOpen name else .innerScriptClose name), [.char c])
  else s.stepText c

/-! ## Character references -/

/-- The characters of code points 128 to 159 as an old Western code page has them. -/
def oldCodePage : List Nat :=
  [0x20ac, 0x81, 0x201a, 0x0192, 0x201e, 0x2026, 0x2020, 0x2021, 0x02c6, 0x2030, 0x0160, 0x2039,
    0x0152, 0x8d, 0x017d, 0x8f, 0x90, 0x2018, 0x2019, 0x201c, 0x201d, 0x2022, 0x2013, 0x2014,
    0x02dc, 0x2122, 0x0161, 0x203a, 0x0153, 0x9d, 0x017e, 0x0178]

/-- The character that a number stands for. -/
def numbered (n : Nat) : Char :=
  if n = 0 then replacement
  else if 0x80 ≤ n ∧ n ≤ 0x9f then Char.ofNat ((oldCodePage[n - 0x80]?).getD n)
  else if n.isValidChar then Char.ofNat n
  else replacement

/-- The longest name without a semicolon at the start of `cs`, with what it stands for and the
characters after it. The first `n` characters are tried, then fewer. -/
def namedStart? (cs : List Char) : Nat → Option (List Char × List Char)
  | 0 => none
  | n + 1 =>
    let name := cs.take (n + 1)
    if endsWithoutSemicolon name then (named? name).map (·, cs.drop (n + 1))
    else namedStart? cs n

/-- **The characters of a named reference** whose letters and digits are `name` and which is
followed by `next`. In a value, a name without a semicolon stands for itself before a letter, a
digit or `=`. The answer says whether a semicolon that follows was used. -/
def resolveName (inValue : Bool) (name : List Char) (next : Option Char) : List Char × Bool :=
  match (if next == some ';' then named? name else none) with
  | some cs => (cs, true)
  | none =>
    match namedStart? name name.length with
    | some (cs, []) =>
      if inValue && next == some '=' then ('&' :: name, false) else (cs, false)
    | some (cs, rest) => if inValue then ('&' :: name, false) else (cs ++ rest, false)
    | none => ('&' :: name, false)

/-- Give characters to the text or to the value that holds the reference. -/
def give (s : Scanner) (within : Option Delimiter) (cs : List Char) : Scanner × List Token :=
  match within with
  | none => (s.goTo .text, chars cs)
  | some d => ({ s with state := .attrValue d, value := cs.reverse ++ s.value }, [])

/-- Give characters to the text or value and take `c` there. -/
def giveThen (s : Scanner) (within : Option Delimiter) (cs : List Char) (c : Char) :
    Scanner × List Token :=
  let (s, before) := s.give within cs
  let (s, tokens) := match within with
    | none => s.stepText c
    | some d => s.stepAttrValue d c
  (s, before ++ tokens)

/-- What has been read of a reference that turns out to be none. -/
def unread : Reference → List Char
  | .start => ['&']
  | .name reversed => '&' :: reversed.reverse
  | .number => ['&', '#']
  | .hexMark x => ['&', '#', x]
  | .digits _ _ => []

/-- A character in a reference. -/
def stepReference (s : Scanner) (within : Option Delimiter) (read : Reference) (c : Char) :
    Scanner × List Token :=
  match read with
  | .start =>
    if c = '#' then (s.goTo (.reference within .number), [])
    else if Text.isAsciiAlnum c then (s.goTo (.reference within (.name [c])), [])
    else s.giveThen within (unread read) c
  | .name reversed =>
    if Text.isAsciiAlnum c then (s.goTo (.reference within (.name (c :: reversed))), [])
    else
      match resolveName within.isSome reversed.reverse (some c) with
      | (cs, true) => s.give within cs
      | (cs, false) => s.giveThen within cs c
  | .number =>
    if c = 'x' || c = 'X' then (s.goTo (.reference within (.hexMark c)), [])
    else if Text.isAsciiDigit c then
      (s.goTo (.reference within (.digits false (Text.hexValue c))), [])
    else s.giveThen within (unread read) c
  | .hexMark _ =>
    if Text.isHexDigit c then (s.goTo (.reference within (.digits true (Text.hexValue c))), [])
    else s.giveThen within (unread read) c
  | .digits hex value =>
    if hex && Text.isHexDigit c then
      (s.goTo (.reference within (.digits hex (min (value * 16 + Text.hexValue c) 0x110000))), [])
    else if !hex && Text.isAsciiDigit c then
      (s.goTo (.reference within (.digits hex (min (value * 10 + Text.hexValue c) 0x110000))), [])
    else if c = ';' then s.give within [numbered value]
    else
      let (s, tokens) := s.giveThen within [numbered value] c
      (s, .remark :: tokens)

/-! ## Declarations and comments -/

/-- The beginnings that are known after `<!`, in lowercase. -/
def declarations (foreign : Bool) : List (List Char × State) :=
  [("--".toList, .commentStart), ("doctype".toList, .skipping false)] ++
    (if foreign then [("[CDATA[".toList, .section)] else [])

/-- The characters begin the known beginning; only the letters of the document type may be of
either case. -/
def beginsDeclaration (known read : List Char) : Bool :=
  if known == "doctype".toList then
    (Text.dropStartIgnoringCase? read known).isSome
  else (Text.dropStart? read known).isSome

/-- A character of something that is skipped up to the next `>`. -/
def stepSkipping (s : Scanner) (isComment : Bool) (c : Char) : Scanner × List Token :=
  if c = '>' then (s.goTo .text, [if isComment then .comment else .remark])
  else (s.goTo (.skipping isComment), [])

/-- A character after `<!`. -/
def stepDeclaration (s : Scanner) (foreign : Bool) (reversed : List Char) (c : Char) :
    Scanner × List Token :=
  let read := (c :: reversed).reverse
  match (declarations foreign).find? (beginsDeclaration ·.1 read) with
  | none => s.stepSkipping true c
  | some (known, state) =>
    if known.length = read.length then (s.goTo state, [])
    else (s.goTo (.declaration (c :: reversed)), [])

/-- A character in a comment; each dash brings its end nearer. -/
def stepComment (s : Scanner) (c : Char) : Scanner × List Token :=
  let closed : Scanner × List Token := (s.goTo .text, [.comment])
  match s.state with
  | .commentStart =>
    if c = '-' then (s.goTo .commentStartDash, [])
    else if c = '>' then closed
    else (s.goTo .comment, [])
  | .commentStartDash =>
    if c = '-' then (s.goTo .commentDashDash, [])
    else if c = '>' then closed
    else (s.goTo .comment, [])
  | .commentDash => (s.goTo (if c = '-' then .commentDashDash else .comment), [])
  | .commentDashDash =>
    if c = '>' then closed
    else if c = '!' then (s.goTo .commentBang, [])
    else if c = '-' then (s, [])
    else (s.goTo .comment, [])
  | .commentBang =>
    if c = '>' then closed
    else (s.goTo (if c = '-' then .commentDash else .comment), [])
  | _ => (s.goTo (if c = '-' then .commentDash else .comment), [])

/-- A character in a character data section. -/
def stepSection (s : Scanner) (c : Char) : Scanner × List Token :=
  let token : Token := if c = nul then .null else .char c
  match s.state with
  | .sectionBracket =>
    if c = ']' then (s.goTo .sectionBrackets, [])
    else (s.goTo .section, [.char ']', token])
  | .sectionBrackets =>
    if c = ']' then (s, [.char ']'])
    else if c = '>' then (s.goTo .text, [])
    else (s.goTo .section, [.char ']', .char ']', token])
  | _ => if c = ']' then (s.goTo .sectionBracket, []) else (s, [token])

/-! ## The whole scanner -/

/-- **Take one character.** `foreign` says that the innermost open element is not an HTML
element. -/
def step (s : Scanner) (foreign : Bool) (c : Char) : Scanner × List Token :=
  match s.state with
  | .text => s.stepText c
  | .reference within read => s.stepReference within read c
  | .tagOpen => s.stepTagOpen c
  | .endTagOpen => s.stepEndTagOpen c
  | .tagName => s.stepTagName c
  | .beforeAttrName => s.stepBeforeAttrName c
  | .attrName => s.stepAttrName c
  | .afterAttrName => s.stepAfterAttrName c
  | .beforeAttrValue => s.stepBeforeAttrValue c
  | .attrValue d => s.stepAttrValue d c
  | .afterAttrValue => s.stepBeforeAttrName c
  | .selfClosing => if c = '>' then s.endTag true else s.stepBeforeAttrName c
  | .rawTagOpen => s.stepRawTagOpen c
  | .rawEndTagOpen => s.stepRawEndTagOpen c
  | .rawEndTagName reversed => s.stepRawEndTagName reversed c
  | .scriptMark =>
    if c = '-' then (s.goTo .scriptMarkDash, [.char c]) else s.stepText c
  | .scriptMarkDash =>
    if c = '-' then ({ s with state := .scriptDashDash, script := .inComment }, [.char c])
    else s.stepText c
  | .scriptDash => s.stepScriptDash false c
  | .scriptDashDash => s.stepScriptDash true c
  | .innerScriptOpen reversed => s.stepInnerScript true reversed c
  | .innerScriptClose reversed => s.stepInnerScript false reversed c
  | .declaration reversed => s.stepDeclaration foreign reversed c
  | .skipping isComment => s.stepSkipping isComment c
  | .commentStart | .commentStartDash | .comment | .commentDash | .commentDashDash
  | .commentBang => s.stepComment c
  | .section | .sectionBracket | .sectionBrackets => s.stepSection c

/-- **The end of the input.** Unfinished tags are given up; what may be text is text. -/
def finish (s : Scanner) : List Token :=
  match s.state with
  | .reference none (.name reversed) => chars (resolveName false reversed.reverse none).1
  | .reference none (.digits _ value) => [.remark, .char (numbered value)]
  | .reference none read => chars (unread read)
  | .tagOpen => chars ['<']
  | .endTagOpen => chars ['<', '/']
  | .rawTagOpen => if s.script == .inInnerScript then [] else chars ['<']
  | .rawEndTagOpen => chars ['<', '/']
  | .rawEndTagName reversed => chars ('<' :: '/' :: reversed.reverse)
  | .sectionBracket => chars [']']
  | .sectionBrackets => chars [']', ']']
  | .declaration _ | .skipping true | .commentStart | .commentStartDash | .comment
  | .commentDash | .commentDashDash | .commentBang => [.comment]
  | _ => []

end Scanner

end ArticleMarkup.Html
