import ArticleMarkup.Markdown.Inlines.Emphasis
import ArticleMarkup.Markdown.Inlines.Autolink

/-!
# Reading inline content

The text of a paragraph is read from left to right into items. A closing bracket turns the items
behind the nearest opening bracket into a link, an image or a footnote mark, if it can; at the end
the runs that are left are paired.

## Main definitions

- `Reader` — the items so far and the text passed
- `Reader.step` — read what begins with the next character
- `Reader.closeBracket` — what a closing bracket completes
- `inlinesOf` — the content of a text
-/

namespace ArticleMarkup.Markdown

/-- A text that is being read. -/
structure Reader where
  /-- The characters that are passed, the last first. -/
  before : List Char := []
  /-- The items, the last first. -/
  items : List Item := []
  /-- The last bracket was an opening one, so that no bare address is looked for. -/
  inBrackets : Bool := false
  /-- A link has been completed, and no bracket of a link has opened since. -/
  linked : Bool := false
deriving Repr

namespace Reader

/-- Add an item. -/
def add (r : Reader) (i : Item) : Reader :=
  { r with items := i :: r.items }

/-- Add a text. -/
def addText (r : Reader) (cs : List Char) : Reader :=
  r.add (.leaf (.text (String.ofList cs)))

/-- Pass the characters of `ahead` up to the suffix `rest`. -/
def pass (r : Reader) (ahead rest : List Char) : Reader :=
  { r with before := (upTo ahead rest).reverse ++ r.before }

/-! ## Code -/

/-- The longest run of backticks that can delimit code. -/
def maxBackticks : Nat := 80

/-- The code in front of the next run of exactly `n` backticks, and the text behind the run.
`run` counts the backticks just passed and `code` holds what came before them, the last first. -/
def codeEnd? (n run : Nat) (code : List Char) : List Char → Option (List Char × List Char)
  | [] => if run = n then some (code.reverse, []) else none
  | c :: cs =>
    if c = '\x60' then codeEnd? n (run + 1) code cs
    else if run = n then some (code.reverse, c :: cs)
    else codeEnd? n 0 (c :: (List.replicate run '\x60' ++ code)) cs

/-- Line ends become spaces. -/
def joinLines : List Char → List Char
  | [] => []
  | '\r' :: '\n' :: cs => ' ' :: joinLines cs
  | '\r' :: cs | '\n' :: cs => ' ' :: joinLines cs
  | c :: cs => c :: joinLines cs

/-- Code as it is meant: on one line, and without one space at each end if both ends have one and
the code is not all spaces. -/
def plainCode (cs : List Char) : List Char :=
  let joined := joinLines cs
  if joined.any (· != ' ') && joined.head? == some ' ' && joined.getLast? == some ' ' then
    (joined.drop 1).dropLast
  else joined

/-- Read code, given the text from its first backtick on. -/
def readCode (r : Reader) (ahead : List Char) : Reader × List Char :=
  let ticks := ahead.takeWhile (· == '\x60')
  let behind := ahead.drop ticks.length
  let found := if ticks.length ≤ maxBackticks then codeEnd? ticks.length 0 [] behind else none
  match found with
  | some (code, rest) =>
    ((r.add (.leaf (.code (String.ofList (plainCode code))))).pass ahead rest, rest)
  | none => ((r.addText ticks).pass ahead behind, behind)

/-! ## Breaks, escapes and references -/

/-- Read a line end, given the text from it on. -/
def readBreak (r : Reader) (ahead : List Char) : Reader × List Char :=
  let rest := skipBlanks ((lineEnd? ahead).getD ahead)
  let hard := Text.dropStart? [' ', ' '] r.before |>.isSome
  ((r.add (.leaf (.lineBreak hard))).pass ahead rest, rest)

/-- Read a backslash, given the text behind it. -/
def readBackslash (r : Reader) (cs : List Char) : Reader × List Char :=
  match cs with
  | [] => (r.addText ['\\'], [])
  | c :: rest =>
    if Text.isAsciiPunctuation c then ((r.addText [c]).pass cs rest, rest)
    else
      match lineEnd? cs with
      | some rest =>
        let rest := skipBlanks rest
        ((r.add (.leaf (.lineBreak true))).pass cs rest, rest)
      | none => (r.addText ['\\'], cs)

/-- Read an ampersand, given the text behind it. -/
def readAmpersand (r : Reader) (cs : List Char) : Reader × List Char :=
  match reference? cs with
  | some (image, rest) => ((r.addText image).pass cs rest, rest)
  | none => (r.addText ['&'], cs)

/-- A link whose text is its own address. -/
def addressLink (scheme : String) (cs : List Char) : Item :=
  let decoded := String.ofList (decodeReferences cs)
  .span (.link ⟨scheme ++ decoded, ""⟩) (.leaf (.text decoded) .nil)

/-- Read an opening angle bracket, given the text behind it. -/
def readAngle (r : Reader) (cs : List Char) : Reader × List Char :=
  match pointedUri? cs with
  | some (uri, rest) => ((r.add (addressLink "" uri)).pass cs rest, rest)
  | none =>
    match pointedMail? cs with
    | some (mail, rest) => ((r.add (addressLink "mailto:" mail)).pass cs rest, rest)
    | none =>
      match inlineHtml? cs with
      | some rest =>
        ((r.add (.leaf (.html (String.ofList ('<' :: upTo cs rest))))).pass cs rest, rest)
      | none => (r.addText ['<'], cs)

/-! ## Runs -/

/-- Read a run of marks, given the text from its first mark on. Tildes next to the run are looked
through when its neighbours are judged. -/
def readRun (r : Reader) (mark : Char) (ahead : List Char) : Reader × List Char :=
  let n := (ahead.takeWhile (· == mark)).length
  let rest := ahead.drop n
  let neighbour (cs : List Char) : Char := (cs.dropWhile (· == '~')).headD '\n'
  let run := Run.classify mark n (neighbour r.before) (neighbour rest)
  let item := if run.matters then .run run else .leaf (.text run.text)
  ((r.add item).pass ahead rest, rest)

/-! ## Brackets -/

/-- Note in the nearest bracket that another one has opened behind it. -/
def nest : List Item → List Item
  | [] => []
  | .bracket image after _ :: items => .bracket image after true :: items
  | i :: items => i :: nest items

/-- Open a bracket, given the text behind it. -/
def openBracket (r : Reader) (image : Bool) (after : List Char) : Reader :=
  { r with
    items := .bracket image after false :: nest r.items
    inBrackets := true
    linked := r.linked && image }

/-- An opening bracket with the items around it, the last first. -/
structure Enclosed where
  /-- The items behind the bracket. -/
  inner : List Item
  /-- The bracket is that of an image. -/
  image : Bool
  /-- The text behind the bracket. -/
  after : List Char
  /-- Another bracket has opened behind it. -/
  nested : Bool
  /-- The items before the bracket. -/
  outer : List Item

/-- Split items at the nearest bracket. -/
def enclosed? : List Item → Option Enclosed
  | [] => none
  | .bracket image after nested :: outer => some ⟨[], image, after, nested, outer⟩
  | i :: items => (enclosed? items).map fun e => { e with inner := i :: e.inner }

/-- The target in parentheses behind a closing bracket, and the text behind it. -/
def inlineTarget? (cs : List Char) : Option (Target × List Char) :=
  match cs with
  | '(' :: rest =>
    match linkTarget? (rest.dropWhile isSpace) with
    | none => none
    | some (url, behind) =>
      let ahead := behind.dropWhile isSpace
      let afterTitle :=
        if ahead.length = behind.length then ahead else (linkTitle? ahead).getD ahead
      match afterTitle.dropWhile isSpace with
      | ')' :: rest => some (⟨cleanTarget url, cleanTitle (upTo ahead afterTitle)⟩, rest)
      | _ => none
  | _ => none

/-- The target that the text in the brackets, or a label behind them, refers to, and the text
behind. -/
def referredTarget? (refs : References) (e : Enclosed) (cs : List Char) :
    Option (Target × List Char) :=
  let own := upTo e.after (']' :: cs)
  let look (label : List Char) (rest : List Char) : Option (Target × List Char) :=
    (refs.find? (foldLabel label)).map (·, rest)
  match linkLabel? cs with
  | some (label, rest) =>
    if !label.isEmpty then look label rest else if e.nested then none else look own rest
  | none => if e.nested then none else look own cs

/-- **A closing bracket**, given the text behind it. -/
def closeBracket (refs : References) (r : Reader) (cs : List Char) : Reader × List Char :=
  let r := { r with inBrackets := false }
  match enclosed? r.items with
  | none => (r.addText [']'], cs)
  | some e =>
    let leftAsText : Reader :=
      { r with
        items := .leaf (.text "]") ::
          (e.inner ++ .leaf (.text (Item.bracketText e.image)) :: e.outer) }
    if !e.image && r.linked then (leftAsText, cs)
    else
      match (inlineTarget? cs).or (referredTarget? refs e cs) with
      | some (target, rest) =>
        let content := Item.resolve e.inner.reverse
        let kind := if e.image then Span.image target else Span.link target
        (({ r with
            items := .span kind content :: e.outer
            linked := r.linked || !e.image }).pass cs rest, rest)
      | none =>
        let content := Item.finished e.inner.reverse
        let label := String.ofList (content.noteLabel.toList.drop 1)
        if content.beginsWith '^' && !label.isEmpty then
          ({ r with items := .leaf (.noteMark label) :: e.outer }, cs)
        else (leftAsText, cs)

/-! ## Text -/

/-- A character that can begin something other than text. -/
def isSpecial (c : Char) : Bool :=
  "\n\r!&*:<[\\]_w~\x60".toList.contains c

/-- Read text, given the text from its first character on. White space in front of a line end does
not count, nor does white space behind a hard break. -/
def readText (r : Reader) (ahead : List Char) : Reader × List Char :=
  let run := ahead.takeWhile (!isSpecial ·)
  let rest := ahead.drop run.length
  let trimmed :=
    match rest with
    | '\n' :: _ | '\r' :: _ => trimRight run
    | _ => run
  let trimmed :=
    match r.items with
    | .leaf (.lineBreak true) :: _ => trimmed.dropWhile isSpace
    | _ => trimmed
  ({ r.addText trimmed with before := run.reverse ++ r.before }, rest)

/-- Take back the last `n` characters of text. -/
def dropText : Nat → List Item → List Item
  | 0, items => items
  | n, .leaf (.text s) :: items =>
    .leaf (.text (String.ofList (s.toList.take (s.length - n)))) :: items
  | _, items => items

/-- Read a bare address if there is one at this place, which no bracket may enclose, and else the
character as text. `ahead` is the text from the character on. -/
def readAddress (r : Reader) (find : List Char → List Char → Option FoundLink) (c : Char)
    (ahead : List Char) : Reader × List Char :=
  match if r.inBrackets then none else find r.before ahead with
  | some l =>
    let link := Item.span (.link l.target) l.content
    (({ r with items := link :: dropText l.back r.items }).pass ahead l.behind, l.behind)
  | none => ({ r.addText [c] with before := c :: r.before }, ahead.drop 1)

/-! ## The whole text -/

/-- **Read** what begins with the character `c`, which `cs` follows. -/
def step (refs : References) (r : Reader) (c : Char) (cs : List Char) : Reader × List Char :=
  let passed := { r with before := c :: r.before }
  match c with
  | '\n' | '\r' => r.readBreak (c :: cs)
  | '\x60' => r.readCode (c :: cs)
  | '\\' => passed.readBackslash cs
  | '&' => passed.readAmpersand cs
  | '<' => passed.readAngle cs
  | '*' | '_' | '~' => r.readRun c (c :: cs)
  | '[' => (passed.openBracket false cs, cs)
  | ']' => closeBracket refs passed cs
  | '!' =>
    match cs with
    | '[' :: '^' :: _ => (passed.addText ['!'], cs)
    | '[' :: rest => (({ passed with before := '[' :: passed.before }).openBracket true rest, rest)
    | _ => (passed.addText ['!'], cs)
  | ':' => r.readAddress schemeLink? c (c :: cs)
  | 'w' => r.readAddress webLink? c (c :: cs)
  | _ => r.readText (c :: cs)

/-- Read all of a text; `fuel` bounds the steps. -/
def run (refs : References) : Nat → Reader → List Char → Reader
  | 0, r, _ => r
  | _ + 1, r, [] => r
  | fuel + 1, r, c :: cs =>
    let (r, rest) := r.step refs c cs
    run refs fuel r rest

end Reader

/-- **The content of a text**, where `refs` holds the targets of labels. -/
def inlinesOf (refs : References) (text : List Char) : Inlines :=
  let text := trimRight text
  Item.resolve (Reader.run refs text.length {} text).items.reverse

end ArticleMarkup.Markdown
