import ArticleMarkup.Table
import ArticleMarkup.Text.Blank
import ArticleMarkup.Text.Folding
import ArticleMarkup.Markdown.Escape
import ArticleMarkup.Markdown.RawHtml

/-!
# Link targets and reference definitions

A link says where it leads either behind its text, in parentheses, or through a label that is
defined elsewhere: `[label]: target "title"`. Definitions stand at the start of a paragraph, and of
two definitions of one label the first counts.

## Main definitions

- `bareTarget?`, `pointedTarget?`, `linkTitle?`, `linkLabel?` — the parts of links and definitions
- `foldLabel` — labels that differ in case and spacing only are the same
- `definition?` — a definition at the front of a text
- `takeDefinitions` — all definitions at the front, and the text behind them
-/

namespace ArticleMarkup.Markdown

/-- Where a link leads. -/
structure Target where
  /-- The address. -/
  url : String
  /-- The title, empty if there is none. -/
  title : String
deriving DecidableEq, Repr

/-- The most open parentheses in an address. -/
def maxOpenParens : Nat := 32

/-- An address without brackets around it: the text behind it, or nothing if its parentheses do not
match. It ends in front of white space, a control character or a parenthesis that was not opened
in it. -/
def bareTarget? (parens : Nat) : List Char → Option (List Char)
  | [] => if parens = 0 then some [] else none
  | '\\' :: c :: cs =>
    if Text.isAsciiPunctuation c then bareTarget? parens cs else bareTarget? parens (c :: cs)
  | c :: cs =>
    if c = '(' then if parens < maxOpenParens then bareTarget? (parens + 1) cs else none
    else if c = ')' then
      match parens with
      | 0 => some (c :: cs)
      | n + 1 => bareTarget? n cs
    else if isSpace c || c.toNat < 0x20 || c.toNat == 0x7f then
      if parens = 0 then some (c :: cs) else none
    else bareTarget? parens cs

/-- The text behind an address in angle brackets whose `<` is passed. Some text must follow. -/
def pointedTarget? : List Char → Option (List Char)
  | '\\' :: _ :: cs => pointedTarget? cs
  | c :: cs =>
    if c = '>' then if cs.isEmpty then none else some cs
    else if c = '<' || c = '\n' || c = '\r' then none
    else pointedTarget? cs
  | [] => none

/-- **A link's address**: its characters, without brackets, and the text behind it. -/
def linkTarget? (cs : List Char) : Option (List Char × List Char) :=
  match cs with
  | '<' :: rest => (pointedTarget? rest).map fun behind => ((upTo rest behind).dropLast, behind)
  | cs => (bareTarget? 0 cs).map fun behind => (upTo cs behind, behind)

/-- The text behind the last place where a title in the given marks can end. It ends at a mark that
no backslash precedes, or else at the last mark. -/
def titleEnd? (opening closing : Char) (escaped : Bool) (last : Option (List Char)) :
    List Char → Option (List Char)
  | [] => last
  | c :: cs =>
    if c = closing then
      if escaped then titleEnd? opening closing false (some cs) cs else some cs
    else if c = opening && !escaped then last
    else titleEnd? opening closing (c == '\\') last cs

/-- **A link's title**, in quotes or parentheses: the text behind it. -/
def linkTitle? (cs : List Char) : Option (List Char) :=
  match cs with
  | '"' :: rest => titleEnd? '"' '"' false none rest
  | '\'' :: rest => titleEnd? '\'' '\'' false none rest
  | '(' :: rest => titleEnd? '(' ')' false none rest
  | _ => none

/-- The longest label in bytes. -/
def maxLabelBytes : Nat := 1000

/-- The text from the closing bracket of a label on, if no other bracket comes first. -/
def labelEnd? : List Char → Option (List Char)
  | '\\' :: c :: cs =>
    if Text.isAsciiPunctuation c then labelEnd? cs else labelEnd? (c :: cs)
  | c :: cs => if c = ']' then some (c :: cs) else if c = '[' then none else labelEnd? cs
  | [] => none

/-- **A label** in brackets: its characters and the text behind it. -/
def linkLabel? (cs : List Char) : Option (List Char × List Char) :=
  match cs with
  | '[' :: rest =>
    match labelEnd? rest with
    | some behind =>
      let label := upTo rest behind
      if (String.ofList label).utf8ByteSize > maxLabelBytes then none
      else some (trimBoth label, behind.drop 1)
    | none => none
  | _ => none

/-- Write each run of white space as one space. -/
def joinBlanks (afterBlank : Bool) : List Char → List Char
  | [] => []
  | c :: cs =>
    if Text.isBlankChar c then
      if afterBlank then joinBlanks true cs else ' ' :: joinBlanks true cs
    else c :: joinBlanks false cs

/-- A label without the white space at its ends, with single spaces inside. -/
def plainLabel (cs : List Char) : List Char :=
  joinBlanks false (trimBoth cs)

/-- **A folded label**: two labels mean the same if their folded forms are equal. -/
def foldLabel (cs : List Char) : String :=
  String.ofList ((plainLabel cs).flatMap Text.fold)

/-! ## Definitions -/

/-- The text behind spaces and tabs. -/
def skipBlanks (cs : List Char) : List Char :=
  cs.dropWhile isSpaceOrTab

/-- The text behind a line end, which the end of the text is too. -/
def lineEnd? (cs : List Char) : Option (List Char) :=
  match cs with
  | [] => some []
  | '\r' :: '\n' :: cs | '\r' :: cs | '\n' :: cs => some cs
  | _ => none

/-- The text behind spaces and tabs with at most one line end among them. -/
def skipBlankLine (cs : List Char) : List Char :=
  let cs := skipBlanks cs
  match lineEnd? cs with
  | some rest => skipBlanks rest
  | none => cs

/-- **A definition** at the front of a text: the label, the target, and the text behind. The title
must be the last thing on its line; where it is not, the definition has none. -/
def definition? (cs : List Char) : Option (List Char × Target × List Char) :=
  match linkLabel? cs with
  | some (label, ':' :: rest) =>
    if label.isEmpty then none
    else
      let rest := skipBlankLine rest
      if rest.isEmpty then none
      else
        match linkTarget? rest with
        | none => none
        | some (url, behind) =>
          let target (title : List Char) : Target := ⟨cleanTarget url, cleanTitle title⟩
          let untitled :=
            (lineEnd? (skipBlanks behind)).map fun rest => (label, target [], rest)
          let ahead := skipBlankLine behind
          if ahead.length = behind.length then untitled
          else
            match linkTitle? ahead with
            | none => untitled
            | some afterTitle =>
              match lineEnd? (skipBlanks afterTitle) with
              | some rest => some (label, target (upTo ahead afterTitle), rest)
              | none => untitled
  | _ => none

/-- The targets of the labels, under their folded forms. -/
abbrev References := Table Target

/-- Take up a definition, unless the label is defined. -/
def References.define (refs : References) (label : List Char) (target : Target) : References :=
  let key := foldLabel label
  if key.isEmpty || refs.has key then refs else refs.insert key target

/-- **Take the definitions** at the front of a text; `fuel` bounds their number. -/
def takeDefinitionsFrom : Nat → References → List Char → References × List Char
  | 0, refs, cs => (refs, cs)
  | fuel + 1, refs, cs =>
    match definition? cs with
    | some (label, target, rest) => takeDefinitionsFrom fuel (refs.define label target) rest
    | none => (refs, cs)

/-- The definitions at the front of a text, and the text behind them. -/
def takeDefinitions (refs : References) (cs : List Char) : References × List Char :=
  takeDefinitionsFrom cs.length refs cs

end ArticleMarkup.Markdown
