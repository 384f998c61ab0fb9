import ArticleMarkup.Html.NamedCharacters
import ArticleMarkup.Markdown.Line

/-!
# Escapes

A character reference stands for characters, as in HTML, but always ends with a semicolon. A
backslash takes its meaning from an ASCII punctuation mark behind it. Link targets, link titles
and the words after a code fence are written with both.

## Main definitions

- `reference?` — a character reference after its `&`
- `decodeReferences`, `dropBackslashes` — all of a text
- `cleanTarget`, `cleanTitle`, `cleanInfo` — the written forms of targets, titles and fence words
-/

namespace ArticleMarkup.Markdown

/-- The value of digits in the given base, at most `0x110000`. -/
def cappedValue (base : Nat) (digits : List Char) : Nat :=
  digits.foldl (fun n c => min (n * base + Text.hexValue c) 0x110000) 0

/-- The character with a number; zero, surrogates and numbers beyond Unicode give the replacement
character. -/
def numberedChar (n : Nat) : Char :=
  if n = 0 ∨ (0xd800 ≤ n ∧ n ≤ 0xdfff) ∨ n ≥ 0x110000 then '\ufffd' else Char.ofNat n

/-- A number with at most `limit` digits and a semicolon. -/
def number? (isDigit : Char → Bool) (base limit : Nat) (cs : List Char) :
    Option (List Char × List Char) :=
  let digits := cs.takeWhile isDigit
  if digits.isEmpty || digits.length > limit then none
  else
    match cs.drop digits.length with
    | ';' :: rest => some ([numberedChar (cappedValue base digits)], rest)
    | _ => none

/-- A name of two to thirty-one characters and a semicolon. -/
def name? (cs : List Char) : Option (List Char × List Char) :=
  let name := (cs.take 32).takeWhile (· != ';')
  if name.length < 2 then none
  else
    match cs.drop name.length with
    | ';' :: rest => (Html.named? name).map (·, rest)
    | _ => none

/-- **A character reference** after its `&`: the characters it stands for, and the rest. -/
def reference? (cs : List Char) : Option (List Char × List Char) :=
  match cs with
  | '#' :: 'x' :: cs | '#' :: 'X' :: cs => number? Text.isHexDigit 16 6 cs
  | '#' :: cs => number? Text.isAsciiDigit 10 7 cs
  | cs => name? cs

/-- Decode the character references; `fuel` bounds their number plus that of other characters. -/
def decodeReferencesFrom : Nat → List Char → List Char
  | 0, cs => cs
  | _ + 1, [] => []
  | fuel + 1, c :: cs =>
    if c = '&' then
      match reference? cs with
      | some (image, rest) => image ++ decodeReferencesFrom fuel rest
      | none => c :: decodeReferencesFrom fuel cs
    else
      c :: decodeReferencesFrom fuel cs

/-- Decode all character references. -/
def decodeReferences (cs : List Char) : List Char :=
  decodeReferencesFrom cs.length cs

/-- Remove the backslashes in front of ASCII punctuation. -/
def dropBackslashes : List Char → List Char
  | '\\' :: c :: cs =>
    if Text.isAsciiPunctuation c then c :: dropBackslashes cs
    else '\\' :: dropBackslashes (c :: cs)
  | c :: cs => c :: dropBackslashes cs
  | [] => []

/-- The target that is written as `cs`. -/
def cleanTarget (cs : List Char) : String :=
  String.ofList (dropBackslashes (decodeReferences (trimBoth cs)))

/-- The title that is written as `cs`, with its quotes or parentheses. -/
def cleanTitle (cs : List Char) : String :=
  let inner :=
    match cs.head?, cs.getLast? with
    | some '\'', some '\'' | some '"', some '"' | some '(', some ')' => (cs.drop 1).dropLast
    | _, _ => cs
  String.ofList (dropBackslashes (decodeReferences inner))

/-- The words after a code fence that are written as `cs`. -/
def cleanInfo (cs : List Char) : String :=
  String.ofList (dropBackslashes (trimBoth (decodeReferences cs)))

end ArticleMarkup.Markdown
