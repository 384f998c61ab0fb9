/-!
# ASCII text

Case folding, character classes and word splitting that look at ASCII only. Tag names, attribute
names, class lists and value lists are all compared by these rules, so a letter outside ASCII is
never folded and never separates two words.

## Main definitions

- `Text.lowerAscii` — fold `A` to `Z`, leave every other character alone
- `Text.sameIgnoringCase` — equality up to `lowerAscii`
- `Text.words` — split at runs of ASCII white space
-/

namespace ArticleMarkup.Text

/-- **ASCII white space**: space, tab, line feed, form feed and carriage return. -/
def isAsciiSpace (c : Char) : Bool :=
  c == ' ' || c == '\t' || c == '\n' || c == '\x0c' || c == '\r'

/-- A letter `a` to `z` or `A` to `Z`. -/
def isAsciiLetter (c : Char) : Bool :=
  ('a' ≤ c && c ≤ 'z') || ('A' ≤ c && c ≤ 'Z')

/-- A digit `0` to `9`. -/
def isAsciiDigit (c : Char) : Bool :=
  '0' ≤ c && c ≤ '9'

/-- A letter or a digit. -/
def isAsciiAlnum (c : Char) : Bool :=
  isAsciiLetter c || isAsciiDigit c

/-- A hexadecimal digit of either case. -/
def isHexDigit (c : Char) : Bool :=
  isAsciiDigit c || ('a' ≤ c && c ≤ 'f') || ('A' ≤ c && c ≤ 'F')

/-- The printable ASCII characters that are neither letters, digits nor the space. -/
def isAsciiPunctuation (c : Char) : Bool :=
  ('!' ≤ c && c ≤ '/') || (':' ≤ c && c ≤ '@') || ('[' ≤ c && c ≤ '\x60') || ('\x7b' ≤ c && c ≤ '~')

/-- The value of a hexadecimal digit; zero for any other character. -/
def hexValue (c : Char) : Nat :=
  if isAsciiDigit c then c.toNat - '0'.toNat
  else if 'a' ≤ c && c ≤ 'f' then c.toNat - 'a'.toNat + 10
  else if 'A' ≤ c && c ≤ 'F' then c.toNat - 'A'.toNat + 10
  else 0

/-- Fold `A` to `Z` and leave all other characters as they are. -/
def lowerAscii (s : String) : String :=
  String.ofList (s.toList.map Char.toLower)

/-- Fold `a` to `z` and leave all other characters as they are. -/
def upperAscii (s : String) : String :=
  String.ofList (s.toList.map Char.toUpper)

/-- Two texts are the same once the letters `A` to `Z` are folded. -/
def sameIgnoringCase (a b : String) : Bool :=
  lowerAscii a == lowerAscii b

/-- The words of `cs`, where `word` holds the characters of a word already begun, last first. -/
def wordsFrom (word : List Char) : List Char → List (List Char)
  | [] => if word.isEmpty then [] else [word.reverse]
  | c :: cs =>
    if isAsciiSpace c then
      if word.isEmpty then wordsFrom [] cs else word.reverse :: wordsFrom [] cs
    else
      wordsFrom (c :: word) cs

/-- **Words**: the maximal runs of characters other than ASCII white space, in order. -/
def words (s : String) : List String :=
  (wordsFrom [] s.toList).map String.ofList

/-- `cs` without the characters of `start` at its front, if it begins with them. -/
def dropStart? (start cs : List Char) : Option (List Char) :=
  match start, cs with
  | [], cs => some cs
  | _ :: _, [] => none
  | p :: ps, c :: cs => if p = c then dropStart? ps cs else none

/-- `cs` without the characters of `start` at its front, letters compared without case. -/
def dropStartIgnoringCase? (start cs : List Char) : Option (List Char) :=
  match start, cs with
  | [], cs => some cs
  | _ :: _, [] => none
  | p :: ps, c :: cs => if p.toLower = c.toLower then dropStartIgnoringCase? ps cs else none

/-- The text begins with `start`. -/
def startsWith (s start : String) : Bool :=
  (dropStart? start.toList s.toList).isSome

/-- Put `separator` between the texts. -/
def joinWith (separator : String) (texts : List String) : String :=
  separator.intercalate texts

end ArticleMarkup.Text
