/-!
# Blank text

White space in the sense of the `White_Space` property, and the removal of it at both ends of a
text. A text is *blank* when it holds nothing else.

## Main definitions

- `Text.isBlankChar` — the property of a character
- `Text.trim` — a text without its blank ends
- `Text.isBlank` — nothing is left after trimming
-/

namespace ArticleMarkup.Text

/-- **White space**: the twenty-five characters with the `White_Space` property. -/
def isBlankChar (c : Char) : Bool :=
  let n := c.toNat
  (0x09 ≤ n && n ≤ 0x0d) || n == 0x20 || n == 0x85 || n == 0xa0 || n == 0x1680 ||
    (0x2000 ≤ n && n ≤ 0x200a) || n == 0x2028 || n == 0x2029 || n == 0x202f || n == 0x205f ||
    n == 0x3000

/-- The characters after the blank ones at the front. -/
def trimStartChars (cs : List Char) : List Char :=
  cs.dropWhile isBlankChar

/-- The characters before the blank ones at the end. -/
def trimEndChars (cs : List Char) : List Char :=
  (cs.reverse.dropWhile isBlankChar).reverse

/-- The characters between the blank ones at both ends. -/
def trimChars (cs : List Char) : List Char :=
  trimEndChars (trimStartChars cs)

/-- A text without the blank characters at its two ends. -/
def trim (s : String) : String :=
  String.ofList (trimChars s.toList)

/-- Every character of the text is white space. -/
def isBlank (s : String) : Bool :=
  s.toList.all isBlankChar

end ArticleMarkup.Text
