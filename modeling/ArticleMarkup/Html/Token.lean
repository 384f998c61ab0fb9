import ArticleMarkup.Tag

/-!
# HTML tokens

What the scanner hands to the tree builder, and how the builder steers the scanner.
-/

namespace ArticleMarkup.Html

/-- A token of an HTML text. -/
inductive Token where
  /-- A character of text. -/
  | char (c : Char)
  /-- A NUL character where the surroundings decide what becomes of it. -/
  | null
  /-- A start tag, with the mark of one that closes itself. -/
  | startTag (tag : Tag) (selfClosing : Bool)
  /-- An end tag. -/
  | endTag (name : String)
  /-- A comment. Its content is of no use here. -/
  | comment
  /-- A document type, or a mistake that is worth a report; it makes no node. -/
  | remark
deriving DecidableEq, Repr, Inhabited

/-- How the text between tags is read. -/
inductive Content where
  /-- Ordinary markup. -/
  | markup
  /-- Text with character references, up to the matching end tag. -/
  | plainWithReferences
  /-- Text up to the matching end tag. -/
  | raw
  /-- A script, where comments can hide an end tag. -/
  | script
  /-- Text up to the end of the input. -/
  | rest
deriving DecidableEq, Repr, Inhabited

end ArticleMarkup.Html
