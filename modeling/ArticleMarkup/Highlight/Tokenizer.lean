import ArticleMarkup.Highlight.Spans

/-!
# Tokenizers

A tokenizer reads the lines of some code and says where scopes begin and end in each of them, or
why it gave up.

## Main definitions

- `Tokenizer` — how one language is read
- `splitLines` — the lines of a text, each with its newline
- `Tokenizer.spans` — code as nested spans
-/

namespace ArticleMarkup.Highlight

/-- **A tokenizer**: the scope changes of each line, or why the code could not be read. A line that
it says nothing about has no changes. -/
abbrev Tokenizer := List (List Char) → Except String (List LineChanges)

/-- The lines of `cs`, where `line` holds the characters of a line already begun, last first. -/
def splitLinesFrom (line : List Char) : List Char → List (List Char)
  | [] => if line.isEmpty then [] else [line.reverse]
  | c :: cs =>
    if c = '\n' then (c :: line).reverse :: splitLinesFrom [] cs else splitLinesFrom (c :: line) cs

/-- The lines of a text. Each but the last ends in its newline, and none is empty. -/
def splitLines (source : String) : List (List Char) :=
  splitLinesFrom [] source.toList

/-- The pieces of several lines, from a given scope stack on. -/
def pieces (stack : ScopeStack) (changes : List LineChanges) :
    List (List Char) → Except ScopeError (List Piece)
  | [] => .ok []
  | line :: lines =>
    match linePieces line 0 stack (changes.headD []) with
    | .error e => .error e
    | .ok (here, stack) =>
      match pieces stack changes.tail lines with
      | .error e => .error e
      | .ok later => .ok (here ++ later)

/-- **Code as nested spans**, or why it could not be read. -/
def Tokenizer.spans (t : Tokenizer) (stem source : String) : Except String Forest :=
  let lines := splitLines source
  match t lines with
  | .error e => .error e
  | .ok changes =>
    match pieces {} changes lines with
    | .error e => .error e.message
    | .ok pieces => .ok (Highlight.spans stem pieces)

end ArticleMarkup.Highlight
