import ArticleMarkup.Text.Ascii

/-!
# The element budget

An upper bound, computed before parsing, on the number of elements that an HTML text can make.
Every start tag makes one element. Besides, each tag may make the parser open again every
formatting element that is still open, so unclosed `<b>` tags followed by many `<p>` tags make a
tree that grows with the product of both. An end tag takes a formatting element off this account
only if it names one that is open.

## Main definitions

- `Html.tagsOf` — the tags that begin at a `<`, wherever it stands
- `Html.elementEstimate` — the bound for a whole text
- `Html.Tally` — the counters that the check keeps
- `Html.checkBudget` — the running bound, compared with a limit

## Design notes

The estimate is told by the names of the formatting elements that are open. The check does not keep
these names: it counts them, for each formatting element and altogether.
-/

namespace ArticleMarkup.Html

/-- The elements that a parser opens again inside a new block until they are closed. -/
def formattingTags : List String :=
  ["a", "b", "big", "code", "em", "font", "i", "nobr", "s", "small", "strike", "strong", "tt", "u"]

/-- A tag as the budget sees it. -/
structure TagMark where
  /-- It is an end tag. -/
  closing : Bool
  /-- Its name in lowercase. -/
  name : String
deriving DecidableEq, Repr

/-- The tag that begins after a `<`, if a letter follows at once or after a `/`. -/
def tagMark? (cs : List Char) : Option TagMark :=
  let (closing, cs) :=
    match cs with
    | '/' :: rest => (true, rest)
    | _ => (false, cs)
  match cs with
  | c :: _ =>
    if Text.isAsciiLetter c then
      some ⟨closing, String.ofList ((cs.takeWhile Text.isAsciiAlnum).map Char.toLower)⟩
    else none
  | [] => none

/-- The tags of a text, in order. Every `<` is looked at, inside comments and raw text as well. -/
def tagsOf : List Char → List TagMark
  | [] => []
  | c :: cs => if c = '<' then (tagMark? cs).toList ++ tagsOf cs else tagsOf cs

/-- The largest number that the estimate takes. -/
def estimateCap : Nat := Nat.pow 2 64 - 1

/-- The estimate so far, and the formatting elements that are open. -/
structure Account where
  /-- The open formatting elements by name, each as often as it is open. -/
  unclosed : List String := []
  /-- The elements counted so far, at most `estimateCap`. -/
  estimate : Nat := 0
deriving DecidableEq, Repr

/-- Enter one tag into the account. -/
def Account.enter (account : Account) (tag : TagMark) : Account :=
  if tag.closing then
    let unclosed := account.unclosed.erase tag.name
    ⟨unclosed, min (account.estimate + unclosed.length) estimateCap⟩
  else
    let unclosed :=
      if formattingTags.contains tag.name then tag.name :: account.unclosed else account.unclosed
    ⟨unclosed, min (account.estimate + account.unclosed.length + 1) estimateCap⟩

/-- **The estimate** for a whole text. -/
def elementEstimate (html : String) : Nat :=
  ((tagsOf html.toList).foldl Account.enter {}).estimate

/-! ## The check -/

/-- The counters of the check. -/
structure Tally where
  /-- For each of `formattingTags`, the start tags that no end tag has released. -/
  unclosed : List Nat := formattingTags.map fun _ => 0
  /-- The start tags of all formatting elements that no end tag has released. -/
  openFormatting : Nat := 0
  /-- The elements counted so far, at most `estimateCap`. -/
  estimate : Nat := 0
deriving DecidableEq, Repr

/-- The place of the counter for a formatting element. -/
def slot? (name : String) : Option Nat :=
  formattingTags.idxOf? name

namespace Tally

/-- Count elements in the estimate. -/
def charge (tally : Tally) (elements : Nat) : Tally :=
  { tally with estimate := min (tally.estimate + elements) estimateCap }

/-- Count a formatting element that is opened. -/
def hold (tally : Tally) (slot : Nat) : Tally :=
  { tally with
    unclosed := tally.unclosed.modify slot (· + 1)
    openFormatting := tally.openFormatting + 1 }

/-- Release a formatting element, if one of its name is counted. -/
def release (tally : Tally) (slot : Nat) : Tally :=
  if 0 < tally.unclosed.getD slot 0 then
    { tally with
      unclosed := tally.unclosed.modify slot (· - 1)
      openFormatting := tally.openFormatting - 1 }
  else tally

/-- Count one tag. An end tag is counted after what it releases, a start tag before what it
opens. -/
def enter (tally : Tally) (tag : TagMark) : Tally :=
  if tag.closing then
    let tally :=
      match slot? tag.name with
      | some slot => tally.release slot
      | none => tally
    tally.charge tally.openFormatting
  else
    let tally' := tally.charge (tally.openFormatting + 1)
    match slot? tag.name with
    | some slot => tally'.hold slot
    | none => tally'

end Tally

/-- The first estimate above the limit while the tags are counted one by one. -/
def firstExcess? (limit : Nat) (tally : Tally) : List TagMark → Option Nat
  | [] => none
  | tag :: rest =>
    let tally := tally.enter tag
    if limit < tally.estimate then some tally.estimate else firstExcess? limit tally rest

/-- **The budget check**: the first running estimate above the limit, if there is one. -/
def checkBudget (html : String) (limit : Nat) : Option Nat :=
  firstExcess? limit {} (tagsOf html.toList)

end ArticleMarkup.Html
