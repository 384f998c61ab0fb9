import ArticleMarkup.Text.Punctuation
import ArticleMarkup.Markdown.Inlines

/-!
# Emphasis

Runs of `*`, `_` and `~` are paired once all of a text, or all between two brackets, is read. Until
then the text is a sequence of items: finished pieces, runs that may still open or close a span, and
brackets that may still open a link.

## Main definitions

- `Run`, `Run.classify` — a run, and whether its neighbours let it open or close a span
- `Item` — a finished piece, a run or a bracket
- `Item.pair` — pair the runs from left to right
- `Item.resolve` — the finished content of a sequence of items

## Design notes

A closing run looks for the nearest run before it that can open a span with it. Two runs of which
one can both open and close do not match if their lengths add up to a multiple of three, unless
both lengths are multiples of three. Tildes match only if both runs are used up; the first two that
match otherwise end the search in the whole sequence.
-/

namespace ArticleMarkup.Markdown

/-- A run of one mark. -/
structure Run where
  /-- The mark. -/
  mark : Char
  /-- The marks that are left. -/
  count : Nat
  /-- The marks that the run had at first. -/
  length : Nat
  /-- The run may open a span. -/
  canOpen : Bool
  /-- The run may close a span. -/
  canClose : Bool
deriving DecidableEq, Repr

namespace Run

/-- The marks that are left, as text. -/
def text (r : Run) : String :=
  String.ofList (List.replicate r.count r.mark)

/-- The run between the characters `before` and `after` that consists of `n` marks. -/
def classify (mark : Char) (n : Nat) (before after : Char) : Run :=
  let blankBefore := Text.isBlankChar before
  let blankAfter := Text.isBlankChar after
  let punctBefore := Text.isPunctuation before
  let punctAfter := Text.isPunctuation after
  let left := !blankAfter && !(punctAfter && !blankBefore && !punctBefore)
  let right := !blankBefore && !(punctBefore && !blankAfter && !punctAfter)
  if mark = '_' then
    ⟨mark, n, n, left && (!right || punctBefore), right && (!left || punctAfter)⟩
  else
    ⟨mark, n, n, left, right⟩

/-- The run takes part in pairing: it can open or close, and is no run of three or more tildes. -/
def matters (r : Run) : Bool :=
  (r.canOpen || r.canClose) && !(r.mark == '~' && r.length > 2)

/-- The run can open a span that `closer` closes. -/
def opens (r closer : Run) : Bool :=
  r.canOpen && r.mark == closer.mark &&
    !((closer.canOpen || r.canClose) && (r.length + closer.length) % 3 == 0 &&
      !(r.length % 3 == 0 && closer.length % 3 == 0))

/-- The marks that two runs spend on one span. -/
def spent (opener closer : Run) : Nat :=
  if opener.count ≥ 2 ∧ closer.count ≥ 2 then 2 else 1

/-- The span that two runs make. -/
def spanOf (opener closer : Run) : Span :=
  if closer.mark = '~' then .strike
  else if spent opener closer = 1 then .emphasis else .strong

/-- The two runs may make a span: any two runs of stars or underscores, and tildes that both are
used up by it. -/
def fits (opener closer : Run) : Bool :=
  closer.mark != '~' || (opener.count == closer.count && opener.count == spent opener closer)

/-- The run after `n` of its marks are spent. -/
def spend (r : Run) (n : Nat) : Run :=
  { r with count := r.count - n }

end Run

/-- A part of a text that is being read. -/
inductive Item where
  /-- A piece without content. -/
  | leaf (piece : Leaf)
  /-- A span. -/
  | span (kind : Span) (content : Inlines)
  /-- A run of marks. -/
  | run (r : Run)
  /-- An opening bracket, of an image or else of a link; `after` is the text behind it, and
  `nested` says that another bracket has opened behind it. -/
  | bracket (image : Bool) (after : List Char) (nested : Bool)
deriving DecidableEq, Repr

namespace Item

/-- The text of an opening bracket. -/
def bracketText (image : Bool) : String :=
  if image then "![" else "["

/-- Put an item in front of finished content; what was not matched is text. -/
def onto (i : Item) (rest : Inlines) : Inlines :=
  match i with
  | leaf l => .leaf l rest
  | span k cs => .span k cs rest
  | run r => .leaf (.text r.text) rest
  | bracket image _ _ => .leaf (.text (bracketText image)) rest

/-- The content of items in reading order. -/
def finished (items : List Item) : Inlines :=
  items.foldr onto .nil

/-- Split items, the last first, at the nearest run that can open a span for `closer`: the items
behind it, the run, and the items before it. -/
def findOpener (closer : Run) : List Item → Option (List Item × Run × List Item)
  | [] => none
  | i :: before =>
    let further := (findOpener closer before).map fun (inner, r, rest) => (i :: inner, r, rest)
    match i with
    | run r => if r.opens closer then some ([], r, before) else further
    | _ => further

/-- What is left of a run, put before other items. -/
def remaining (r : Run) (items : List Item) : List Item :=
  if r.count = 0 then items else run r :: items

/-- An upper bound for the steps that pairing the items takes. -/
def work : List Item → Nat
  | [] => 0
  | run r :: items => r.count + 1 + work items
  | _ :: items => 1 + work items

/-- **Pair runs** from left to right. `done` holds the items that are passed, the last first; `fuel`
bounds the steps. -/
def pair : Nat → List Item → List Item → Inlines
  | 0, done, todo => finished (done.reverse ++ todo)
  | _ + 1, done, [] => finished done.reverse
  | fuel + 1, done, i :: todo =>
    match i with
    | run closer =>
      if closer.canClose then
        match findOpener closer done with
        | some (inner, opener, before) =>
          if opener.fits closer then
            let n := opener.spent closer
            let made := span (opener.spanOf closer) (finished inner.reverse)
            pair fuel (made :: remaining (opener.spend n) before) (remaining (closer.spend n) todo)
          else
            finished (done.reverse ++ i :: todo)
        | none =>
          if closer.canOpen then pair fuel (i :: done) todo
          else pair fuel (leaf (.text closer.text) :: done) todo
      else pair fuel (i :: done) todo
    | _ => pair fuel (i :: done) todo

/-- **The content of items** in reading order, with all runs paired. -/
def resolve (items : List Item) : Inlines :=
  pair (work items) [] items

end Item

end ArticleMarkup.Markdown
