import ArticleMarkup.Text.Alphanumeric
import ArticleMarkup.Text.Blank
import ArticleMarkup.Text.Lowercase

/-!
# Regular expressions

The expressions by which grammars find their tokens, with groups, looking ahead and behind, and
references to what a group has matched.

## Main definitions

- `CharSet`, `Regex` — sets of characters, and expressions
- `Regex.run` — match at one place
- `Regex.find?` — the first place where an expression matches

## Design notes

Matching tries alternatives in their order and goes back when what follows fails. `run` is given
what follows as a function, so that it recurses on the expression alone; only repetition counts
steps, and there cannot be more of them than characters.
-/

namespace ArticleMarkup.Highlight.Grammar

/-- **A set of characters.** -/
inductive CharSet where
  /-- All characters. -/
  | all
  /-- The characters between two, ends included. -/
  | range (first last : Char)
  /-- Letters, numbers and the underscore. -/
  | word
  /-- Decimal digits. -/
  | digit
  /-- White space. -/
  | space
  /-- Hexadecimal digits. -/
  | hex
  /-- All characters but those of a set. -/
  | except (set : CharSet)
  /-- The characters of either set. -/
  | union (a b : CharSet)
  /-- The characters of both sets. -/
  | inter (a b : CharSet)
deriving DecidableEq, Repr, Inhabited

/-- A letter, a number or the underscore. -/
def isWordChar (c : Char) : Bool :=
  Text.isAlphanumeric c || c == '_'

/-- The character lies in the set. -/
def CharSet.holds (c : Char) : CharSet → Bool
  | .all => true
  | .range first last => first ≤ c && c ≤ last
  | .word => isWordChar c
  | .digit => Text.isAsciiDigit c
  | .space => Text.isBlankChar c
  | .hex => Text.isHexDigit c
  | .except s => !s.holds c
  | .union a b => a.holds c || b.holds c
  | .inter a b => a.holds c && b.holds c

/-- A place between two characters. -/
inductive Anchor where
  /-- The start of a line. -/
  | lineStart
  /-- The end of a line. -/
  | lineEnd
  /-- The start of the text. -/
  | textStart
  /-- The end of the text. -/
  | textEnd
  /-- The end of the text or of its last line. -/
  | lastLineEnd
  /-- Between a word and something else. -/
  | wordEdge
  /-- Not there. -/
  | noWordEdge
deriving DecidableEq, Repr

/-- How a repetition is tried. -/
inductive Greed where
  /-- As often as possible first. -/
  | greedy
  /-- As seldom as possible first. -/
  | lazy
  /-- As often as possible, and never less. -/
  | possessive
deriving DecidableEq, Repr

/-- **A regular expression.** -/
inductive Regex where
  /-- The empty text. -/
  | empty
  /-- One character of a set; `fold` says that its case does not matter. -/
  | one (set : CharSet) (fold : Bool)
  /-- One after the other. -/
  | seq (a b : Regex)
  /-- One or the other. -/
  | alt (a b : Regex)
  /-- A group with a number. -/
  | group (number : Nat) (inner : Regex)
  /-- At least `least` times, and at most `most` times if there is a bound. -/
  | times (inner : Regex) (least : Nat) (most : Option Nat) (greed : Greed)
  /-- What is matched does not change afterwards. -/
  | atomic (inner : Regex)
  /-- What follows matches, or does not. -/
  | ahead (expected : Bool) (inner : Regex)
  /-- What precedes matches, or does not. -/
  | behind (expected : Bool) (inner : Regex)
  /-- A place. -/
  | place (anchor : Anchor)
  /-- The text that a group has matched. -/
  | same (number : Nat)
  /-- The text that a group has matched in the expression that opened the context. -/
  | opened (number : Nat)
deriving Repr, Inhabited

/-- The texts that are searched: a line, and what the groups of an earlier expression matched. -/
structure Subject where
  /-- The characters of the line. -/
  text : Array Char
  /-- The texts of the earlier groups. -/
  groups : List (List Char) := []

/-- What is known in the middle of a match. -/
structure Place where
  /-- The number of characters in front. -/
  pos : Nat
  /-- The groups that are closed, last first, with their places. -/
  groups : List (Nat × Nat × Nat) := []
deriving DecidableEq, Repr

/-- Where a group was matched last. -/
def Place.group? (p : Place) (number : Nat) : Option (Nat × Nat) :=
  (p.groups.find? (fun g => g.1 = number)).map (·.2)

/-- The character lies in the set, in one of its cases if case does not matter. A set of all
characters but some lacks these in both cases. -/
def CharSet.holdsFolded (fold : Bool) (c : Char) : CharSet → Bool
  | .except s => !s.holdsFolded fold c
  | s => s.holds c || (fold && (s.holds c.toLower || s.holds c.toUpper))

/-- A word character stands at a place of the line. -/
def wordAt (text : Array Char) (pos : Nat) : Bool :=
  (text[pos]?).any isWordChar

/-- A word character stands in front of a place of the line. -/
def wordBefore (text : Array Char) (pos : Nat) : Bool :=
  0 < pos && wordAt text (pos - 1)

/-- The place is of the kind. -/
def Anchor.holds (text : Array Char) (pos : Nat) : Anchor → Bool
  | .lineStart => pos == 0 || text[pos - 1]? == some '\n'
  | .lineEnd => pos == text.size || text[pos]? == some '\n'
  | .textStart => pos == 0
  | .textEnd => pos == text.size
  | .lastLineEnd => pos == text.size || (pos + 1 == text.size && text[pos]? == some '\n')
  | .wordEdge => wordBefore text pos != wordAt text pos
  | .noWordEdge => wordBefore text pos == wordAt text pos

/-- The characters stand at a place of the text. -/
def standsAt (text : Array Char) (pos : Nat) : List Char → Bool
  | [] => true
  | c :: cs => text[pos]? == some c && standsAt text (pos + 1) cs

/-- What follows a part of an expression. -/
abbrev Next := Place → Option Place

/-- Match a part exactly so often. -/
def exactly (step : Place → Next → Option Place) : Nat → Place → Next → Option Place
  | 0, p, next => next p
  | n + 1, p, next => step p (fun p => exactly step n p next)

/-- Match a part up to so often; a step that matches nothing ends the repetition. -/
def upTo (step : Place → Next → Option Place) (lazily : Bool) : Nat → Place → Next → Option Place
  | 0, p, next => next p
  | n + 1, p, next =>
    let more (_ : Unit) : Option Place :=
      step p (fun p' => if p'.pos = p.pos then none else upTo step lazily n p' next)
    if lazily then
      match next p with
      | some r => some r
      | none => more ()
    else
      match more () with
      | some r => some r
      | none => next p

/-- A match that starts at one of the first places and ends at a given one. -/
def endsAt (step : Place → Next → Option Place) (p : Place) : Nat → Option Place
  | 0 => none
  | n + 1 =>
    match step { p with pos := n } (fun q => if q.pos = p.pos then some q else none) with
    | some q => some q
    | none => endsAt step p n

/-- **Match an expression** at a place, with what follows it. -/
def Regex.run (subject : Subject) : Regex → Place → Next → Option Place
  | .empty, p, next => next p
  | .one set fold, p, next =>
    match subject.text[p.pos]? with
    | some c => if set.holdsFolded fold c then next { p with pos := p.pos + 1 } else none
    | none => none
  | .seq a b, p, next => a.run subject p (fun p => b.run subject p next)
  | .alt a b, p, next =>
    match a.run subject p next with
    | some r => some r
    | none => b.run subject p next
  | .group number inner, p, next =>
    inner.run subject p (fun q => next { q with groups := (number, p.pos, q.pos) :: q.groups })
  | .times inner least most greed, p, next =>
    let step := inner.run subject
    exactly step least p fun p =>
      let bound := (most.map (· - least)).getD (subject.text.size + 1 - p.pos)
      match greed with
      | .greedy => upTo step false bound p next
      | .lazy => upTo step true bound p next
      | .possessive =>
        match upTo step false bound p some with
        | some p => next p
        | none => none
  | .atomic inner, p, next =>
    match inner.run subject p some with
    | some p => next p
    | none => none
  | .ahead expected inner, p, next =>
    match inner.run subject p some with
    | some q => if expected then next { p with groups := q.groups } else none
    | none => if expected then none else next p
  | .behind expected inner, p, next =>
    match endsAt (inner.run subject) p (p.pos + 1) with
    | some q => if expected then next { p with groups := q.groups } else none
    | none => if expected then none else next p
  | .place anchor, p, next => if anchor.holds subject.text p.pos then next p else none
  | .same number, p, next =>
    match p.group? number with
    | some (start, stop) =>
      let cs := (subject.text.toList.drop start).take (stop - start)
      if standsAt subject.text p.pos cs then next { p with pos := p.pos + cs.length } else none
    | none => none
  | .opened number, p, next =>
    let cs := (subject.groups[number]?).getD []
    if standsAt subject.text p.pos cs then next { p with pos := p.pos + cs.length } else none

/-- Where a match and its groups lie. -/
structure Match where
  /-- Where the match starts. -/
  start : Nat
  /-- Where the match ends. -/
  stop : Nat
  /-- The groups. -/
  groups : List (Nat × Nat × Nat)
deriving DecidableEq, Repr

/-- Where a group lies; the whole match counts as group zero. -/
def Match.group? (m : Match) (number : Nat) : Option (Nat × Nat) :=
  if number = 0 then some (m.start, m.stop)
  else (m.groups.find? (fun g => g.1 = number)).map (·.2)

/-- **The first match** that starts at one of `count` places from `start` on. -/
def Regex.find? (r : Regex) (subject : Subject) (start : Nat) : Nat → Option Match
  | 0 => none
  | count + 1 =>
    match r.run subject { pos := start } some with
    | some q => some ⟨start, q.pos, q.groups⟩
    | none => r.find? subject (start + 1) count

end ArticleMarkup.Highlight.Grammar
