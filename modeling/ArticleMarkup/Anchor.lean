import ArticleMarkup.Slug
import ArticleMarkup.Table

/-!
# Anchors

The ids that are taken in one document. A heading asks for an anchor and gets the slug of its
text, or the slug with the first free number behind it; an id that an element already carries is
reserved, so that no heading gets it.

## Main definitions

- `Anchors` — the taken ids, each with the last number that was tried behind it
- `Anchors.anchorFor` — a fresh id for a heading
- `Anchors.reserve` — take an id that is already in use

## Design notes

The numbers only save work: a number that was tried before is taken for good, so looking on from
the last one finds the same id as looking from one.
-/

namespace ArticleMarkup

/-- The ids taken so far. -/
structure Anchors where
  /-- For each id that is taken, the last number that was tried behind it. -/
  tried : Table Nat := []

namespace Anchors

/-- The id is taken. -/
def taken (anchors : Anchors) (id : String) : Bool :=
  anchors.tried.has id

/-- The id with a number behind it. -/
def numbered (base : String) (n : Nat) : String :=
  base ++ "-" ++ toString n

/-- The first of the numbers `n`, `n + 1`, … that gives a free id, among the next `fuel`. -/
def firstFree (anchors : Anchors) (base : String) (n : Nat) : Nat → Nat
  | 0 => n
  | fuel + 1 =>
    if anchors.taken (numbered base n) then firstFree anchors base (n + 1) fuel else n

/-- **A fresh id** for a heading with the given text, and the ids that are taken afterwards. There
are no more taken ids than table entries, so one of that many numbers is free. -/
def anchorFor (anchors : Anchors) (text : String) : String × Anchors :=
  let base := slug text
  match anchors.tried.find? base with
  | none => (base, ⟨anchors.tried.insert base 0⟩)
  | some last =>
    let n := firstFree anchors base (last + 1) anchors.tried.length
    let id := numbered base n
    (id, ⟨(anchors.tried.insert base n).insert id 0⟩)

/-- Take an id that is in use. The answer says whether it was still free. -/
def reserve (anchors : Anchors) (id : String) : Bool × Anchors :=
  if anchors.taken id then (false, anchors) else (true, ⟨anchors.tried.insert id 0⟩)

end Anchors

end ArticleMarkup
