import ArticleMarkup.Text.Ascii

/-!
# Scopes

A scope names what a piece of code is, from the general to the particular, in atoms that are
separated by dots: `string.quoted.double.json`. While code is read, the scopes that hold at a
place form a stack.

## Main definitions

- `Scope`, `Scope.atoms` — a scope and its atoms
- `ScopeChange` — what a grammar does to the stack between two characters
- `ScopeMark` — the single pushes and pops that such a change amounts to
- `ScopeStack.apply` — carry out a change

## Design notes

A grammar may clear scopes for a while and restore them later. Cleared scopes wait on a stack of
their own, so a restore brings back the ones that were cleared last.
-/

namespace ArticleMarkup.Highlight

/-- A scope, written with its dots. -/
abbrev Scope := String

/-- The atoms of a scope, from the general to the particular. -/
def Scope.atoms (scope : Scope) : List String :=
  scope.splitToList (· == '.')

/-- How many scopes to clear. -/
inductive ClearAmount where
  /-- The innermost `n`, or all when there are fewer. -/
  | innermost (n : Nat)
  /-- All of them. -/
  | all
deriving DecidableEq, Repr

/-- **What a grammar does to the stack** between two characters. -/
inductive ScopeChange where
  /-- A scope begins. -/
  | push (scope : Scope)
  /-- The innermost `count` scopes end. -/
  | pop (count : Nat)
  /-- Scopes are set aside. -/
  | clear (amount : ClearAmount)
  /-- The scopes set aside last come back. -/
  | restore
  /-- Nothing happens. -/
  | noop
deriving DecidableEq, Repr

/-- A single step at the inner end of the stack. -/
inductive ScopeMark where
  /-- A scope begins. -/
  | push (scope : Scope)
  /-- The innermost scope ends, if there is one. -/
  | pop
deriving DecidableEq, Repr

/-- The scopes that hold, innermost first, and those set aside. -/
structure ScopeStack where
  /-- The scopes that hold, innermost first. -/
  scopes : List Scope := []
  /-- Scopes set aside, last first; each group is innermost first. -/
  cleared : List (List Scope) := []
deriving DecidableEq, Repr, Inhabited

namespace ScopeStack

/-- The number of scopes that a clearing takes off. -/
def clearCount (s : ScopeStack) : ClearAmount → Nat
  | .innermost n => min n s.scopes.length
  | .all => s.scopes.length

/-- **Carry out a change.** The marks are the pushes and pops that lead from the old stack to the
new one; a restore with nothing set aside has no result. -/
def apply (s : ScopeStack) : ScopeChange → Option (List ScopeMark × ScopeStack)
  | .push scope => some ([.push scope], { s with scopes := scope :: s.scopes })
  | .pop count => some (List.replicate count .pop, { s with scopes := s.scopes.drop count })
  | .clear amount =>
    let n := s.clearCount amount
    some (List.replicate n .pop, ⟨s.scopes.drop n, s.scopes.take n :: s.cleared⟩)
  | .restore =>
    match s.cleared with
    | [] => none
    | group :: rest => some (group.reverse.map .push, ⟨group ++ s.scopes, rest⟩)
  | .noop => some ([], s)

end ScopeStack

end ArticleMarkup.Highlight
