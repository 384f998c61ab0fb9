import ArticleMarkup.Highlight.Grammar.RegexReader
import ArticleMarkup.Highlight.Scope

/-!
# Contexts

A grammar is a set of contexts. A context lists the rules that hold while it is the innermost one;
a rule matches an expression, gives scopes to what it matches, and may open or close contexts.

## Main definitions

- `Rule`, `Item`, `Context` — what a grammar is made of
- `Grammar` — the contexts of a language, and the one that it starts in
- `Grammar.rulesOf` — the rules of a context, with those that it includes
- `Item.on`, `Item.mark` — write down a rule

## Design notes

Contexts refer to each other by name, so they can be recursive. A name that no context has stands
for a context without rules.
-/

namespace ArticleMarkup.Highlight

namespace Grammar

/-- **What a rule does to the contexts** that are open. -/
inductive Turn where
  /-- Nothing. -/
  | stay
  /-- The innermost context is closed. -/
  | close
  /-- Contexts are opened, the last one innermost. The rules of `guards` come before all others as
  long as the last one is open. -/
  | enter (targets : List String) (guards : List String)
  /-- The innermost context is closed, and others are opened. -/
  | replace (targets : List String) (guards : List String)
deriving DecidableEq, Repr, Inhabited

/-- **A rule.** -/
structure Rule where
  /-- What it matches. -/
  regex : Regex
  /-- The scopes of all that is matched. -/
  scopes : List Scope
  /-- The scopes of groups. -/
  captures : List (Nat × List Scope)
  /-- What it does to the contexts. -/
  turn : Turn
deriving Repr, Inhabited

/-- A line of a context. -/
inductive Item where
  /-- A rule. -/
  | rule (rule : Rule)
  /-- The rules of another context. -/
  | include (name : String)
deriving Repr, Inhabited

/-- **A context.** -/
structure Context where
  /-- The name. -/
  name : String
  /-- The scopes of all inside, and of the matches that open and close the context. -/
  outer : List Scope := []
  /-- The scopes of all inside. -/
  inner : List Scope := []
  /-- Scopes from outside that do not hold inside. -/
  clears : Option ClearAmount := none
  /-- A context whose rules come before those of this one. -/
  leader : Option String := none
  /-- The rules. -/
  items : List Item
deriving Repr, Inhabited

end Grammar

/-- **A grammar.** -/
structure Grammar where
  /-- The scope of all that is read. -/
  scope : Scope
  /-- The name of the context that reading starts in. -/
  main : String
  /-- The contexts. -/
  contexts : List Grammar.Context
deriving Repr, Inhabited

namespace Grammar

/-- The context with a name. -/
def context (g : Grammar) (name : String) : Context :=
  (g.contexts.find? (fun c => c.name = name)).getD { name := name, items := [] }

/-- The rules of some items, where includes go at most so deep. -/
def rulesFrom (g : Grammar) : Nat → List Item → List Rule
  | 0, _ => []
  | depth + 1, items => items.flatMap fun item =>
    match item with
    | .rule r => [r]
    | .include name => g.rulesFrom depth (g.context name).items

/-- **The rules of a context**, with those that it includes. -/
def rulesOf (g : Grammar) (name : String) : List Rule :=
  g.rulesFrom (g.contexts.length + 1) (g.context name).items

/-! ## Writing grammars down -/

/-- Scopes that are separated by spaces. -/
def scopeList (text : String) : List Scope :=
  ((text.splitToList (· = ' ')).filter (· ≠ ""))

/-- Captures with their scopes in one text each. -/
def captureList (captures : List (Nat × String)) : List (Nat × List Scope) :=
  captures.map fun (n, text) => (n, scopeList text)

/-- A rule that turns to other contexts. In one that closes a context, numbers refer to the groups
of the rule that opened it. -/
def Item.on (pattern scopes : String) (turn : Turn) (captures : List (Nat × String)) : Item :=
  .rule ⟨if turn = .close then regexOpened pattern else regex pattern, scopeList scopes,
    captureList captures, turn⟩

/-- A rule that stays where it is. -/
def Item.mark (pattern scopes : String) (captures : List (Nat × String)) : Item :=
  .on pattern scopes .stay captures

/-- Open contexts. -/
def enter (targets : List String) : Turn := .enter targets []

/-- Close the innermost context and open others. -/
def replace (targets : List String) : Turn := .replace targets []

/-- Put a context in front of all contexts that have no leader. -/
def ledBy (leader : String) (contexts : List Context) : List Context :=
  contexts.map fun c => if c.leader.isSome then c else { c with leader := some leader }

end Grammar

end ArticleMarkup.Highlight
