import ArticleMarkup.Highlight.Grammar.Context
import ArticleMarkup.Highlight.Tokenizer

/-!
# Reading code by a grammar

A machine keeps the contexts that are open. On each line it looks for the rule that matches first,
says how that changes the scopes, turns to other contexts as the rule asks for, and goes on behind
the match.

## Main definitions

- `Frame`, `Machine` — an open context, and all of them
- `bestOf` — the rule to follow next
- `changesOf` — the scope changes of a match
- `Machine.line` — read a line
- `Grammar.tokenizer` — read code

## Design notes

A rule that opens a context and consumes nothing could be followed by one that closes it again and
consumes nothing either. The machine remembers where a context was opened so; a rule that would only
undo that gives way to later ones, and if there are none a character is skipped. The number of steps
on a line is bounded all the same, so that reading ends whatever the grammar is.
-/

namespace ArticleMarkup.Highlight.Grammar

/-- An open context. -/
structure Frame where
  /-- The context. -/
  context : Context
  /-- The names of the contexts that guard it. -/
  guards : List String := []
  /-- What the groups of the rule that opened it have matched. -/
  groups : List (List Char) := []
deriving Repr, Inhabited

/-- **The state of reading.** -/
structure Machine where
  /-- The open contexts, innermost first. -/
  frames : List Frame
  /-- How many contexts lie below those whose guards are in force, last first. -/
  bases : List Nat := []
deriving Repr, Inhabited

/-- A rule that matches. -/
structure Hit where
  /-- The rule. -/
  rule : Rule
  /-- Where it matches. -/
  found : Match
  /-- The rule belongs to a guard. -/
  guarding : Bool
  /-- Following it would only undo the step before. -/
  undoes : Bool
deriving Repr

/-- A rule together with the groups that it can refer to. -/
structure Candidate where
  /-- The rule. -/
  rule : Rule
  /-- The groups. -/
  groups : List (List Char)
  /-- The rule belongs to a guard. -/
  guarding : Bool
deriving Repr

/-- The candidates that a context contributes. -/
def candidatesOf (g : Grammar) (name : String) (groups : List (List Char)) (guarding : Bool) :
    List Candidate :=
  (g.rulesOf name).map (⟨·, groups, guarding⟩)

/-- **The rules in force**, in the order of their preference: guards from the outside in, then the
leader of the innermost context, then its own rules. -/
def Machine.candidates (m : Machine) (g : Grammar) : List Candidate :=
  match m.frames with
  | [] => []
  | frame :: _ =>
    let guarded := (m.frames.reverse.drop (m.bases.headD 0)).flatMap fun f =>
      f.guards.flatMap fun name => candidatesOf g name f.groups true
    let leading := frame.context.leader.toList.flatMap fun name => candidatesOf g name [] false
    guarded ++ leading ++
      (g.rulesFrom (g.contexts.length + 1) frame.context.items).map (⟨·, frame.groups, false⟩)

/-- The most contexts that may be open for a rule to open more. -/
def maxFrames : Nat := 100

/-- The turn opens contexts on top of the open ones. -/
def Turn.opens : Turn → Bool
  | .enter _ _ => true
  | _ => false

/-- Of the remaining candidates, the best one against a best one so far. `mayUndo` says that closing
the context here without consuming anything would undo the step before. -/
def bestOf (line : Array Char) (start depth : Nat) (mayUndo : Bool) (best : Option Hit) :
    List Candidate → Option Hit
  | [] => best
  | c :: cs =>
    let count :=
      match best with
      | none => line.size + 1 - start
      | some b => b.found.start - start + (if b.undoes then 1 else 0)
    match c.rule.regex.find? ⟨line, c.groups⟩ start count with
    | none => bestOf line start depth mayUndo best cs
    | some found =>
      if c.rule.turn = .stay && found.start == found.stop then
        bestOf line start depth mayUndo best cs
      else if c.rule.turn.opens && maxFrames ≤ depth then none
      else
        let undoes := mayUndo && found.stop ≤ start && c.rule.turn == .close
        let hit : Hit := ⟨c.rule, found, c.guarding, undoes⟩
        if found.start = start && !undoes then some hit
        else bestOf line start depth mayUndo (some hit) cs

/-! ## Scope changes -/

/-- Changes that put scopes on the stack. -/
def pushes (place : Nat) (scopes : List Scope) : LineChanges :=
  scopes.map fun s => (place, .push s)

/-- A change that takes scopes off the stack, if there are any to take. -/
def pops (place count : Nat) : LineChanges :=
  if count = 0 then [] else [(place, .pop count)]

/-- A change that sets scopes aside as a context asks for. -/
def clearing (place : Nat) (c : Context) : LineChanges :=
  c.clears.toList.map fun amount => (place, .clear amount)

/-- A change that brings back what a context had set aside. -/
def restoring (place : Nat) (c : Context) : LineChanges :=
  if c.clears.isSome then [(place, .restore)] else []

/-- The changes in front of a match, where `here` is the innermost context. -/
def changesBefore (g : Grammar) (here : Context) (place : Nat) : Turn → LineChanges
  | .stay => []
  | .close => pops place here.inner.length
  | .enter targets _ => targets.flatMap fun name =>
    let c := g.context name
    clearing place c ++ pushes place c.outer
  | .replace targets _ =>
    restoring place here ++ targets.flatMap fun name => pushes place (g.context name).outer

/-- The changes that open contexts anew behind a match, after `count` scopes have been taken off. -/
def reopening (place count : Nat) (replacing : Bool) (targets : List Context) : LineChanges :=
  pops place (count + (targets.flatMap (·.outer)).length) ++ targets.flatMap fun c =>
    (if replacing then clearing place c else []) ++ pushes place c.outer ++ pushes place c.inner

/-- The changes behind a match. -/
def changesAfter (g : Grammar) (here : Context) (place : Nat) : Turn → LineChanges
  | .stay => []
  | .close => pops place here.outer.length ++ restoring place here
  | .enter targets _ =>
    let targets := targets.map g.context
    if targets.any (fun c => !c.inner.isEmpty) then reopening place 0 false targets else []
  | .replace targets _ =>
    let targets := targets.map g.context
    let held := here.inner.length + here.outer.length
    if 0 < held || targets.any (fun c => !c.inner.isEmpty || c.clears.isSome) then
      reopening place held true targets
    else []

/-- The changes of the groups of a match, each with its place and what decides between changes at
one place: endings come first, then beginnings, longer groups before shorter ones. -/
def captureChanges (found : Match) (captures : List (Nat × List Scope)) :
    List (Nat × Option Nat × ScopeChange) :=
  captures.flatMap fun (number, scopes) =>
    match found.group? number with
    | none => []
    | some (start, stop) =>
      if start = stop then []
      else
        scopes.map (fun s => (start, some (stop - start), .push s)) ++
          [(stop, none, .pop scopes.length)]

/-- One change of a group comes before another, or at the same place in no order. -/
def captureBefore (a b : Nat × Option Nat × ScopeChange) : Bool :=
  a.1 < b.1 || (a.1 == b.1 &&
    match a.2.1, b.2.1 with
    | none, _ => true
    | some _, none => false
    | some m, some n => n ≤ m)

/-- **The scope changes of a match**, where `here` is the innermost context. -/
def changesOf (g : Grammar) (here : Context) (rule : Rule) (found : Match) : LineChanges :=
  changesBefore g here found.start rule.turn ++ pushes found.start rule.scopes ++
    ((captureChanges found rule.captures).mergeSort captureBefore).map (fun c => (c.1, c.2.2)) ++
    pops found.stop rule.scopes.length ++ changesAfter g here found.stop rule.turn

/-! ## Turning to other contexts -/

/-- The texts of the groups of a match, the whole match first. -/
def groupTexts (line : List Char) (found : Match) : List (List Char) :=
  (List.range 10).map fun number =>
    match found.group? number with
    | some (start, stop) => (line.drop start).take (stop - start)
    | none => []

/-- Open contexts one after the other; the first one keeps `kept` guards, and the last one gets new
ones. -/
def openFrames (g : Grammar) (groups : List (List Char)) (guards : List String)
    (kept : List String) (frames : List Frame) : List String → List Frame
  | [] => frames
  | [name] => ⟨g.context name, kept ++ guards, groups⟩ :: frames
  | name :: names => openFrames g groups guards [] (⟨g.context name, kept, groups⟩ :: frames) names

/-- The contexts that are open after a turn. -/
def turnFrames (g : Grammar) (groups : List (List Char)) (turn : Turn) (frames : List Frame) :
    List Frame :=
  match turn, frames with
  | .stay, frames => frames
  | .close, frames => frames.tail
  | .enter targets guards, frames => openFrames g groups guards [] frames targets
  | .replace targets guards, [] => openFrames g groups guards [] [] targets
  | .replace targets guards, frame :: frames =>
    openFrames g groups guards frame.guards frames targets

/-! ## Reading lines -/

/-- **Read on a line** from `start` on. `opened` is the place where a context was last opened
without consuming anything, with the number of contexts open since then. -/
def Machine.run (g : Grammar) (line : List Char) (text : Array Char) (fuel : Nat) (m : Machine)
    (start : Nat) (opened : Nat × Nat) : LineChanges × Machine :=
  match fuel, m.frames with
  | 0, _ => ([], m)
  | _, [] => ([], m)
  | fuel + 1, frame :: _ =>
    let depth := m.frames.length
    let m := { m with bases := m.bases.dropWhile (depth ≤ ·) }
    match bestOf text start depth (opened == (start, depth)) none (m.candidates g) with
    | none => ([], m)
    | some hit =>
      if hit.undoes then
        if start + 1 < text.size then m.run g line text fuel (start + 1) opened else ([], m)
      else
        let stop := hit.found.stop
        let opened :=
          if stop ≤ start && hit.rule.turn.opens then (stop, depth + 1) else opened
        let next : Machine :=
          { frames := turnFrames g (groupTexts line hit.found) hit.rule.turn m.frames
            bases := if hit.guarding then depth :: m.bases else m.bases }
        let (changes, last) := next.run g line text fuel stop opened
        (changesOf g frame.context hit.rule hit.found ++ changes, last)

/-- The number of steps that a line may take. -/
def stepBound (line : List Char) : Nat :=
  4 * maxFrames * (line.length + 2)

/-- **Read a line.** -/
def Machine.line (g : Grammar) (m : Machine) (line : List Char) : LineChanges × Machine :=
  m.run g line line.toArray (stepBound line) 0 (0, 0)

/-- Read lines one after the other. A machine without open contexts cannot go on. -/
def Machine.lines (g : Grammar) (m : Machine) : List (List Char) → Except String (List LineChanges)
  | [] => .ok []
  | line :: rest =>
    if m.frames.isEmpty then .error "Somehow main context was popped from the stack"
    else
      let (changes, m) := m.line g line
      match m.lines g rest with
      | .error e => .error e
      | .ok later => .ok (changes :: later)

/-- The context in which reading starts: it turns to the main one at once, and to it again when that
one is closed. -/
def startContext (main : String) : Context where
  name := ""
  items := [.on "" "" (enter [main]) []]

/-- **Read code** by a grammar. -/
def tokenizer (g : Grammar) : Tokenizer := fun lines =>
  match Machine.lines g { frames := [⟨startContext g.main, [], []⟩] } lines with
  | .error e => .error e
  | .ok [] => .ok []
  | .ok (first :: rest) => .ok (((0, .push g.scope) :: first) :: rest)

end ArticleMarkup.Highlight.Grammar
