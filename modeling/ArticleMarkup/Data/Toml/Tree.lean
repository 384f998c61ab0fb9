import ArticleMarkup.Data.Value

/-!
# The tables of a TOML file

A file names its tables one after the other, and each table may be opened only once. While the file
is read, every table therefore remembers how it came about.

## Main definitions

- `Toml.Node` — a value, a table or a row of tables under construction
- `Toml.openTable`, `Toml.openRow` — what a line in brackets does
- `Toml.insertAt` — what a line with a key and a value does
- `Toml.Node.finished` — the finished value
-/

namespace ArticleMarkup.Toml

/-- How a table came about. -/
inductive Origin where
  /-- It has a line in brackets of its own. -/
  | opened
  /-- It only lies on the way to a table that has one. -/
  | implied
  /-- It lies on the way of a key with dots. -/
  | dotted
deriving DecidableEq, Repr

/-- **A part of a file** under construction. -/
inductive Node where
  /-- A finished value. -/
  | value (v : Value)
  /-- A table. -/
  | table (origin : Origin) (entries : List (String × Node))
  /-- A row of tables, last first. -/
  | row (tables : List (List (String × Node)))
deriving Repr, Inhabited

/-- The entries of a table under construction. -/
abbrev Entries := List (String × Node)

/-- Go down a path, making tables where there are none, and change the entries at its end. The last
table of a row stands for the row. -/
def descend (change : Entries → Option Entries) : List String → Entries → Option Entries
  | [], es => change es
  | key :: path, es =>
    match lookup? key es with
    | none => (descend change path []).map (fun inner => setEntry key (.table .implied inner) es)
    | some (.table origin inner) =>
      (descend change path inner).map (fun inner => setEntry key (.table origin inner) es)
    | some (.row (last :: done)) =>
      (descend change path last).map (fun last => setEntry key (.row (last :: done)) es)
    | _ => none

/-- Open a table. A table that was only on the way may still be opened. -/
def openHere (key : String) (es : Entries) : Option Entries :=
  match lookup? key es with
  | none => some (setEntry key (.table .opened []) es)
  | some (.table .implied inner) => some (setEntry key (.table .opened inner) es)
  | _ => none

/-- Add a table to a row, or start the row. -/
def extendRow (key : String) (es : Entries) : Option Entries :=
  match lookup? key es with
  | none => some (setEntry key (.row [[]]) es)
  | some (.row done) => some (setEntry key (.row ([] :: done)) es)
  | _ => none

/-- **A path in brackets** opens a table. -/
def openTable (path : List String) (es : Entries) : Option Entries :=
  match path.getLast? with
  | none => none
  | some key => descend (openHere key) path.dropLast es

/-- **A path in double brackets** adds a table to a row. -/
def openRow (path : List String) (es : Entries) : Option Entries :=
  match path.getLast? with
  | none => none
  | some key => descend (extendRow key) path.dropLast es

/-- **A key and a value**: no key may be set twice, and a key with dots may only go through tables
that came about by such keys. -/
def insertAt (v : Value) : List String → Entries → Option Entries
  | [], _ => none
  | [key], es =>
    match lookup? key es with
    | none => some (setEntry key (.value v) es)
    | some _ => none
  | key :: path, es =>
    match lookup? key es with
    | none => (insertAt v path []).map (fun inner => setEntry key (.table .dotted inner) es)
    | some (.table .dotted inner) =>
      (insertAt v path inner).map (fun inner => setEntry key (.table .dotted inner) es)
    | _ => none

mutual

/-- **The finished value** of a part of a file. -/
def Node.finished : Node → Value
  | .value v => v
  | .table _ es => .table (valuesOf es)
  | .row ts => .list (valuesOfRow ts [])

/-- The finished entries of a table. -/
def valuesOf : List (String × Node) → List (String × Value)
  | [] => []
  | (key, n) :: rest => (key, n.finished) :: valuesOf rest

/-- The finished tables of a row, in front of those that are finished already. -/
def valuesOfRow : List (List (String × Node)) → List Value → List Value
  | [], done => done
  | t :: rest, done => valuesOfRow rest (.table (valuesOf t) :: done)

end

end ArticleMarkup.Toml
