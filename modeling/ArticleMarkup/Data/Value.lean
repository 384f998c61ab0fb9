import ArticleMarkup.Data.Decimal
import ArticleMarkup.Text.Ascii

/-!
# Data values

What a data file, the environment or a printed report holds: scalars, lists, and tables whose
entries keep their order.

## Main definitions

- `Value` — the type
- `Value.member?` — look up an entry of a table
- `Value.put` — put one value over another, merging tables
- `Value.putAt` — the same at a path below the root
-/

namespace ArticleMarkup

/-- **A data value.** -/
inductive Value where
  /-- Nothing is said. -/
  | null
  /-- True or false. -/
  | bool (value : Bool)
  /-- A whole number. -/
  | integer (value : Int)
  /-- A number with a point or an exponent. -/
  | decimal (value : Decimal)
  /-- A number beyond all numbers. -/
  | infinity (negative : Bool)
  /-- The result of a computation without one. -/
  | nan
  /-- A text. -/
  | text (value : String)
  /-- A list. -/
  | list (items : List Value)
  /-- A table. -/
  | table (entries : List (String × Value))
deriving Repr, Inhabited

/-- Entries with `key` bound to `value`: in place when it is there, else after all others. -/
def setEntry {α : Type} (key : String) (value : α) : List (String × α) → List (String × α)
  | [] => [(key, value)]
  | e :: rest => if e.1 = key then (key, value) :: rest else e :: setEntry key value rest

/-- What `key` is bound to. -/
def lookup? {α : Type} (key : String) (entries : List (String × α)) : Option α :=
  (entries.find? (fun e => e.1 = key)).map (·.2)

namespace Value

/-- The entries of a table; other values have none. -/
def entries : Value → List (String × Value)
  | .table es => es
  | _ => []

/-- An entry of a table. -/
def member? (v : Value) (key : String) : Option Value :=
  lookup? key v.entries

mutual

/-- **Put a value over another.** Tables are merged entry by entry; any other value replaces what
was there. -/
def put : Value → Value → Value
  | .table es, target => .table (putEntries es target.entries)
  | v, _ => v

/-- Put entries over those of a table. -/
def putEntries : List (String × Value) → List (String × Value) → List (String × Value)
  | [], target => target
  | (key, v) :: rest, target =>
    putEntries rest (setEntry key (put v ((lookup? key target).getD .null)) target)

end

/-- **Put a value at a path** below the root. Whatever on the way is no table becomes one. -/
def putAt (path : List String) (v target : Value) : Value :=
  match path with
  | [] => v.put target
  | key :: rest =>
    .table (setEntry key (putAt rest v ((target.member? key).getD .null)) target.entries)

end Value

/-- A character of a plain key. -/
def isKeyChar (c : Char) : Bool :=
  Text.isAsciiAlnum c || c == '_' || c == '-'

/-- The path that a key with dots stands for. A key with any other mark stands for itself. -/
def keyPath (key : String) : List String :=
  let parts := key.splitOn "."
  if parts.all (fun p => !p.isEmpty && p.toList.all isKeyChar) then parts else [key]

/-- Put all entries of a source over what the sources before it hold. -/
def Value.putSource (source target : Value) : Value :=
  source.entries.foldl (fun t e => Value.putAt (keyPath e.1) e.2 t) target

end ArticleMarkup
