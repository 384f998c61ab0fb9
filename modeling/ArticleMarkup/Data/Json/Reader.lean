import ArticleMarkup.Data.Numeral

/-!
# Reading JSON

## Main definitions

- `Json.value?` — a value at the front of a text
- `Json.read?` — the value that a whole text stands for

## Design notes

A reader takes characters from the front of a list and gives back those that are left. Values are
read with a bound on their nesting, which is part of the format: deeper values are refused.
-/

namespace ArticleMarkup.Json

/-- White space between tokens. -/
def isSpace (c : Char) : Bool :=
  c == ' ' || c == '\t' || c == '\n' || c == '\r'

/-- The text behind white space. -/
def skipSpace (cs : List Char) : List Char :=
  cs.dropWhile isSpace

/-- The character that an escape of one letter stands for. -/
def escaped? (c : Char) : Option Char :=
  match c with
  | '"' => some '"'
  | '\\' => some '\\'
  | '/' => some '/'
  | 'b' => some '\x08'
  | 'f' => some '\x0c'
  | 'n' => some '\n'
  | 'r' => some '\r'
  | 't' => some '\t'
  | _ => none

/-- The character that an escape by number stands for. Two escapes together stand for a character
beyond the first 65536. -/
def unicodeEscape? (cs : List Char) : Option (Char × List Char) :=
  match hexCode? 4 cs with
  | none => none
  | some (n, rest) =>
    if 0xd800 ≤ n ∧ n < 0xdc00 then
      match rest with
      | '\\' :: 'u' :: rest =>
        match hexCode? 4 rest with
        | some (m, rest) =>
          if 0xdc00 ≤ m ∧ m < 0xe000 then
            some (Char.ofNat (0x10000 + (n - 0xd800) * 0x400 + (m - 0xdc00)), rest)
          else none
        | none => none
      | _ => none
    else (charOfCode? n).map (·, rest)

/-- The text up to the closing quote, where `done` holds what is read already, last first. -/
def closeText (fuel : Nat) (done : List Char) (cs : List Char) : Option (String × List Char) :=
  match fuel, cs with
  | 0, _ => none
  | _, [] => none
  | _ + 1, '"' :: rest => some (String.ofList done.reverse, rest)
  | fuel + 1, '\\' :: 'u' :: rest =>
    match unicodeEscape? rest with
    | some (c, rest) => closeText fuel (c :: done) rest
    | none => none
  | fuel + 1, '\\' :: c :: rest =>
    match escaped? c with
    | some c => closeText fuel (c :: done) rest
    | none => none
  | fuel + 1, c :: rest => if c.toNat < 0x20 then none else closeText fuel (c :: done) rest

/-- A text behind its opening quote. -/
def text? (cs : List Char) : Option (String × List Char) :=
  closeText (cs.length + 1) [] cs

/-- The digits behind a point, if there is one; at least one is needed. -/
def fraction? (cs : List Char) : Option (Option (List Char) × List Char) :=
  match cs with
  | '.' :: rest =>
    match takeDigits rest with
    | ([], _) => none
    | (ds, rest) => some (some ds, rest)
  | cs => some (none, cs)

/-- The exponent behind its letter, if there is one. -/
def scale? (cs : List Char) : Option (Option Int × List Char) :=
  match cs with
  | c :: rest =>
    if c = 'e' ∨ c = 'E' then (exponent? rest).map (fun (e, rest) => (some e, rest))
    else some (none, c :: rest)
  | [] => some (none, [])

/-- A number without superfluous zeros in front. -/
def number? (cs : List Char) : Option (Value × List Char) := do
  let (negative, cs) :=
    match cs with
    | '-' :: rest => (true, rest)
    | rest => (false, rest)
  let (whole, cs) := takeDigits cs
  match whole with
  | [] => none
  | '0' :: _ :: _ => none
  | _ =>
    let (fraction, cs) ← fraction? cs
    let (exponent, cs) ← scale? cs
    let n : Numeral := { negative, whole, fraction, exponent }
    if n.isWhole && -Int.ofNat (Nat.pow 2 63) ≤ n.integer &&
        n.integer < Int.ofNat (Nat.pow 2 64) then
      return (.integer n.integer, cs)
    return (.decimal (← n.decimal?), cs)

/-- The text behind a word that has to stand at the front. -/
def word? (word : String) (cs : List Char) : Option (List Char) :=
  Text.dropStart? word.toList cs

mutual

/-- **A value at the front of a text**, and the text behind it; `depth` bounds the nesting and
`fuel` the number of steps. -/
def value? (fuel depth : Nat) (cs : List Char) : Option (Value × List Char) :=
  match fuel with
  | 0 => none
  | fuel + 1 =>
    match skipSpace cs with
    | '"' :: rest => (text? rest).map (fun (s, rest) => (.text s, rest))
    | '[' :: rest =>
      match depth with
      | 0 => none
      | depth + 1 =>
        match skipSpace rest with
        | ']' :: rest => some (.list [], rest)
        | rest => (items? fuel depth rest).map (fun (vs, rest) => (.list vs, rest))
    | '\x7b' :: rest =>
      match depth with
      | 0 => none
      | depth + 1 =>
        match skipSpace rest with
        | '\x7d' :: rest => some (.table [], rest)
        | rest => (members? fuel depth [] rest).map (fun (es, rest) => (.table es, rest))
    | 't' :: rest => (word? "rue" rest).map (.bool true, ·)
    | 'f' :: rest => (word? "alse" rest).map (.bool false, ·)
    | 'n' :: rest => (word? "ull" rest).map (.null, ·)
    | rest => number? rest

/-- The items of a list, at least one, up to its end. -/
def items? (fuel depth : Nat) (cs : List Char) : Option (List Value × List Char) :=
  match fuel with
  | 0 => none
  | fuel + 1 =>
    match value? fuel depth cs with
    | none => none
    | some (v, rest) =>
      match skipSpace rest with
      | ',' :: rest => (items? fuel depth rest).map (fun (vs, rest) => (v :: vs, rest))
      | ']' :: rest => some ([v], rest)
      | _ => none

/-- The entries of a table, at least one, up to its end; of two entries with one key the later
counts. -/
def members? (fuel depth : Nat) (done : List (String × Value)) (cs : List Char) :
    Option (List (String × Value) × List Char) :=
  match fuel with
  | 0 => none
  | fuel + 1 =>
    match skipSpace cs with
    | '"' :: rest =>
      match text? rest with
      | none => none
      | some (key, rest) =>
        match skipSpace rest with
        | ':' :: rest =>
          match value? fuel depth rest with
          | none => none
          | some (v, rest) =>
            let done := setEntry key v done
            match skipSpace rest with
            | ',' :: rest => members? fuel depth done rest
            | '\x7d' :: rest => some (done, rest)
            | _ => none
        | _ => none
    | _ => none

end

/-- The deepest nesting of lists and tables. -/
def nestingLimit : Nat := 127

/-- **The value that a text stands for**, if it is JSON. -/
def read? (text : String) : Option Value :=
  let cs := text.toList
  match value? (2 * cs.length + 1) nestingLimit cs with
  | some (v, rest) => if (skipSpace rest).isEmpty then some v else none
  | none => none

end ArticleMarkup.Json
