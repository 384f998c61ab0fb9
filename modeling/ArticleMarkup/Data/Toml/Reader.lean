import ArticleMarkup.Data.Toml.Scalar
import ArticleMarkup.Data.Toml.Tree

/-!
# Reading TOML

## Main definitions

- `Toml.key?` — a key with or without dots
- `Toml.value?` — a value
- `Toml.read?` — the table that a whole text stands for
-/

namespace ArticleMarkup.Toml

/-- The text behind white space within a line. -/
def skipSpace (cs : List Char) : List Char := cs.dropWhile isSpace

/-- The text behind a comment, if there is one at the front; its newline stays. -/
def skipComment? (cs : List Char) : Option (List Char) :=
  match cs with
  | '#' :: rest =>
    match rest.dropWhile (fun c => !isControl c) with
    | [] => some []
    | '\n' :: rest => some ('\n' :: rest)
    | '\r' :: '\n' :: rest => some ('\n' :: rest)
    | _ => none
  | cs => some cs

/-- The text behind the end of a line, where a comment may stand. -/
def endLine? (cs : List Char) : Option (List Char) :=
  match skipComment? (skipSpace cs) with
  | some [] => some []
  | some ('\n' :: rest) => some rest
  | some ('\r' :: '\n' :: rest) => some rest
  | _ => none

/-- The text behind white space, ends of lines and comments. -/
def skipLines? (fuel : Nat) (cs : List Char) : Option (List Char) :=
  match fuel with
  | 0 => none
  | fuel + 1 =>
    match skipSpace cs with
    | '#' :: rest => (skipComment? ('#' :: rest)).bind (skipLines? fuel)
    | '\n' :: rest => skipLines? fuel rest
    | '\r' :: '\n' :: rest => skipLines? fuel rest
    | rest => some rest

/-- One part of a key. -/
def keyPart? (cs : List Char) : Option (String × List Char) :=
  match cs with
  | '"' :: rest => basicText? (rest.length + 1) [] rest
  | '\x27' :: rest => literalText? rest
  | cs =>
    let word := cs.takeWhile isKeyChar
    if word.isEmpty then none else some (String.ofList word, cs.drop word.length)

/-- **A key**: parts with dots between them. -/
def key? (fuel : Nat) (cs : List Char) : Option (List String × List Char) :=
  match fuel with
  | 0 => none
  | fuel + 1 =>
    match keyPart? (skipSpace cs) with
    | none => none
    | some (part, rest) =>
      match skipSpace rest with
      | '.' :: rest => (key? fuel rest).map (fun (path, rest) => (part :: path, rest))
      | rest => some ([part], rest)

mutual

/-- **A value**, and the text behind it. -/
def value? (fuel : Nat) (cs : List Char) : Option (Value × List Char) :=
  match fuel with
  | 0 => none
  | fuel + 1 =>
    match cs with
    | '"' :: rest => (text? ('"' :: rest)).map (fun (s, rest) => (.text s, rest))
    | '\x27' :: rest => (text? ('\x27' :: rest)).map (fun (s, rest) => (.text s, rest))
    | '[' :: rest => (items? fuel rest).map (fun (vs, rest) => (.list vs, rest))
    | '\x7b' :: rest =>
      match skipSpace rest with
      | '\x7d' :: rest => some (.table [], rest)
      | rest => (members? fuel [] rest).map (fun (es, rest) => (.table (valuesOf es), rest))
    | rest => scalar? rest

/-- The items of a list up to its end. A comma may follow the last one. -/
def items? (fuel : Nat) (cs : List Char) : Option (List Value × List Char) :=
  match fuel with
  | 0 => none
  | fuel + 1 =>
    match skipLines? (cs.length + 1) cs with
    | none => none
    | some (']' :: rest) => some ([], rest)
    | some rest =>
      match value? fuel rest with
      | none => none
      | some (v, rest) =>
        match skipLines? (rest.length + 1) rest with
        | some (',' :: rest) => (items? fuel rest).map (fun (vs, rest) => (v :: vs, rest))
        | some (']' :: rest) => some ([v], rest)
        | _ => none

/-- The entries of a table within a line, at least one, up to its end. -/
def members? (fuel : Nat) (done : Entries) (cs : List Char) : Option (Entries × List Char) :=
  match fuel with
  | 0 => none
  | fuel + 1 =>
    match key? (cs.length + 1) cs with
    | some (path, '=' :: rest) =>
      match value? fuel (skipSpace rest) with
      | none => none
      | some (v, rest) =>
        match insertAt v path done, skipSpace rest with
        | some done, ',' :: rest => members? fuel done rest
        | some done, '\x7d' :: rest => some (done, rest)
        | _, _ => none
    | _ => none

end

/-- A path up to the brackets that close it. -/
def path? (close : List Char) (cs : List Char) : Option (List String × List Char) :=
  match key? (cs.length + 1) cs with
  | none => none
  | some (path, rest) => (Text.dropStart? close rest).map (path, ·)

/-- The lines of a file: `here` is the path of the table that is open. -/
def lines? (fuel : Nat) (here : List String) (es : Entries) (cs : List Char) : Option Entries :=
  match fuel with
  | 0 => none
  | fuel + 1 =>
    match skipLines? (cs.length + 1) cs with
    | none => none
    | some [] => some es
    | some ('[' :: '[' :: rest) =>
      match path? [']', ']'] rest with
      | none => none
      | some (path, rest) =>
        match openRow path es, endLine? rest with
        | some es, some rest => lines? fuel path es rest
        | _, _ => none
    | some ('[' :: rest) =>
      match path? [']'] rest with
      | none => none
      | some (path, rest) =>
        match openTable path es, endLine? rest with
        | some es, some rest => lines? fuel path es rest
        | _, _ => none
    | some rest =>
      match key? (rest.length + 1) rest with
      | some (path, '=' :: rest) =>
        match value? (2 * rest.length + 2) (skipSpace rest) with
        | none => none
        | some (v, rest) =>
          match descend (insertAt v path) here es, endLine? rest with
          | some es, some rest => lines? fuel here es rest
          | _, _ => none
      | _ => none

/-- **The table that a text stands for**, if it is TOML. -/
def read? (text : String) : Option Value :=
  let cs := text.toList
  (lines? (cs.length + 1) [] [] cs).map (fun es => .table (valuesOf es))

end ArticleMarkup.Toml
