import ArticleMarkup.Data.Value

/-!
# Writing JSON

## Main definitions

- `Json.quoted` — a text in quotes
- `Json.compact` — a value on one line
- `Json.pretty` — a value on several lines, indented by two spaces for each level
-/

namespace ArticleMarkup.Json

/-- The digits of a number below 16. -/
def hexDigit (n : Nat) : Char :=
  if n < 10 then Char.ofNat ('0'.toNat + n) else Char.ofNat ('a'.toNat + n - 10)

/-- A character inside quotes. Quotes, backslashes and controls are escaped. -/
def quotedChar (c : Char) : List Char :=
  if c = '"' then ['\\', '"']
  else if c = '\\' then ['\\', '\\']
  else if c = '\x08' then ['\\', 'b']
  else if c = '\x0c' then ['\\', 'f']
  else if c = '\n' then ['\\', 'n']
  else if c = '\r' then ['\\', 'r']
  else if c = '\t' then ['\\', 't']
  else if c.toNat < 0x20 then
    ['\\', 'u', '0', '0', hexDigit (c.toNat / 16), hexDigit (c.toNat % 16)]
  else [c]

/-- **A text in quotes.** -/
def quoted (s : String) : String :=
  String.ofList ('"' :: s.toList.flatMap quotedChar ++ ['"'])

/-- A scalar; lists and tables are written by the functions below. -/
def scalar : Value → String
  | .bool b => if b then "true" else "false"
  | .integer n => toString n
  | .decimal d => d.toText
  | .text s => quoted s
  | _ => "null"

mutual

/-- **A value on one line**, without spaces. -/
def compact : Value → String
  | .list items => "[" ++ Text.joinWith "," (compactItems items) ++ "]"
  | .table entries => "\x7b" ++ Text.joinWith "," (compactEntries entries) ++ "\x7d"
  | v => scalar v

/-- The items of a list on one line. -/
def compactItems : List Value → List String
  | [] => []
  | v :: rest => compact v :: compactItems rest

/-- The entries of a table on one line. -/
def compactEntries : List (String × Value) → List String
  | [] => []
  | (key, v) :: rest => (quoted key ++ ":" ++ compact v) :: compactEntries rest

end

/-- The start of a line at some level. -/
def lineStart (level : Nat) : String :=
  "\n" ++ String.ofList (List.replicate (2 * level) ' ')

/-- Parts on lines of their own between brackets, or only the brackets when there are none. -/
def block (left right : String) (level : Nat) (parts : List String) : String :=
  if parts.isEmpty then left ++ right
  else
    left ++ lineStart (level + 1) ++ Text.joinWith ("," ++ lineStart (level + 1)) parts ++
      lineStart level ++ right

mutual

/-- **A value on several lines**, where `level` says how deep it stands. -/
def pretty (level : Nat) : Value → String
  | .list items => block "[" "]" level (prettyItems (level + 1) items)
  | .table entries => block "\x7b" "\x7d" level (prettyEntries (level + 1) entries)
  | v => scalar v

/-- The items of a list on lines of their own. -/
def prettyItems (level : Nat) : List Value → List String
  | [] => []
  | v :: rest => pretty level v :: prettyItems level rest

/-- The entries of a table on lines of their own. -/
def prettyEntries (level : Nat) : List (String × Value) → List String
  | [] => []
  | (key, v) :: rest => (quoted key ++ ": " ++ pretty level v) :: prettyEntries level rest

end

end ArticleMarkup.Json
