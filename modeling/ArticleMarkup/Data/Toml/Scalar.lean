import ArticleMarkup.Data.Numeral

/-!
# Scalars of TOML

Numbers, dates, words and texts.

## Main definitions

- `Toml.basicText?`, `Toml.literalText?` — texts on one line
- `Toml.longBasicText?`, `Toml.longLiteralText?` — texts on several lines
- `Toml.scalar?` — a scalar without quotes

## Design notes

A date is held as text: no setting asks for one, and as text it can still stand where a text is
wanted.
-/

namespace ArticleMarkup.Toml

/-- White space within a line. -/
def isSpace (c : Char) : Bool := c == ' ' || c == '\t'

/-- A character that must not stand in a text or a comment. -/
def isControl (c : Char) : Bool :=
  (c.toNat < 0x20 && c != '\t') || c == '\x7f'

/-! ## Texts -/

/-- The character that an escape of one letter stands for. -/
def escaped? (c : Char) : Option Char :=
  match c with
  | 'b' => some '\x08'
  | 't' => some '\t'
  | 'n' => some '\n'
  | 'f' => some '\x0c'
  | 'r' => some '\r'
  | '"' => some '"'
  | '\\' => some '\\'
  | _ => none

/-- The character that an escape behind its backslash stands for. -/
def escape? (cs : List Char) : Option (Char × List Char) :=
  match cs with
  | 'u' :: rest => (hexCode? 4 rest).bind fun (n, rest) => (charOfCode? n).map (·, rest)
  | 'U' :: rest => (hexCode? 8 rest).bind fun (n, rest) => (charOfCode? n).map (·, rest)
  | c :: rest => (escaped? c).map (·, rest)
  | [] => none

/-- A text up to its double quote, where `done` holds what is read already, last first. -/
def basicText? (fuel : Nat) (done : List Char) (cs : List Char) : Option (String × List Char) :=
  match fuel, cs with
  | 0, _ => none
  | _, [] => none
  | _ + 1, '"' :: rest => some (String.ofList done.reverse, rest)
  | fuel + 1, '\\' :: rest =>
    match escape? rest with
    | some (c, rest) => basicText? fuel (c :: done) rest
    | none => none
  | fuel + 1, c :: rest => if isControl c then none else basicText? fuel (c :: done) rest

/-- A text up to its single quote. Nothing is escaped in it. -/
def literalText? (cs : List Char) : Option (String × List Char) :=
  let body := cs.takeWhile (fun c => c != '\x27' && !isControl c)
  match cs.drop body.length with
  | '\x27' :: rest => some (String.ofList body, rest)
  | _ => none

/-- A newline at the front is no part of a text on several lines. -/
def dropNewline : List Char → List Char
  | '\n' :: rest => rest
  | '\r' :: '\n' :: rest => rest
  | cs => cs

/-- The text behind a backslash at the end of a line: all white space is skipped. -/
def joinLines? (cs : List Char) : Option (List Char) :=
  match dropNewline (cs.dropWhile isSpace) with
  | rest =>
    if rest.length < (cs.dropWhile isSpace).length then
      some (rest.dropWhile (fun c => isSpace c || c == '\n' || c == '\r'))
    else none

/-- The quotes at the end of a text on several lines: three close it, and up to two more in front of
them belong to it. -/
def closingQuotes? (quote : Char) (cs : List Char) : Option (List Char × List Char) :=
  let n := min (cs.takeWhile (· == quote)).length 5
  if n < 3 then none else some (List.replicate (n - 3) quote, cs.drop n)

/-- A text on several lines up to its three double quotes. -/
def longBasicText? (fuel : Nat) (done : List Char) (cs : List Char) :
    Option (String × List Char) :=
  match fuel, cs with
  | 0, _ => none
  | _, [] => none
  | fuel + 1, '"' :: rest =>
    match closingQuotes? '"' ('"' :: rest) with
    | some (quotes, rest) => some (String.ofList (done.reverse ++ quotes), rest)
    | none => longBasicText? fuel ('"' :: done) rest
  | fuel + 1, '\\' :: rest =>
    match escape? rest with
    | some (c, rest) => longBasicText? fuel (c :: done) rest
    | none =>
      match joinLines? rest with
      | some rest => longBasicText? fuel done rest
      | none => none
  | fuel + 1, '\r' :: '\n' :: rest => longBasicText? fuel ('\n' :: done) rest
  | fuel + 1, c :: rest =>
    if isControl c && c != '\n' then none else longBasicText? fuel (c :: done) rest

/-- A text on several lines up to its three single quotes. -/
def longLiteralText? (fuel : Nat) (done : List Char) (cs : List Char) :
    Option (String × List Char) :=
  match fuel, cs with
  | 0, _ => none
  | _, [] => none
  | fuel + 1, '\x27' :: rest =>
    match closingQuotes? '\x27' ('\x27' :: rest) with
    | some (quotes, rest) => some (String.ofList (done.reverse ++ quotes), rest)
    | none => longLiteralText? fuel ('\x27' :: done) rest
  | fuel + 1, '\r' :: '\n' :: rest => longLiteralText? fuel ('\n' :: done) rest
  | fuel + 1, c :: rest =>
    if isControl c && c != '\n' then none else longLiteralText? fuel (c :: done) rest

/-- A text with its opening quotes still in front. -/
def text? (cs : List Char) : Option (String × List Char) :=
  match cs with
  | '"' :: '"' :: '"' :: rest => longBasicText? (rest.length + 1) [] (dropNewline rest)
  | '\x27' :: '\x27' :: '\x27' :: rest => longLiteralText? (rest.length + 1) [] (dropNewline rest)
  | '"' :: rest => basicText? (rest.length + 1) [] rest
  | '\x27' :: rest => literalText? rest
  | _ => none

/-! ## Numbers -/

/-- Digits without the underscores between them; each underscore stands between two digits. -/
def plainDigits? (isDigit : Char → Bool) : List Char → Option (List Char)
  | [] => none
  | [c] => if isDigit c then some [c] else none
  | c :: '_' :: rest => if isDigit c then (plainDigits? isDigit rest).map (c :: ·) else none
  | c :: rest => if isDigit c then (plainDigits? isDigit rest).map (c :: ·) else none

/-- A whole number in a base, if it is not too large. -/
def integerIn? (base : Nat) (isDigit : Char → Bool) (cs : List Char) : Option Value :=
  match plainDigits? isDigit cs with
  | none => none
  | some ds =>
    let n := natOfDigits base ds
    if n < Nat.pow 2 63 then some (.integer (Int.ofNat n)) else none

/-- A digit of an octal number. -/
def isOctalDigit (c : Char) : Bool := '0' ≤ c && c ≤ '7'

/-- A digit of a binary number. -/
def isBinaryDigit (c : Char) : Bool := c == '0' || c == '1'

/-- The text in front of the first of some characters, and the text behind it. -/
def splitAtFirst (p : Char → Bool) (cs : List Char) : List Char × Option (List Char) :=
  match cs.dropWhile (fun c => !p c) with
  | [] => (cs, none)
  | _ :: rest => (cs.takeWhile (fun c => !p c), some rest)

/-- An exponent behind its letter. -/
def scale? (cs : List Char) : Option Int :=
  match cs with
  | '+' :: ds => (plainDigits? Text.isAsciiDigit ds).map (fun ds => Int.ofNat (natOfDigits 10 ds))
  | '-' :: ds => (plainDigits? Text.isAsciiDigit ds).map (fun ds => -Int.ofNat (natOfDigits 10 ds))
  | ds => (plainDigits? Text.isAsciiDigit ds).map (fun ds => Int.ofNat (natOfDigits 10 ds))

/-- A part of a number that may be missing, but must be well formed when it is there. -/
def part? {α : Type} (read : List Char → Option α) : Option (List Char) → Option (Option α)
  | none => some none
  | some cs => (read cs).map some

/-- A decimal number behind its sign. -/
def decimal? (negative : Bool) (cs : List Char) : Option Value := do
  let (mantissa, scale) := splitAtFirst (fun c => c == 'e' || c == 'E') cs
  let (whole, fraction) := splitAtFirst (· == '.') mantissa
  let whole ← plainDigits? Text.isAsciiDigit whole
  match whole with
  | '0' :: _ :: _ => none
  | _ =>
    let fraction ← part? (plainDigits? Text.isAsciiDigit) fraction
    let exponent ← part? scale? scale
    let n : Numeral := { negative, whole, fraction, exponent }
    if n.isWhole then
      let bound := Int.ofNat (Nat.pow 2 63)
      if -bound ≤ n.integer && n.integer < bound then some (.integer n.integer) else none
    else (n.decimal?).map .decimal

/-- A number. -/
def number? (cs : List Char) : Option Value :=
  match cs with
  | '0' :: 'x' :: rest => integerIn? 16 Text.isHexDigit rest
  | '0' :: 'o' :: rest => integerIn? 8 isOctalDigit rest
  | '0' :: 'b' :: rest => integerIn? 2 isBinaryDigit rest
  | '+' :: rest => decimal? false rest
  | '-' :: rest => decimal? true rest
  | rest => decimal? false rest

/-! ## Dates -/

/-- The number of the first two characters when they are digits, and the text behind them. -/
def twoDigits? : List Char → Option (Nat × List Char)
  | a :: b :: rest =>
    if Text.isAsciiDigit a && Text.isAsciiDigit b then some (natOfDigits 10 [a, b], rest) else none
  | _ => none

/-- The days of a month. -/
def daysIn (year month : Nat) : Nat :=
  if month = 2 then (if year % 4 = 0 ∧ (year % 100 ≠ 0 ∨ year % 400 = 0) then 29 else 28)
  else if month = 4 ∨ month = 6 ∨ month = 9 ∨ month = 11 then 30
  else 31

/-- The text behind a date. -/
def afterDate? (cs : List Char) : Option (List Char) := do
  let (century, cs) ← twoDigits? cs
  let (year, cs) ← twoDigits? cs
  let '-' :: cs := cs | none
  let (month, cs) ← twoDigits? cs
  let '-' :: cs := cs | none
  let (day, cs) ← twoDigits? cs
  if 1 ≤ month ∧ month ≤ 12 ∧ 1 ≤ day ∧ day ≤ daysIn (century * 100 + year) month then some cs
  else none

/-- The text behind the fraction of a second, if there is one. -/
def afterFraction? (cs : List Char) : Option (List Char) :=
  match cs with
  | '.' :: rest =>
    match takeDigits rest with
    | ([], _) => none
    | (_, rest) => some rest
  | cs => some cs

/-- The text behind a time of day. -/
def afterTime? (cs : List Char) : Option (List Char) := do
  let (hour, cs) ← twoDigits? cs
  let ':' :: cs := cs | none
  let (minute, cs) ← twoDigits? cs
  let ':' :: cs := cs | none
  let (second, cs) ← twoDigits? cs
  let cs ← afterFraction? cs
  if hour < 24 ∧ minute < 60 ∧ second ≤ 60 then some cs else none

/-- Nothing follows, or the distance from world time. -/
def isOffset (cs : List Char) : Bool :=
  match cs with
  | [] | ['Z'] | ['z'] => true
  | sign :: rest =>
    (sign == '+' || sign == '-') &&
      match twoDigits? rest with
      | some (hour, ':' :: rest) =>
        match twoDigits? rest with
        | some (minute, []) => hour < 24 && minute < 60
        | _ => false
      | _ => false

/-- A time of day, or a date that a time of day may follow. -/
def isDate (cs : List Char) : Bool :=
  match afterDate? cs with
  | some [] => true
  | some (mark :: rest) =>
    (mark == 'T' || mark == 't' || mark == ' ') && (afterTime? rest).any isOffset
  | none => (afterTime? cs).any List.isEmpty

/-! ## Scalars without quotes -/

/-- A character of a scalar without quotes. -/
def isScalarChar (c : Char) : Bool :=
  Text.isAsciiAlnum c || c == '+' || c == '-' || c == '_' || c == '.' || c == ':'

/-- The characters of a scalar. A time of day may follow a date behind a space. -/
def takeScalar (cs : List Char) : List Char × List Char :=
  let word := cs.takeWhile isScalarChar
  let rest := cs.drop word.length
  match rest with
  | ' ' :: a :: b :: ':' :: _ =>
    if word.length = 10 && Text.isAsciiDigit a && Text.isAsciiDigit b &&
        (afterDate? word).isSome then
      let time := (rest.drop 1).takeWhile isScalarChar
      (word ++ ' ' :: time, rest.drop (time.length + 1))
    else (word, rest)
  | _ => (word, rest)

/-- The value of a scalar without quotes. -/
def plain? (cs : List Char) : Option Value :=
  match String.ofList cs with
  | "true" => some (.bool true)
  | "false" => some (.bool false)
  | "inf" | "+inf" => some (.infinity false)
  | "-inf" => some (.infinity true)
  | "nan" | "+nan" | "-nan" => some .nan
  | s => if isDate cs then some (.text s) else number? cs

/-- **A scalar without quotes**, and the text behind it. -/
def scalar? (cs : List Char) : Option (Value × List Char) :=
  let (word, rest) := takeScalar cs
  (plain? word).map (·, rest)

end ArticleMarkup.Toml
