import ArticleMarkup.Data.Numeral
import ArticleMarkup.Highlight.Grammar.Regex

/-!
# Reading regular expressions

## Main definitions

- `Regex.read?` — the expression that a text stands for
- `regex` — the same, where a text that is no expression matches nothing

## Design notes

Groups are numbered from left to right by their opening parentheses, so the reader carries the
number of groups opened so far. In free form, white space and comments in an expression have no
meaning.
-/

namespace ArticleMarkup.Highlight.Grammar

/-- How an expression is to be read. -/
structure Mode where
  /-- The case of letters does not matter. -/
  fold : Bool := false
  /-- White space and comments have no meaning. -/
  free : Bool := false
  /-- Numbers refer to the groups of an earlier expression. -/
  opened : Bool := false
deriving DecidableEq, Repr

/-- Nothing matches. -/
def Regex.never : Regex := .ahead false .empty

/-- Exactly one character. -/
def CharSet.single (c : Char) : CharSet := .range c c

/-- No character. -/
def CharSet.nothing : CharSet := .except .all

/-- The set that an escape with this letter stands for. -/
def setEscape? (c : Char) : Option CharSet :=
  match c with
  | 'w' => some .word
  | 'W' => some (.except .word)
  | 'd' => some .digit
  | 'D' => some (.except .digit)
  | 's' => some .space
  | 'S' => some (.except .space)
  | 'h' => some .hex
  | 'H' => some (.except .hex)
  | _ => none

/-- The place that an escape with this letter stands for. -/
def placeEscape? (c : Char) : Option Anchor :=
  match c with
  | 'b' => some .wordEdge
  | 'B' => some .noWordEdge
  | 'A' => some .textStart
  | 'z' => some .textEnd
  | 'Z' => some .lastLineEnd
  | _ => none

/-- The character that an escape stands for, with the text behind it. -/
def charEscape (c : Char) (rest : List Char) : Char × List Char :=
  match c with
  | 'n' => ('\n', rest)
  | 't' => ('\t', rest)
  | 'r' => ('\r', rest)
  | 'f' => ('\x0c', rest)
  | 'v' => ('\x0b', rest)
  | 'e' => ('\x1b', rest)
  | 'x' =>
    match hexCode? 2 rest with
    | some (n, rest) => (Char.ofNat n, rest)
    | none => ('x', rest)
  | c => (c, rest)

/-- The set that a name between colons stands for. -/
def namedSet? (name : String) : Option CharSet :=
  let letters : CharSet := .union (.range 'a' 'z') (.range 'A' 'Z')
  match name with
  | "alpha" => some letters
  | "digit" => some .digit
  | "alnum" => some (.union letters .digit)
  | "upper" => some (.range 'A' 'Z')
  | "lower" => some (.range 'a' 'z')
  | "space" => some .space
  | "blank" => some (.union (.single ' ') (.single '\t'))
  | "xdigit" => some .hex
  | "word" => some .word
  | "punct" =>
    some (.union (.union (.range '!' '/') (.range ':' '@'))
      (.union (.range '[' '\x60') (.range '\x7b' '~')))
  | _ => none

/-- A named set behind its opening bracket and colon. -/
def readNamed? (cs : List Char) : Option (CharSet × List Char) :=
  let (negated, cs) :=
    match cs with
    | '^' :: rest => (true, rest)
    | rest => (false, rest)
  let name := cs.takeWhile Text.isAsciiLetter
  match cs.drop name.length, namedSet? (String.ofList name) with
  | ':' :: ']' :: rest, some s => some (if negated then .except s else s, rest)
  | _, _ => none

/-- A single member of a set: a character, or a set that an escape stands for. -/
def readMember? (cs : List Char) : Option ((Char ⊕ CharSet) × List Char) :=
  match cs with
  | '\\' :: c :: rest =>
    match setEscape? c with
    | some s => some (.inr s, rest)
    | none =>
      if c = 'b' then some (.inl '\x08', rest)
      else
        let (c, rest) := charEscape c rest
        some (.inl c, rest)
  | c :: rest => some (.inl c, rest)
  | [] => none

/-- The members of a set up to its closing bracket; `done` are those read already and `first` says
that there are none yet. -/
def readSet? (fuel : Nat) (first : Bool) (done : CharSet) (cs : List Char) :
    Option (CharSet × List Char) :=
  match fuel with
  | 0 => none
  | fuel + 1 =>
    match cs with
    | [] => none
    | ']' :: rest =>
      if first then readSet? fuel false (.union done (.single ']')) rest else some (done, rest)
    | '[' :: ':' :: rest =>
      match readNamed? rest with
      | some (s, rest) => readSet? fuel false (.union done s) rest
      | none => readSet? fuel false (.union done (.single '[')) (':' :: rest)
    | '[' :: '^' :: rest =>
      match readSet? fuel true .nothing rest with
      | some (s, rest) => readSet? fuel false (.union done (.except s)) rest
      | none => none
    | '[' :: rest =>
      match readSet? fuel true .nothing rest with
      | some (s, rest) => readSet? fuel false (.union done s) rest
      | none => none
    | '&' :: '&' :: rest =>
      match readSet? fuel true .nothing rest with
      | some (s, rest) => some (.inter done s, rest)
      | none => none
    | cs =>
      match readMember? cs with
      | none => none
      | some (.inr s, rest) => readSet? fuel false (.union done s) rest
      | some (.inl c, '-' :: ']' :: rest) =>
        readSet? fuel false (.union done (.single c)) ('-' :: ']' :: rest)
      | some (.inl c, '-' :: rest) =>
        match readMember? rest with
        | some (.inl d, rest) => readSet? fuel false (.union done (.range c d)) rest
        | _ => readSet? fuel false (.union done (.union (.single c) (.single '-'))) rest
      | some (.inl c, rest) => readSet? fuel false (.union done (.single c)) rest

/-- A set behind its opening bracket. -/
def readBrackets? (cs : List Char) : Option (CharSet × List Char) :=
  match cs with
  | '^' :: rest =>
    (readSet? (2 * rest.length + 1) true .nothing rest).map (fun (s, rest) => (.except s, rest))
  | rest => readSet? (2 * rest.length + 1) true .nothing rest

/-- How a repetition with these bounds is tried, by the mark behind it. -/
def readGreed (cs : List Char) : Greed × List Char :=
  match cs with
  | '?' :: rest => (.lazy, rest)
  | '+' :: rest => (.possessive, rest)
  | rest => (.greedy, rest)

/-- Bounds of a repetition behind the opening brace. -/
def readBounds? (cs : List Char) : Option (Nat × Option Nat × List Char) :=
  let (least, cs) := takeDigits cs
  match cs with
  | '\x7d' :: rest =>
    if least.isEmpty then none
    else some (natOfDigits 10 least, some (natOfDigits 10 least), rest)
  | ',' :: rest =>
    let (most, rest) := takeDigits rest
    match rest with
    | '\x7d' :: rest =>
      if least.isEmpty && most.isEmpty then none
      else
        let bound := if most.isEmpty then none else some (natOfDigits 10 most)
        some (natOfDigits 10 least, bound, rest)
    | _ => none
  | _ => none

/-- The repetitions behind a part of an expression. -/
def readTimes (fuel : Nat) (r : Regex) (cs : List Char) : Regex × List Char :=
  match fuel with
  | 0 => (r, cs)
  | fuel + 1 =>
    match cs with
    | '*' :: rest =>
      let (greed, rest) := readGreed rest
      readTimes fuel (.times r 0 none greed) rest
    | '+' :: rest =>
      let (greed, rest) := readGreed rest
      readTimes fuel (.times r 1 none greed) rest
    | '?' :: rest =>
      let (greed, rest) := readGreed rest
      readTimes fuel (.times r 0 (some 1) greed) rest
    | '\x7b' :: rest =>
      match readBounds? rest with
      | some (least, most, rest) =>
        let (greed, rest) := readGreed rest
        readTimes fuel (.times r least most greed) rest
      | none => (r, cs)
    | _ => (r, cs)

/-- The letters that change the mode, behind a parenthesis and a question mark. -/
def readFlags (on : Bool) (mode : Mode) : List Char → Option (Mode × List Char)
  | 'i' :: rest => readFlags on { mode with fold := on } rest
  | 'x' :: rest => readFlags on { mode with free := on } rest
  | 'm' :: rest => readFlags on mode rest
  | 's' :: rest => readFlags on mode rest
  | '-' :: rest => readFlags false mode rest
  | ')' :: rest => some (mode, ')' :: rest)
  | ':' :: rest => some (mode, ':' :: rest)
  | _ => none

/-- White space and comments are skipped in free form. -/
def skipFree (fuel : Nat) (mode : Mode) (cs : List Char) : List Char :=
  match fuel with
  | 0 => cs
  | fuel + 1 =>
    if mode.free then
      match cs with
      | '#' :: rest => skipFree fuel mode (rest.dropWhile (· != '\n'))
      | c :: rest => if Text.isAsciiSpace c then skipFree fuel mode rest else c :: rest
      | [] => []
    else cs

mutual

/-- Alternatives up to a closing parenthesis or the end. -/
def readAlternatives? (fuel : Nat) (mode : Mode) (count : Nat) (cs : List Char) :
    Option (Regex × Nat × List Char) :=
  match fuel with
  | 0 => none
  | fuel + 1 =>
    match readSequence? fuel mode count cs with
    | none => none
    | some (r, count, '|' :: rest) =>
      (readAlternatives? fuel mode count rest).map (fun (s, count, rest) => (.alt r s, count, rest))
    | some (r, count, rest) => some (r, count, rest)

/-- Parts one after the other. -/
def readSequence? (fuel : Nat) (mode : Mode) (count : Nat) (cs : List Char) :
    Option (Regex × Nat × List Char) :=
  match fuel with
  | 0 => none
  | fuel + 1 =>
    match skipFree cs.length mode cs with
    | [] => some (.empty, count, [])
    | ')' :: rest => some (.empty, count, ')' :: rest)
    | '|' :: rest => some (.empty, count, '|' :: rest)
    | '(' :: '?' :: rest =>
      match readFlags true mode rest with
      | some (inner, ')' :: rest) => readAlternatives? fuel inner count rest
      | _ => readPart? fuel mode count ('(' :: '?' :: rest)
    | cs => readPart? fuel mode count cs

/-- One part, its repetitions, and what follows. -/
def readPart? (fuel : Nat) (mode : Mode) (count : Nat) (cs : List Char) :
    Option (Regex × Nat × List Char) :=
  match fuel with
  | 0 => none
  | fuel + 1 =>
    match readAtom? fuel mode count cs with
    | none => none
    | some (r, count, rest) =>
      let (r, rest) := readTimes rest.length r (skipFree rest.length mode rest)
      (readSequence? fuel mode count rest).map (fun (s, count, rest) => (.seq r s, count, rest))

/-- One part without its repetitions. -/
def readAtom? (fuel : Nat) (mode : Mode) (count : Nat) (cs : List Char) :
    Option (Regex × Nat × List Char) :=
  match fuel with
  | 0 => none
  | fuel + 1 =>
    let grouped (wrap : Regex → Regex) (mode : Mode) (count : Nat) (cs : List Char) :
        Option (Regex × Nat × List Char) :=
      match readAlternatives? fuel mode count cs with
      | some (r, count, ')' :: rest) => some (wrap r, count, rest)
      | _ => none
    match cs with
    | '(' :: '?' :: '=' :: rest => grouped (.ahead true) mode count rest
    | '(' :: '?' :: '!' :: rest => grouped (.ahead false) mode count rest
    | '(' :: '?' :: '<' :: '=' :: rest => grouped (.behind true) mode count rest
    | '(' :: '?' :: '<' :: '!' :: rest => grouped (.behind false) mode count rest
    | '(' :: '?' :: '>' :: rest => grouped .atomic mode count rest
    | '(' :: '?' :: rest =>
      match readFlags true mode rest with
      | some (inner, ':' :: rest) => grouped id inner count rest
      | _ => none
    | '(' :: rest => grouped (.group (count + 1)) mode (count + 1) rest
    | '[' :: rest => (readBrackets? rest).map (fun (s, rest) => (.one s mode.fold, count, rest))
    | '.' :: rest => some (.one (.except (.single '\n')) false, count, rest)
    | '^' :: rest => some (.place .lineStart, count, rest)
    | '$' :: rest => some (.place .lineEnd, count, rest)
    | '\\' :: c :: rest =>
      match setEscape? c, placeEscape? c with
      | some s, _ => some (.one s false, count, rest)
      | _, some anchor => some (.place anchor, count, rest)
      | _, _ =>
        if '1' ≤ c && c ≤ '9' then
          let n := c.toNat - '0'.toNat
          some (if mode.opened then .opened n else .same n, count, rest)
        else
          let (c, rest) := charEscape c rest
          some (.one (.single c) mode.fold, count, rest)
    | c :: rest => some (.one (.single c) mode.fold, count, rest)
    | [] => none

end

/-- **The expression that a text stands for**, if it is one. -/
def Regex.read? (mode : Mode) (text : String) : Option Regex :=
  let cs := text.toList
  match readAlternatives? (4 * cs.length + 4) mode 0 cs with
  | some (r, _, []) => some r
  | _ => none

/-- **The expression that a text stands for**; a text that is none matches nothing. -/
def regex (text : String) : Regex :=
  (Regex.read? {} text).getD .never

/-- An expression in which numbers refer to the groups of the expression that opened the context. -/
def regexOpened (text : String) : Regex :=
  (Regex.read? { opened := true } text).getD .never

end ArticleMarkup.Highlight.Grammar
