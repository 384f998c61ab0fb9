import ArticleMarkup.Text.Ascii

/-!
# Punycode

The writing of a label of any script in ASCII. The ASCII characters of the label come first, closed
by a hyphen; behind it, numbers in base 36 say where each of the other characters belongs and how
far its code point lies from the one before.

## Main definitions

- `Punycode.Decoder` — what is known after some of the digits
- `Punycode.decode?` — the label that a text stands for

## Design notes

The digits of a number have weights that depend on a bias, which follows the size of the numbers so
far. A decoder takes the digits one by one, so that decoding is a fold.
-/

namespace ArticleMarkup.Url.Punycode

/-- What is known after some of the digits. -/
structure Decoder where
  /-- The label so far. -/
  label : List Char
  /-- The code point inserted last; ASCII lies below the first one. -/
  code : Nat := 128
  /-- The bias that sets the weights of the digits. -/
  bias : Nat := 72
  /-- The number that is being read starts from here. -/
  start : Nat := 0
  /-- The number as far as it is read. -/
  total : Nat := 0
  /-- The weight of the next digit. -/
  weight : Nat := 1
  /-- The position of the next digit, counted in steps of 36. -/
  position : Nat := 36

/-- The value of a digit: letters come before decimal digits. -/
def digit? (c : Char) : Option Nat :=
  if 'a' ≤ c && c ≤ 'z' then some (c.toNat - 'a'.toNat)
  else if 'A' ≤ c && c ≤ 'Z' then some (c.toNat - 'A'.toNat)
  else if Text.isAsciiDigit c then some (c.toNat - '0'.toNat + 26)
  else none

/-- Divide by 35 until a digit at its greatest cannot exceed the rest; each division counts 36. -/
def reduceBias (fuel delta bias : Nat) : Nat :=
  match fuel with
  | 0 => bias + 36 * delta / (delta + 38)
  | fuel + 1 =>
    if 455 < delta then reduceBias fuel (delta / 35) (bias + 36)
    else bias + 36 * delta / (delta + 38)

/-- The bias after a number: `delta` is its size, `count` the number of characters with the new
one. -/
def adapt (delta count : Nat) (first : Bool) : Nat :=
  let delta := if first then delta / 700 else delta / 2
  let delta := delta + delta / count
  reduceBias delta delta 0

/-- A digit below this value ends its number. -/
def threshold (position bias : Nat) : Nat :=
  if position ≤ bias then 1 else if bias + 26 ≤ position then 26 else position - bias

/-- The largest number that can be read. -/
def numberCap : Nat := Nat.pow 2 32

/-- Put a character at a place of a list. -/
def insertAt (place : Nat) (c : Char) (cs : List Char) : List Char :=
  cs.take place ++ c :: cs.drop place

/-- **Take one digit**, or refuse it. -/
def Decoder.step (d : Decoder) (c : Char) : Option Decoder :=
  match digit? c with
  | none => none
  | some v =>
    let total := d.total + v * d.weight
    let t := threshold d.position d.bias
    if numberCap ≤ total then none
    else if v < t then
      let count := d.label.length + 1
      let code := d.code + total / count
      let place := total % count
      if code.isValidChar then
        some { label := insertAt place (Char.ofNat code) d.label, code,
               bias := adapt (total - d.start) count (d.start == 0),
               start := place + 1, total := place + 1 }
      else none
    else some { d with total, weight := d.weight * (36 - t), position := d.position + 36 }

/-- The text in front of the last hyphen and the text behind it; without a hyphen, or with one at
the very front, all of it is behind. -/
def splitAtHyphen (cs : List Char) : List Char × List Char :=
  let behind := (cs.reverse.takeWhile (· != '-')).reverse
  (cs.take (cs.length - behind.length - 1), behind)

/-- **The label that a text stands for**, if it stands for one. -/
def decode? (cs : List Char) : Option (List Char) :=
  let (plain, digits) := splitAtHyphen cs
  match digits.foldlM Decoder.step { label := plain } with
  | none => none
  | some d => if d.position = 36 then some d.label else none

end ArticleMarkup.Url.Punycode
