import ArticleMarkup.Data.Value

/-!
# Numbers in data files

The parts that numbers of all data formats share: runs of digits, a fraction and an exponent.

## Main definitions

- `Numeral` — the parts of a number
- `Numeral.value?` — the value that the parts stand for
- `takeDigits` — a run of digits
-/

namespace ArticleMarkup

/-- **The parts of a number.** -/
structure Numeral where
  /-- There is a minus sign. -/
  negative : Bool := false
  /-- The digits in front of the point. -/
  whole : List Char
  /-- The digits behind the point, if there is one. -/
  fraction : Option (List Char) := none
  /-- The exponent, if there is one. -/
  exponent : Option Int := none
deriving Repr

/-- The digits at the front, and the text behind them. -/
def takeDigits (cs : List Char) : List Char × List Char :=
  (cs.takeWhile Text.isAsciiDigit, cs.dropWhile Text.isAsciiDigit)

/-- The number that digits of a base stand for. -/
def natOfDigits (base : Nat) (cs : List Char) : Nat :=
  cs.foldl (fun n c => n * base + Text.hexValue c) 0

/-- Ten to this power lies beyond all numbers that can be held. -/
def exponentCap : Int := 309

/-- Below ten to this power every number is as good as zero. -/
def exponentFloor : Int := -400

namespace Numeral

/-- The number is written without point and exponent. -/
def isWhole (n : Numeral) : Bool :=
  n.fraction.isNone && n.exponent.isNone

/-- The whole number, its sign included. -/
def integer (n : Numeral) : Int :=
  let m := Int.ofNat (natOfDigits 10 n.whole)
  if n.negative then -m else m

/-- The number as a decimal; numbers too large to be held have none. -/
def decimal? (n : Numeral) : Option Decimal :=
  let fraction := n.fraction.getD []
  let digits := natOfDigits 10 (n.whole ++ fraction)
  let exponent := n.exponent.getD 0 - Int.ofNat fraction.length
  let size := exponent + Int.ofNat (toString digits).length
  if digits = 0 then some ⟨n.negative, 0, 0⟩
  else if exponentCap < size then none
  else if size < exponentFloor then some ⟨n.negative, 0, 0⟩
  else some ⟨n.negative, digits, exponent⟩

end Numeral

/-- An exponent behind its letter: digits with or without a sign. -/
def exponent? (cs : List Char) : Option (Int × List Char) :=
  let (negative, cs) :=
    match cs with
    | '+' :: rest => (false, rest)
    | '-' :: rest => (true, rest)
    | rest => (false, rest)
  match takeDigits cs with
  | ([], _) => none
  | (ds, rest) =>
    let n := Int.ofNat (natOfDigits 10 ds)
    some (if negative then -n else n, rest)

/-- The character with this code, unless there is none. -/
def charOfCode? (code : Nat) : Option Char :=
  if code.isValidChar then some (Char.ofNat code) else none

/-- The number that the first `count` characters stand for when all of them are hexadecimal digits,
and the text behind them. -/
def hexCode? (count : Nat) (cs : List Char) : Option (Nat × List Char) :=
  let ds := cs.take count
  if ds.length = count && ds.all Text.isHexDigit then some (natOfDigits 16 ds, cs.drop count)
  else none

end ArticleMarkup
