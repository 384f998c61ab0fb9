/-!
# Decimal numbers

Numbers with a point or an exponent, as they are written in data files.

## Main definitions

- `Decimal` — sign, digits and power of ten
- `Decimal.toText` — the shortest positional writing
- `Decimal.roundToNat` — the nearest natural number, halves away from zero
-/

namespace ArticleMarkup

/-- **A decimal number**: `digits * 10 ^ exponent`, negated if `negative`. -/
structure Decimal where
  /-- The number has a minus sign. -/
  negative : Bool := false
  /-- All digits, without the point. -/
  digits : Nat
  /-- The power of ten that the last digit counts. -/
  exponent : Int := 0
deriving DecidableEq, Repr, Inhabited

namespace Decimal

/-- Take zeros off the end of a number; each takes one off the count behind the point. -/
def dropZeros : Nat → Nat → Nat × Nat
  | n, 0 => (n, 0)
  | n, places + 1 => if n % 10 = 0 then dropZeros (n / 10) places else (n, places + 1)

/-- Zeros in front of a numeral until it has a given length. -/
def padZeros (width : Nat) (numeral : List Char) : List Char :=
  List.replicate (width - numeral.length) '0' ++ numeral

/-- **The shortest positional writing**: no exponent, no zeros at the end behind the point, and no
point without digits behind it. -/
def toText (d : Decimal) : String :=
  let sign := if d.negative then "-" else ""
  match d.exponent with
  | .ofNat e => sign ++ toString (d.digits * Nat.pow 10 e)
  | .negSucc e =>
    let (n, places) := dropZeros d.digits (e + 1)
    let numeral := padZeros (places + 1) (toString n).toList
    let whole := String.ofList (numeral.take (numeral.length - places))
    if places = 0 then sign ++ whole
    else sign ++ whole ++ "." ++ String.ofList (numeral.drop (numeral.length - places))

/-- The number is zero. -/
def isZero (d : Decimal) : Bool := d.digits == 0

/-- **The nearest natural number.** Halves go away from zero, and a negative number gives zero. -/
def roundToNat (d : Decimal) : Nat :=
  if d.negative then 0
  else
    match d.exponent with
    | .ofNat e => d.digits * Nat.pow 10 e
    | .negSucc e =>
      let unit := Nat.pow 10 (e + 1)
      (2 * d.digits + unit) / (2 * unit)

end Decimal

end ArticleMarkup
