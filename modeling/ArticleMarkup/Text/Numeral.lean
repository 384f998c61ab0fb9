import ArticleMarkup.Text.Ascii

/-!
# Numerals

Decimal numerals in text, with an optional sign.

## Main definitions

- `Text.natOfDigits?` — digits only
- `Text.unsigned?`, `Text.signed?` — with a sign in front
-/

namespace ArticleMarkup.Text

/-- The number that decimal digits stand for; at least one digit is needed. -/
def natOfDigits? (cs : List Char) : Option Nat :=
  if cs.isEmpty || !cs.all isAsciiDigit then none
  else some (cs.foldl (fun n c => n * 10 + (c.toNat - '0'.toNat)) 0)

/-- A numeral below `limit`, with or without a plus sign. -/
def unsigned? (limit : Nat) (text : String) : Option Nat :=
  let digits :=
    match text.toList with
    | '+' :: cs => cs
    | cs => cs
  match natOfDigits? digits with
  | some n => if n < limit then some n else none
  | none => none

/-- A numeral with or without a sign. -/
def signed? (text : String) : Option Int :=
  match text.toList with
  | '+' :: cs => (natOfDigits? cs).map Int.ofNat
  | '-' :: cs => (natOfDigits? cs).map (fun n => -Int.ofNat n)
  | cs => (natOfDigits? cs).map Int.ofNat

end ArticleMarkup.Text
