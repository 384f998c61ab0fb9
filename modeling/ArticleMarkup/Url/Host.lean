import ArticleMarkup.Url.HostCharacters
import ArticleMarkup.Url.HostScripts
import ArticleMarkup.Url.NormalForm
import ArticleMarkup.Url.Punycode

/-!
# Hosts

Which texts name a host: an address in numbers, or a name whose labels may come from any script.

## Main definitions

- `Url.isIpv6` — the inside of brackets is an address of eight groups
- `Url.endsInNumber`, `Url.isIpv4` — a name that ends in a number, and whether it is an address
- `Url.label?` — the label that is meant by a part of a name
- `Url.isHost` — the text names a host
- `Url.isOpaqueHost` — the same for schemes that say nothing about hosts
-/

namespace ArticleMarkup.Url

/-- The parts between separators. -/
def splitAt (separator : Char) : List Char → List (List Char)
  | [] => [[]]
  | c :: cs =>
    if c = separator then [] :: splitAt separator cs
    else
      match splitAt separator cs with
      | [] => [[c]]
      | part :: parts => (c :: part) :: parts

/-! ## Addresses in numbers -/

/-- The value of digits in a base, where all of them are digits of that base. -/
def numberIn? (base : Nat) (cs : List Char) : Option Nat :=
  if cs.all (fun c => Text.isHexDigit c && Text.hexValue c < base) then
    some (cs.foldl (fun n c => n * base + Text.hexValue c) 0)
  else none

/-- A part of an address in numbers: hexadecimal behind `0x`, octal behind `0`, else decimal. -/
def ipv4Number? : List Char → Option Nat
  | [] => none
  | '0' :: 'x' :: cs => numberIn? 16 cs
  | '0' :: 'X' :: cs => numberIn? 16 cs
  | '0' :: c :: cs => numberIn? 8 (c :: cs)
  | cs => numberIn? 10 cs

/-- The parts without an empty one at the end. -/
def withoutFinalEmpty (parts : List (List Char)) : List (List Char) :=
  match parts.getLast? with
  | some [] => parts.dropLast
  | _ => parts

/-- The last part, or the one before when the last is empty, is a number. -/
def endsInNumber (parts : List (List Char)) : Bool :=
  match (withoutFinalEmpty parts).getLast? with
  | none => false
  | some part => (!part.isEmpty && part.all Text.isAsciiDigit) || (ipv4Number? part).isSome

/-- **An address of four bytes**, in up to four parts; the last part stands for all bytes that are
left. -/
def isIpv4 (parts : List (List Char)) : Bool :=
  let parts := withoutFinalEmpty parts
  match parts.mapM ipv4Number? with
  | none => false
  | some numbers =>
    match numbers.getLast? with
    | none => false
    | some last =>
      numbers.length ≤ 4 && numbers.dropLast.all (· ≤ 255) &&
        last < Nat.pow 256 (5 - numbers.length)

/-- A decimal byte without leading zeros. -/
def isByte (cs : List Char) : Bool :=
  match cs with
  | [] => false
  | ['0'] => true
  | '0' :: _ => false
  | _ => cs.length ≤ 3 && cs.all Text.isAsciiDigit && (numberIn? 10 cs).any (· ≤ 255)

/-- Four decimal bytes. -/
def isDottedBytes (cs : List Char) : Bool :=
  let parts := splitAt '.' cs
  parts.length == 4 && parts.all isByte

/-- A group of an address of eight groups. -/
def isGroup (cs : List Char) : Bool :=
  1 ≤ cs.length && cs.length ≤ 4 && cs.all Text.isHexDigit

/-- The number of groups that a run of groups between colons stands for. Four decimal bytes may
stand at the end, where `final` holds, and count for two. -/
def groupCount? (final : Bool) : List (List Char) → Option Nat
  | [] => some 0
  | [part] =>
    if isGroup part then some 1
    else if final && isDottedBytes part then some 2
    else none
  | part :: parts => if isGroup part then (groupCount? final parts).map (· + 1) else none

/-- The run of groups that a text holds; the empty text holds none. -/
def groupsIn? (final : Bool) (cs : List Char) : Option Nat :=
  if cs.isEmpty then some 0 else groupCount? final (splitAt ':' cs)

/-- The texts in front of the first double colon and behind it. -/
def splitAtGap? : List Char → Option (List Char × List Char)
  | ':' :: ':' :: rest => some ([], rest)
  | c :: rest => (splitAtGap? rest).map (fun (a, b) => (c :: a, b))
  | [] => none

/-- **An address of eight groups**, where one double colon may stand for groups of zeros. -/
def isIpv6 (cs : List Char) : Bool :=
  match splitAtGap? cs with
  | none => groupsIn? true cs == some 8
  | some (front, back) =>
    match groupsIn? false front, groupsIn? true back with
    | some a, some b => a + b ≤ 7
    | _, _ => false

/-! ## Names -/

/-- The bytes of a text after escapes of two hexadecimal digits are resolved. -/
def percentBytes : List Char → List UInt8
  | [] => []
  | '%' :: a :: b :: cs =>
    if Text.isHexDigit a && Text.isHexDigit b then
      UInt8.ofNat (Text.hexValue a * 16 + Text.hexValue b) :: percentBytes cs
    else 0x25 :: percentBytes (a :: b :: cs)
  | c :: cs => (String.singleton c).toUTF8.toList ++ percentBytes cs

/-- A text with its escapes resolved, if the bytes are text again. -/
def percentDecoded? (cs : List Char) : Option (List Char) :=
  (String.fromUTF8? ⟨(percentBytes cs).toArray⟩).map String.toList

/-- The characters of a name, prepared for look-up. -/
def prepared? : List Char → Option (List Char)
  | [] => some []
  | c :: cs =>
    match prepareChar c, prepared? cs with
    | _, none => none
    | .refused, _ => none
    | .dropped, some rest => some rest
    | .kept, some rest => some (c :: rest)
    | .replaced text, some rest => some (text ++ rest)

/-- The marks at the front are skipped, and the character behind them has the property. -/
def afterMarks (p : Char → Bool) (cs : List Char) : Bool :=
  (cs.dropWhile (fun c => direction c == .attached)).head?.any p

/-- **Joiners** stand in their places: behind a mark that joins consonants, or, for the one that
separates, between letters that would join. `before` is what precedes, last character first. -/
def joinersInPlace (before : List Char) : List Char → Bool
  | [] => true
  | c :: cs =>
    let behindVirama := before.head?.any isVirama
    let placed :=
      if c = '\u200d' then behindVirama
      else if c = '\u200c' then
        behindVirama || (afterMarks joinsBehind before && afterMarks joinsBefore cs)
      else true
    placed && joinersInPlace (c :: before) cs

/-- A label is well formed: no mark at the front, and joiners in their places. -/
def isLabel (cs : List Char) : Bool :=
  !cs.head?.any isMark && joinersInPlace [] cs

/-- **The label that is meant**: an encoded label is decoded, and must decode to a well-formed label
in normal form that could not have been written otherwise. -/
def label? (cs : List Char) : Option (List Char) :=
  match Text.dropStart? "xn--".toList cs with
  | none => if isLabel cs then some cs else none
  | some code =>
    if cs.all (·.toNat < 0x80) then
      match Punycode.decode? code with
      | none => none
      | some label =>
        if label.all (·.toNat < 0x80) || (Text.dropStart? "xn--".toList label).isSome then none
        else if label.all (fun c => prepareChar c == .kept) && normalForm label == label &&
            isLabel label then some label
        else none
    else none

/-- The directions of a label, without the marks at its end. -/
def closingDirection? (cs : List Char) : Option Direction :=
  ((cs.map direction).reverse.dropWhile (· == .attached)).head?

/-- **A label in a name with parts that are written from right to left** is written in one
direction throughout. -/
def keepsDirection (cs : List Char) : Bool :=
  let all := cs.map direction
  match all with
  | [] => true
  | .rightToLeft :: _ =>
    !all.contains .leftToRight && !(all.contains .europeanNumber && all.contains .arabicNumber) &&
      (closingDirection? cs).any (fun d =>
        d == .rightToLeft || d == .europeanNumber || d == .arabicNumber)
  | .leftToRight :: _ =>
    !all.contains .rightToLeft && !all.contains .arabicNumber &&
      (closingDirection? cs).any (fun d => d == .leftToRight || d == .europeanNumber)
  | _ => false

/-- Some character is written from right to left. -/
def hasRightToLeft (cs : List Char) : Bool :=
  cs.any (fun c => direction c == .rightToLeft || direction c == .arabicNumber)

/-- The parts of a name are well-formed labels, and written in one direction each where that
matters. -/
def areLabels (parts : List (List Char)) : Bool :=
  match parts.mapM label? with
  | none => false
  | some labels => !labels.any hasRightToLeft || labels.all keepsDirection

/-- **A host name**: its labels are well formed, and where it ends in a number it is an address. -/
def isName (cs : List Char) : Bool :=
  match (percentDecoded? cs).bind prepared? with
  | none => false
  | some [] => false
  | some name =>
    let parts := splitAt '.' name
    areLabels parts && (!endsInNumber parts || isIpv4 parts)

/-- An address in brackets; the opening bracket is taken off already. -/
def isBracketed (cs : List Char) : Bool :=
  cs.getLast? == some ']' && isIpv6 cs.dropLast

/-- **The text names a host.** -/
def isHost : List Char → Bool
  | '[' :: cs => isBracketed cs
  | cs => isName cs

/-- The characters that a host of any scheme must not hold. -/
def isRefusedOpaque (c : Char) : Bool :=
  "\x00\t\n\r #/:<>?@[\\]^|".toList.contains c

/-- **The text names a host** for a scheme that says nothing about hosts. -/
def isOpaqueHost : List Char → Bool
  | '[' :: cs => isBracketed cs
  | cs => !cs.any isRefusedOpaque

end ArticleMarkup.Url
