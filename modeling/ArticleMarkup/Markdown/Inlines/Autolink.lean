import ArticleMarkup.Text.Punctuation
import ArticleMarkup.Markdown.Inlines

/-!
# Bare addresses

Addresses that are links without any markup: web addresses that begin with a scheme or with `www.`,
found while a text is read, and addresses of electronic mail, found in the finished texts.

## Main definitions

- `trimAddress` — leave out punctuation at the end of an address
- `webLink?`, `schemeLink?` — the address at a place in a text
- `Inlines.linkMail` — a text with its mail addresses as links
-/

namespace ArticleMarkup.Markdown

/-- A text between angle brackets that is an address with a scheme: the address, and the text behind
the brackets. -/
def pointedUri? (cs : List Char) : Option (List Char × List Char) :=
  let isSchemeChar (c : Char) : Bool := Text.isAsciiAlnum c || c == '.' || c == '+' || c == '-'
  match cs with
  | c :: rest =>
    let more := rest.takeWhile isSchemeChar
    if Text.isAsciiLetter c && 1 ≤ more.length && more.length ≤ 31 then
      match rest.drop more.length with
      | ':' :: path =>
        let path' := path.dropWhile fun c => c.toNat > 0x20 && c != '<' && c != '>'
        match path' with
        | '>' :: behind => some (upTo cs path', behind)
        | _ => none
      | _ => none
    else none
  | [] => none

/-- A character in front of the `@` of a mail address in angle brackets. -/
def isMailNameChar (c : Char) : Bool :=
  Text.isAsciiAlnum c || ".!#$%&'*+/=?^_\x60\x7b|\x7d~-".toList.contains c

/-- The text behind a part of a host name: at most 63 letters, digits and hyphens, with no hyphen at
either end. -/
def hostPart? (cs : List Char) : Option (List Char) :=
  let part := cs.takeWhile fun c => Text.isAsciiAlnum c || c == '-'
  if part.head?.any Text.isAsciiAlnum && part.getLast?.any Text.isAsciiAlnum &&
      part.length ≤ 63 then
    some (cs.drop part.length)
  else none

/-- The text behind a host name; `fuel` bounds its parts. -/
def hostName? : Nat → List Char → Option (List Char)
  | 0, _ => none
  | fuel + 1, cs =>
    match hostPart? cs with
    | some ('.' :: rest) => hostName? fuel rest
    | x => x

/-- A text between angle brackets that is a mail address: the address, and the text behind the
brackets. -/
def pointedMail? (cs : List Char) : Option (List Char × List Char) :=
  match cs.dropWhile isMailNameChar with
  | '@' :: host =>
    if cs.head?.any isMailNameChar then
      match hostName? host.length host with
      | some ('>' :: behind) => some (upTo cs ('>' :: behind), behind)
      | _ => none
    else none
  | _ => none

/-! ## Ends of addresses -/

/-- Punctuation that does not belong to an address at its end. -/
def isTrailingMark (c : Char) : Bool :=
  "?!.,:*_~'\"".toList.contains c

/-- Leave out the end of an address that is given backwards: punctuation, what looks like a
character reference, and closing parentheses that were not opened; `fuel` bounds the steps. -/
def trimAddressBack : Nat → List Char → List Char
  | 0, back => back
  | _ + 1, [] => []
  | fuel + 1, c :: back =>
    if isTrailingMark c then trimAddressBack fuel back
    else if c = ';' then
      let name := back.takeWhile Text.isAsciiLetter
      match back.drop name.length with
      | '&' :: rest => trimAddressBack fuel (if name.isEmpty then back else rest)
      | _ => trimAddressBack fuel back
    else if c = ')' then
      if (c :: back).count ')' ≤ (c :: back).count '(' then c :: back else trimAddressBack fuel back
    else c :: back

/-- **The address proper** at the front of `cs`, which ends before any `<`. -/
def trimAddress (cs : List Char) : List Char :=
  let cs := cs.takeWhile (· != '<')
  (trimAddressBack cs.length cs.reverse).reverse

/-! ## Web addresses -/

/-- The state of a host name that is being read: the dots, and the underscores in the last part but
one and in the last part. -/
structure HostScan where
  /-- The dots. -/
  dots : Nat := 0
  /-- The last part but one holds an underscore. -/
  inPrevious : Bool := false
  /-- The last part holds an underscore. -/
  inLast : Bool := false
deriving DecidableEq, Repr

/-- A character that may stand in a host name, the hyphen, underscore and dot apart. -/
def isHostChar (c : Char) : Bool :=
  !(Text.isBlankChar c || Text.isPunctuation c)

/-- The text begins with a host name. Its last two parts hold no underscore, or else the text ends
with it and it has more than ten dots. It holds a dot unless it may be `short`. -/
def hasHost (short : Bool) (s : HostScan) : List Char → Bool
  | [] => !((s.inPrevious || s.inLast) && s.dots ≤ 10) && (short || s.dots > 0)
  | c :: cs =>
    if c = '_' then hasHost short { s with inLast := true } cs
    else if c = '.' then hasHost short ⟨s.dots + 1, s.inLast, false⟩ cs
    else if isHostChar c || c == '-' then hasHost short s cs
    else !s.inPrevious && !s.inLast && (short || s.dots > 0)

/-- A link at a place in a text: how many characters before the place belong to it, the characters
from there on, and the text behind it. -/
structure FoundLink where
  /-- The characters before the place. -/
  back : Nat
  /-- The address as it is written. -/
  written : List Char
  /-- What has to be put before it to make it a full address. -/
  implied : String
  /-- The text behind it. -/
  behind : List Char

/-- The link as a piece of content. -/
def FoundLink.content (l : FoundLink) : Inlines :=
  .leaf (.text (String.ofList l.written)) .nil

/-- Where the link leads. -/
def FoundLink.target (l : FoundLink) : Target :=
  ⟨l.implied ++ String.ofList l.written, ""⟩

/-- The address that begins with `www.` at this place, if the character before lets one begin. -/
def webLink? (before rest : List Char) : Option FoundLink :=
  let free :=
    match before with
    | [] => true
    | c :: _ => isSpace c || "*_~([".toList.contains c
  match free, Text.dropStart? "www.".toList rest with
  | true, some host =>
    if hasHost false {} host then
      let written := trimAddress (rest.takeWhile (!isSpace ·))
      some ⟨0, written, "http://", rest.drop written.length⟩
    else none
  | _, _ => none

/-- The schemes of bare web addresses. -/
def webSchemes : List String := ["http", "https", "ftp"]

/-- The address whose scheme ends at this place, in front of `://`. -/
def schemeLink? (before rest : List Char) : Option FoundLink :=
  let back := before.takeWhile Text.isAsciiLetter
  let scheme := back.reverse
  match rest with
  | ':' :: '/' :: '/' :: host =>
    if !host.isEmpty && webSchemes.contains (String.ofList scheme) && hasHost true {} host then
      let written := trimAddress (rest.takeWhile (!isSpace ·))
      some ⟨back.length, scheme ++ written, "", rest.drop written.length⟩
    else none
  | _ => none

/-! ## Mail addresses -/

/-- The scheme in front of a mail address. -/
inductive MailScheme where
  /-- None is written. -/
  | implied
  /-- `mailto:` is written. -/
  | mail
  /-- `xmpp:` is written. -/
  | chat
deriving DecidableEq, Repr

/-- The characters before an `@` that belong to the address, the last first, and its scheme.
`before` holds all characters before, the last first; `taken` those already found. -/
def mailStart (scheme : MailScheme) (taken : List Char) : List Char → List Char × MailScheme
  | [] => (taken.reverse, scheme)
  | c :: before =>
    if Text.isAsciiAlnum c || ".+-_".toList.contains c then mailStart scheme (c :: taken) before
    else if c = ':' then
      let word := String.ofList (before.takeWhile Text.isAsciiLetter).reverse
      if word = "mailto" then mailStart .mail (c :: taken) before
      else if word = "xmpp" then mailStart .chat (c :: taken) before
      else (taken.reverse, scheme)
    else (taken.reverse, scheme)

/-- The characters behind an `@` that may belong to the address, the last first, and the number of
dots that a letter or digit follows. Another `@` rules the address out. -/
def mailHost? (chat : Bool) (dots : Nat) (taken : List Char) :
    List Char → Option (Nat × List Char)
  | [] => some (dots, taken)
  | c :: cs =>
    if c = '@' then none
    else if c = '.' && cs.head?.any Text.isAsciiAlnum then mailHost? chat (dots + 1) (c :: taken) cs
    else if Text.isAsciiAlnum c || (c == '/' && chat) || c == '-' || c == '_' then
      mailHost? chat dots (c :: taken) cs
    else some (dots, taken)

/-- The mail address around an `@`, with the text before it backwards and the text behind it. -/
def mailLink? (before after : List Char) : Option FoundLink :=
  let (start, scheme) := mailStart .implied [] before
  if start.isEmpty then none
  else
    match mailHost? (scheme == .chat) 0 [] after with
    | some (dots, last :: taken) =>
      if dots = 0 || !(Text.isAsciiLetter last || last == '.') then none
      else
        let host := trimAddress ('@' :: (last :: taken).reverse)
        if host.isEmpty then none
        else
          some ⟨start.length, start.reverse ++ host, if scheme = .implied then "mailto:" else "",
            ('@' :: after).drop host.length⟩
    | _ => none

/-- The first mail address in a text that stands outside brackets: the text before it and the link.
`depth` counts the brackets that are open, `before` holds the text already passed, backwards. -/
def findMail? (depth : Int) (before : List Char) : List Char → Option (List Char × FoundLink)
  | [] => none
  | c :: cs =>
    let depth := if c = '[' then depth + 1 else if c = ']' then depth - 1 else depth
    if depth ≤ 0 && c == '@' then
      match mailLink? before cs with
      | some l => some ((before.drop l.back).reverse, l)
      | none => findMail? depth (c :: before) cs
    else findMail? depth (c :: before) cs

/-- A text with its mail addresses as links, in front of other content; `fuel` bounds their
number. -/
def mailLinksOnto : Nat → List Char → Inlines → Inlines
  | 0, cs, rest => rest.consText (String.ofList cs)
  | fuel + 1, cs, rest =>
    match findMail? 0 [] cs with
    | some (start, l) =>
      let link := .span (.link l.target) l.content (mailLinksOnto fuel l.behind rest)
      if start.isEmpty then link else .leaf (.text (String.ofList start)) link
    | none => if cs.isEmpty then rest else .leaf (.text (String.ofList cs)) rest

/-- **Link the mail addresses** in all texts that are not part of a link or an image. -/
def Inlines.linkMail : Inlines → Inlines
  | nil => nil
  | leaf (.text s) rest => mailLinksOnto s.length s.toList rest.linkMail
  | leaf l rest => leaf l rest.linkMail
  | span (.link t) cs rest => span (.link t) cs rest.linkMail
  | span (.image t) cs rest => span (.image t) cs rest.linkMail
  | span k cs rest => span k cs.linkMail rest.linkMail

end ArticleMarkup.Markdown
