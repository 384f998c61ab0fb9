import ArticleMarkup.Url.Host

/-!
# Addresses

What a reference is, read without a base address: an absolute address with its scheme, a reference
that only makes sense relative to a page, or neither.

## Main definitions

- `Url.scheme?` — the scheme at the front of a text
- `Url.isAuthority` — what stands between two slashes and the path
- `Url.classify` — the kind of a reference

## Design notes

Whatever follows the authority is accepted, so only the scheme and the authority are read. Browsers
leave out tabs and line ends wherever they stand, and read a backslash as a slash for the schemes
they know; both matter here, because a reference that a browser follows must not be taken for a
harmless one.
-/

namespace ArticleMarkup.Url

/-- **The three kinds of reference.** -/
inductive Kind where
  /-- An absolute address with the scheme in lowercase. -/
  | absolute (scheme : String)
  /-- A reference without a scheme. -/
  | relative
  /-- A text with a scheme that is no address. -/
  | invalid
deriving DecidableEq, Repr

/-- Controls and spaces are left out at both ends, and tabs and line ends everywhere. -/
def significant (cs : List Char) : List Char :=
  let isEdge (c : Char) : Bool := c.toNat ≤ 0x20
  let trimmed := ((cs.dropWhile isEdge).reverse.dropWhile isEdge).reverse
  trimmed.filter (fun c => c != '\t' && c != '\n' && c != '\r')

/-- A character of a scheme behind its first letter. -/
def isSchemeChar (c : Char) : Bool :=
  Text.isAsciiAlnum c || c == '+' || c == '-' || c == '.'

/-- **The scheme** at the front of a text, in lowercase, and the text behind its colon. -/
def scheme? (cs : List Char) : Option (String × List Char) :=
  if cs.head?.any Text.isAsciiLetter then
    match cs.dropWhile isSchemeChar with
    | ':' :: rest => some (String.ofList ((cs.takeWhile isSchemeChar).map Char.toLower), rest)
    | _ => none
  else none

/-- The schemes whose addresses always have a host. -/
def hostSchemes : List String := ["http", "https", "ws", "wss", "ftp"]

/-- A character that ends the authority. -/
def endsAuthority (backslash : Bool) (c : Char) : Bool :=
  c == '/' || c == '?' || c == '#' || (backslash && c == '\\')

/-- The text up to the first colon outside brackets, and the text from there on. -/
def splitAtPort (inside : Bool) : List Char → List Char × List Char
  | [] => ([], [])
  | c :: cs =>
    if c = ':' && !inside then ([], c :: cs)
    else
      let inside := if c = '[' then true else if c = ']' then false else inside
      let (host, port) := splitAtPort inside cs
      (c :: host, port)

/-- The text behind a host is empty or a colon with a port: digits of a number below 65536, behind
which only a backslash may follow. -/
def isPort : List Char → Bool
  | [] => true
  | ':' :: cs =>
    let digits := cs.takeWhile Text.isAsciiDigit
    (numberIn? 10 digits).any (· < 65536) &&
      match cs.dropWhile Text.isAsciiDigit with
      | [] => true
      | c :: _ => c == '\\'
  | _ => false

/-- The text in front of the last at sign, if there is one, and the text behind it. -/
def splitAtUser (cs : List Char) : Option (List Char) × List Char :=
  let host := (cs.reverse.takeWhile (· != '@')).reverse
  if host.length = cs.length then (none, cs)
  else (some (cs.take (cs.length - host.length - 1)), host)

/-- **An authority**: perhaps a user name and a password, a host, perhaps a port. `known` says that
the scheme needs a host, `final` that nothing follows the authority. -/
def isAuthority (known final : Bool) (cs : List Char) : Bool :=
  let (user, place) := splitAtUser cs
  let (host, port) := splitAtPort false place
  if host.isEmpty then
    !known && port.isEmpty &&
      match user with
      | none => true
      | some [] => final
      | some user => user == [':']
  else
    (if known then isHost host else isOpaqueHost host) && isPort port

/-- The text behind the slashes of an address starts with a good authority. -/
def startsWithAuthority (known : Bool) (cs : List Char) : Bool :=
  let authority := cs.takeWhile (fun c => !endsAuthority known c)
  isAuthority known (authority.length == cs.length) authority

/-- A drive letter takes the place of a host. -/
def isDrive : List Char → Bool
  | [letter, mark] => Text.isAsciiLetter letter && (mark == ':' || mark == '|')
  | _ => false

/-- What may follow the scheme of a file: perhaps two slashes with a host, which may be missing. -/
def isFileRest : List Char → Bool
  | a :: b :: cs =>
    if (a == '/' || a == '\\') && (b == '/' || b == '\\') then
      let host := cs.takeWhile (fun c => !endsAuthority true c)
      host.isEmpty || isDrive host || isHost host
    else true
  | _ => true

/-- What may follow a scheme. -/
def isRest (scheme : String) (cs : List Char) : Bool :=
  if scheme = "file" then isFileRest cs
  else if hostSchemes.contains scheme then
    startsWithAuthority true (cs.dropWhile (fun c => c == '/' || c == '\\'))
  else
    match cs with
    | '/' :: '/' :: cs => startsWithAuthority false cs
    | _ => true

/-- **The kind of a reference.** -/
def classify (reference : String) : Kind :=
  match scheme? (significant reference.toList) with
  | none => .relative
  | some (scheme, rest) => if isRest scheme rest then .absolute scheme else .invalid

end ArticleMarkup.Url
