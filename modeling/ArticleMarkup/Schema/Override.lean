import ArticleMarkup.Schema

/-!
# Schema overrides

An override adds a tag to a schema, with attributes. It can widen what a document may hold, but
not open a way to run scripts: tags that are always removed, event handlers and style attributes
are refused, and an attribute that holds an address keeps the check of its scheme.

## Main definitions

- `Override`, `AttributeOverride` — what is asked for
- `SchemaError` — why it is refused
- `Schema.withOverrides` — the merged schema, or the first fault in the order of the list
-/

namespace ArticleMarkup

/-- A permission for one attribute. -/
inductive AttributeOverride where
  /-- The attribute with any value. -/
  | name (name : String)
  /-- The attribute with one of the listed values or, when there are none, with one of the listed
  beginnings. -/
  | rule (name : String) (oneOf starts : List String)
deriving DecidableEq, Repr, Inhabited

/-- A tag to allow, and attributes to permit on it. -/
structure Override where
  /-- The tag's name as written. -/
  tag : String
  /-- The attributes as written. -/
  attributes : List AttributeOverride := []
deriving DecidableEq, Repr, Inhabited

/-- A reason to refuse an override. -/
inductive SchemaError where
  /-- The tag is always removed. -/
  | forbiddenTag (tag : String)
  /-- The tag's name is not well formed. -/
  | invalidTagName (tag : String)
  /-- The attribute could run a script or restyle the page. -/
  | forbiddenAttribute (tag attr : String)
  /-- The attribute's name is not well formed. -/
  | invalidAttributeName (attr : String)
deriving DecidableEq, Repr, Inhabited

/-- The text that is shown for the error. -/
def SchemaError.message : SchemaError → String
  | .forbiddenTag tag => "tag \x60" ++ tag ++ "\x60 is always removed and cannot be allowed"
  | .invalidTagName tag => "\x60" ++ tag ++ "\x60 is not a valid tag name"
  | .forbiddenAttribute tag attr =>
    "attribute \x60" ++ attr ++ "\x60 on \x60" ++ tag ++ "\x60 cannot be allowed"
  | .invalidAttributeName attr => "\x60" ++ attr ++ "\x60 is not a valid attribute name"

namespace AttributeOverride

/-- The attribute's name as written. -/
def written : AttributeOverride → String
  | name n => n
  | rule n _ _ => n

/-- The pattern that is asked for. Listed values come before listed beginnings. -/
def pattern : AttributeOverride → Pattern
  | name _ => .any
  | rule _ (v :: vs) _ => .ofValues (v :: vs)
  | rule _ [] (s :: ss) => .startingWith (s :: ss)
  | rule _ [] [] => .any

end AttributeOverride

/-- Names are compared without blank ends and in lowercase. -/
def normalizedName (name : String) : String :=
  Text.lowerAscii (Text.trim name)

/-- A letter, then letters, digits and hyphens. -/
def isTagName (name : String) : Bool :=
  match name.toList with
  | [] => false
  | c :: cs => Text.isAsciiLetter c && cs.all fun c => Text.isAsciiAlnum c || c == '-'

/-- A letter, then letters, digits, hyphens, underscores, colons and dots. -/
def isAttributeName (name : String) : Bool :=
  match name.toList with
  | [] => false
  | c :: cs => Text.isAsciiLetter c &&
      cs.all fun c => Text.isAsciiAlnum c || c == '-' || c == '_' || c == ':' || c == '.'

/-- The attribute runs scripts or carries styles or further addresses. -/
def isForbiddenAttribute (name : String) : Bool :=
  Text.startsWith name "on" || name == "style" || name == "srcdoc" || name == "srcset"

/-- Refuse a tag that cannot be allowed. The wildcard always can. -/
def checkTag (tag : String) : Except SchemaError Unit :=
  if tag = wildcard then .ok ()
  else if !isTagName tag then .error (.invalidTagName tag)
  else if isDroppedTag tag then .error (.forbiddenTag tag)
  else .ok ()

/-- Refuse an attribute that cannot be permitted. -/
def checkAttribute (tag attr : String) : Except SchemaError Unit :=
  if !isAttributeName attr then .error (.invalidAttributeName attr)
  else if isForbiddenAttribute attr then .error (.forbiddenAttribute tag attr)
  else .ok ()

namespace Schema

/-- The pattern that an override gets: an attribute that holds an address gets the link check
whatever was asked for. -/
def overridePattern (attr : AttributeOverride) : Pattern :=
  if urlAttributes.contains (normalizedName attr.written) then .ofSchemes linkSchemes
  else attr.pattern

/-- Permit one attribute of an override on a tag. -/
def addAttribute (tag : String) (schema : Schema) (attr : AttributeOverride) :
    Except SchemaError Schema := do
  let name := normalizedName attr.written
  checkAttribute tag name
  return schema.allowAttribute tag name (overridePattern attr)

/-- Merge one override: first its tag, then its attributes in order. -/
def addOverride (schema : Schema) (entry : Override) : Except SchemaError Schema := do
  let tag := normalizedName entry.tag
  checkTag tag
  entry.attributes.foldlM (addAttribute tag) (schema.allowTag tag)

/-- **Merge overrides** in order, or give the first fault. -/
def withOverrides (schema : Schema) (entries : List Override) : Except SchemaError Schema :=
  entries.foldlM addOverride schema

end Schema

end ArticleMarkup
