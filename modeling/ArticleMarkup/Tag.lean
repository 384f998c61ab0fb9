import ArticleMarkup.Text.Ascii
import ArticleMarkup.Text.Blank

/-!
# Tags

A tag is the name of an element together with its attributes, in the order in which they were
written. Values are raw text; writing them out is the business of `Forest.Written`.

## Main definitions

- `Tag.attr?`, `Tag.setAttr` — look up and replace an attribute, keeping the order
- `Tag.addClass`, `Tag.hasClass` — the class list of a tag
- `Tag.headingLevel?` — the level of `h1` to `h6`
-/

namespace ArticleMarkup

/-- A single attribute. -/
structure Attribute where
  /-- The name, compared exactly. -/
  name : String
  /-- The raw value. -/
  value : String
deriving DecidableEq, Repr, Inhabited

/-- The name and the attributes of an element. -/
structure Tag where
  /-- The element's name. -/
  name : String
  /-- The attributes in the order of writing. -/
  attrs : List Attribute := []
deriving DecidableEq, Repr, Inhabited

/-- Give `name` the value `value`: in place when it is there, else after all others. -/
def setAttribute (name value : String) : List Attribute → List Attribute
  | [] => [⟨name, value⟩]
  | a :: rest =>
    if a.name = name then ⟨a.name, value⟩ :: rest else a :: setAttribute name value rest

namespace Tag

/-- The value of the first attribute called `name`. -/
def attr? (tag : Tag) (name : String) : Option String :=
  (tag.attrs.find? (fun a => a.name = name)).map (·.value)

/-- Set an attribute. An attribute that is already there keeps its place. -/
def setAttr (tag : Tag) (name value : String) : Tag :=
  { tag with attrs := setAttribute name value tag.attrs }

/-- The words of the `class` attribute; none when there is no such attribute. -/
def classes (tag : Tag) : List String :=
  match tag.attr? "class" with
  | some value => Text.words value
  | none => []

/-- The class list holds `cls`. -/
def hasClass (tag : Tag) (cls : String) : Bool :=
  tag.classes.contains cls

/-- Add a class at the end of the list unless it is there already. -/
def addClass (tag : Tag) (cls : String) : Tag :=
  match tag.attr? "class" with
  | none => tag.setAttr "class" cls
  | some value =>
    if (Text.words value).contains cls then tag
    else if Text.isBlank value then tag.setAttr "class" cls
    else tag.setAttr "class" (Text.trim value ++ " " ++ cls)

/-- The level of a heading: 1 to 6 for `h1` to `h6`, none for every other name. -/
def headingLevel? (tag : Tag) : Option Nat :=
  match tag.name with
  | "h1" => some 1
  | "h2" => some 2
  | "h3" => some 3
  | "h4" => some 4
  | "h5" => some 5
  | "h6" => some 6
  | _ => none

/-- The tag of a heading. -/
def isHeading (tag : Tag) : Bool :=
  tag.headingLevel?.isSome

end Tag

end ArticleMarkup
