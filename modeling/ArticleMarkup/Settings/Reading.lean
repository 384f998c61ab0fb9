import ArticleMarkup.Data.Value
import ArticleMarkup.Settings.Draft
import ArticleMarkup.Text.Lowercase
import ArticleMarkup.Text.Numeral

/-!
# Reading drafts from data

How the tables `logging` and `render` of a data value become a draft. Scalars are read by one of two
sets of rules: the strict rules take a value of the right kind only, the loose rules convert between
kinds, because the environment knows nothing but text.

## Main definitions

- `Reading` — rules for scalars, with `Reading.strict` and `Reading.loose`
- `Draft.ofValue?` — the draft that a value holds

## Design notes

A table may be written as the list of its values in the order of the fields. Strict rules refuse
such a list when it is too long.
-/

namespace ArticleMarkup

/-- **Rules for scalars.** -/
structure Reading where
  /-- Read a text. -/
  text? : Value → Option String
  /-- Read a truth value. -/
  bool? : Value → Option Bool
  /-- Read a number. -/
  nat? : Value → Option Nat
  /-- A list in the place of a table may be longer than the table. -/
  allowsLongLists : Bool

namespace Reading

/-- The largest number, and one more. -/
def natLimit : Nat := Nat.pow 2 64

/-- A number that is natural and not too large. -/
def natOfInt? (n : Int) : Option Nat :=
  if 0 ≤ n ∧ n < natLimit then some n.toNat else none

/-- **Strict rules**: a value of the right kind only. -/
def strict : Reading where
  text? v := match v with
    | .text s => some s
    | _ => none
  bool? v := match v with
    | .bool b => some b
    | _ => none
  nat? v := match v with
    | .integer n => natOfInt? n
    | _ => none
  allowsLongLists := false

/-- A text with all letters small. -/
def smallLetters (s : String) : String :=
  String.ofList (s.toList.flatMap Text.lowercase)

/-- The truth value that a word stands for. -/
def boolOfWord? (word : String) : Option Bool :=
  match smallLetters word with
  | "true" | "on" | "yes" => some true
  | "false" | "off" | "no" => some false
  | _ => none

/-- A text from any scalar. -/
def looseText? : Value → Option String
  | .text s => some s
  | .bool b => some (if b then "true" else "false")
  | .integer n => some (toString n)
  | .decimal d => some d.toText
  | .infinity negative => some (if negative then "-inf" else "inf")
  | .nan => some "NaN"
  | _ => none

/-- A truth value from any scalar: numbers are true unless they are zero. -/
def looseBool? : Value → Option Bool
  | .bool b => some b
  | .integer n => some (n != 0)
  | .decimal d => some (!d.isZero)
  | .infinity _ => some true
  | .nan => some true
  | .text "1" => some true
  | .text "0" => some false
  | .text s => boolOfWord? s
  | _ => none

/-- A number from any scalar: truth values count one and zero, and a number with a fraction is
rounded. -/
def looseNat? : Value → Option Nat
  | .bool b => some (if b then 1 else 0)
  | .integer n => natOfInt? n
  | .decimal d => some (min d.roundToNat (natLimit - 1))
  | .infinity negative => some (if negative then 0 else natLimit - 1)
  | .nan => some 0
  | .text s =>
    match boolOfWord? s with
    | some b => some (if b then 1 else 0)
    | none => Text.unsigned? natLimit s
  | _ => none

/-- **Loose rules**: scalars of one kind stand for those of another. -/
def loose : Reading where
  text? := looseText?
  bool? := looseBool?
  nat? := looseNat?
  allowsLongLists := true

/-- A number of eight bits. -/
def byte? (r : Reading) (v : Value) : Option Nat :=
  match r.nat? v with
  | some n => if n < 256 then some n else none
  | none => none

end Reading

/-- The fields of a record: a table, or the list of the values in the order of the names. -/
def fieldsOf? (allowsLong : Bool) (names : List String) : Value → Option (List (String × Value))
  | .table es => some es
  | .list vs => if allowsLong || vs.length ≤ names.length then some (names.zip vs) else none
  | _ => none

/-- A field that may be missing or null; a value that is there must be readable. -/
def optional? {α : Type} (read : Value → Option α) (name : String)
    (fields : List (String × Value)) : Option (Option α) :=
  match lookup? name fields with
  | none => some none
  | some .null => some none
  | some v => (read v).map some

/-- A field that may be missing; null is no value for it. -/
def defaulted? {α : Type} (read : Value → Option α) (fallback : α) (name : String)
    (fields : List (String × Value)) : Option α :=
  match lookup? name fields with
  | none => some fallback
  | some v => read v

/-- A list, all of whose items are readable. -/
def listOf? {α : Type} (read : Value → Option α) : Value → Option (List α)
  | .list vs => vs.mapM read
  | _ => none

/-- An attribute of an override: a name, or a record that restricts the values. Its texts are always
read strictly. -/
def AttributeOverride.ofValue? (v : Value) : Option AttributeOverride :=
  match v with
  | .text s => some (.name s)
  | v => do
    let fields ← fieldsOf? false ["name", "one_of", "prefixes"] v
    let name ← (lookup? "name" fields).bind Reading.strict.text?
    let oneOf ← defaulted? (listOf? Reading.strict.text?) [] "one_of" fields
    let starts ← defaulted? (listOf? Reading.strict.text?) [] "prefixes" fields
    return .rule name oneOf starts

/-- An override. -/
def Override.ofValue? (r : Reading) (v : Value) : Option Override := do
  let fields ← fieldsOf? r.allowsLongLists ["tag", "attributes"] v
  let tag ← (lookup? "tag" fields).bind r.text?
  let attributes ← defaulted? (listOf? AttributeOverride.ofValue?) [] "attributes" fields
  return ⟨tag, attributes⟩

/-- The names of the settings for rendering, in order. -/
def renderNames : List String :=
  ["max_input_bytes", "max_nesting_depth", "max_elements", "toc_min_level", "toc_max_level",
   "autolink_heading_anchors", "anchor_class", "schema_overrides"]

/-- The settings for rendering. -/
def Draft.ofRender? (r : Reading) (v : Value) : Option Draft := do
  let fields ← fieldsOf? r.allowsLongLists renderNames v
  return {
    maxInputBytes := ← optional? r.nat? "max_input_bytes" fields
    maxNestingDepth := ← optional? r.nat? "max_nesting_depth" fields
    maxElements := ← optional? r.nat? "max_elements" fields
    tocMinLevel := ← optional? r.byte? "toc_min_level" fields
    tocMaxLevel := ← optional? r.byte? "toc_max_level" fields
    linksHeadings := ← optional? r.bool? "autolink_heading_anchors" fields
    anchorClass := ← optional? r.text? "anchor_class" fields
    overrides := ← optional? (listOf? (Override.ofValue? r)) "schema_overrides" fields }

/-- The settings for logging. -/
def Draft.ofLogging? (r : Reading) (v : Value) : Option Draft := do
  let fields ← fieldsOf? r.allowsLongLists ["level", "json"] v
  return {
    level := ← optional? r.text? "level" fields
    json := ← optional? r.bool? "json" fields }

/-- **The draft that a value holds**, if it can be read. -/
def Draft.ofValue? (r : Reading) (v : Value) : Option Draft := do
  let fields ← fieldsOf? r.allowsLongLists ["logging", "render"] v
  let logging ← defaulted? (Draft.ofLogging? r) {} "logging" fields
  let render ← defaulted? (Draft.ofRender? r) {} "render" fields
  return logging.onTopOf render

end ArticleMarkup
