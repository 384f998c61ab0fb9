import ArticleMarkup.Html.Builder

/-!
# Vector graphics and mathematical markup

The rules for elements of the other two vocabularies. Their tags nest freely, but HTML tags that
cannot be meant as part of them lead back to HTML.

## Main definitions

- `isForeign` — a token falls under these rules
- `breaksOut` — a start tag that leads back to HTML
- `foreignEnd` — what an end tag closes
- `Builder.insertForeign` — insert an element, with the spelling of its attributes restored
-/

namespace ArticleMarkup.Html

/-- The attributes of vector graphics that have capitals in their names. -/
def svgAttributes : List String :=
  ["attributeName", "attributeType", "baseFrequency", "baseProfile", "calcMode", "clipPathUnits",
    "diffuseConstant", "edgeMode", "filterUnits", "glyphRef", "gradientTransform",
    "gradientUnits", "kernelMatrix", "kernelUnitLength", "keyPoints", "keySplines", "keyTimes",
    "lengthAdjust", "limitingConeAngle", "markerHeight", "markerUnits", "markerWidth",
    "maskContentUnits", "maskUnits", "numOctaves", "pathLength", "patternContentUnits",
    "patternTransform", "patternUnits", "pointsAtX", "pointsAtY", "pointsAtZ", "preserveAlpha",
    "preserveAspectRatio", "primitiveUnits", "refX", "refY", "repeatCount", "repeatDur",
    "requiredExtensions", "requiredFeatures", "specularConstant", "specularExponent",
    "spreadMethod", "startOffset", "stdDeviation", "stitchTiles", "surfaceScale",
    "systemLanguage", "tableValues", "targetX", "targetY", "textLength", "viewBox", "viewTarget",
    "xChannelSelector", "yChannelSelector", "zoomAndPan"]

/-- An attribute with the capitals of its vocabulary. -/
def respell (space : Space) (attr : Attribute) : Attribute :=
  match space with
  | .html => attr
  | .math => if attr.name == "definitionurl" then { attr with name := "definitionURL" } else attr
  | .svg =>
    match svgAttributes.find? fun n => Text.lowerAscii n == attr.name with
    | some name => { attr with name := name }
    | none => attr

/-- **The token falls under the rules of foreign content.** Text and tags inside a leaf of
mathematical markup, and everything inside an HTML part of vector graphics, do not. -/
def isForeign (stack : List OpenElement) (token : Token) : Bool :=
  match stack with
  | [] => false
  | e :: _ =>
    if e.space == .html then false
    else
      match token with
      | .char _ | .null => !(e.isMathText || e.isSvgHtml || e.holdsHtml)
      | .startTag tag _ =>
        if e.isMathText && !(tag.name == "mglyph" || tag.name == "malignmark") then false
        else if e.isSvgHtml then false
        else if e.space == .math && e.name == "annotation-xml" && tag.name == "svg" then false
        else !e.holdsHtml
      | _ => true

/-- The HTML tags that are never part of foreign content. -/
def breakoutNames : List String :=
  ["b", "big", "blockquote", "body", "br", "center", "code", "dd", "div", "dl", "dt", "em",
    "embed", "h1", "h2", "h3", "h4", "h5", "h6", "head", "hr", "i", "img", "li", "listing",
    "menu", "meta", "nobr", "ol", "p", "pre", "ruby", "s", "small", "span", "strong", "strike",
    "sub", "sup", "table", "tt", "u", "ul", "var"]

/-- A start tag that leads back to HTML. -/
def breaksOut (tag : Tag) : Bool :=
  breakoutNames.contains tag.name ||
    (tag.name == "font" && tag.attrs.any fun a => ["color", "face", "size"].contains a.name)

/-- What an end tag does in foreign content. -/
inductive ForeignEnd where
  /-- It closes elements and leaves this stack. -/
  | close (stack : List OpenElement)
  /-- It has no effect. -/
  | ignore
  /-- It reaches an HTML element and falls under the rules of HTML. -/
  | html
deriving DecidableEq, Repr

/-- The effect of an end tag: it closes the newest element of its name above the next HTML
element. -/
def foreignEnd (name : String) (first : Bool) : List OpenElement → ForeignEnd
  | [] => .ignore
  | e :: rest =>
    if !first && e.space == .html then .html
    else if Text.lowerAscii e.name == name then .close rest
    else foreignEnd name false rest

namespace Builder

/-- Insert an element of another vocabulary, and open it unless its tag closes itself. -/
def insertForeign (b : Builder) (space : Space) (tag : Tag) (selfClosing : Bool) : Builder :=
  let tag := { tag with attrs := tag.attrs.map (respell space) }
  if selfClosing then b.insertElement space tag else b.openIn space tag

/-- Before a start tag that leads back to HTML, close the foreign elements. Other tokens leave the
stack as it is. -/
def breakOut (b : Builder) (token : Token) : Builder :=
  match token with
  | .startTag _ _ =>
    { b with stack := popTo (fun e => e.space == .html || e.isMathText || e.isSvgHtml) b.stack }
  | _ => b

end Builder

end ArticleMarkup.Html
