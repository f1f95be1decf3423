import Pagefold.Html.Builder

/-!
# Elements of other languages

SVG and MathML inside HTML. Names of SVG elements and attributes get back their capital
letters, and a list of HTML elements ends foreign content.
-/
namespace Pagefold.Html.Foreign

/-- SVG elements with capital letters in their names. -/
def svgElements : List String :=
  ["altGlyph", "altGlyphDef", "altGlyphItem", "animateColor", "animateMotion",
   "animateTransform", "clipPath", "feBlend", "feColorMatrix", "feComponentTransfer",
   "feComposite", "feConvolveMatrix", "feDiffuseLighting", "feDisplacementMap",
   "feDistantLight", "feDropShadow", "feFlood", "feFuncA", "feFuncB", "feFuncG", "feFuncR",
   "feGaussianBlur", "feImage", "feMerge", "feMergeNode", "feMorphology", "feOffset",
   "fePointLight", "feSpecularLighting", "feSpotLight", "feTile", "feTurbulence",
   "foreignObject", "glyphRef", "linearGradient", "radialGradient", "textPath"]

/-- SVG attributes with capital letters in their names. -/
def svgAttributes : List String :=
  ["attributeName", "attributeType", "baseFrequency", "baseProfile", "calcMode",
   "clipPathUnits", "diffuseConstant", "edgeMode", "filterUnits", "glyphRef",
   "gradientTransform", "gradientUnits", "kernelMatrix", "kernelUnitLength", "keyPoints",
   "keySplines", "keyTimes", "lengthAdjust", "limitingConeAngle", "markerHeight",
   "markerUnits", "markerWidth", "maskContentUnits", "maskUnits", "numOctaves", "pathLength",
   "patternContentUnits", "patternTransform", "patternUnits", "pointsAtX", "pointsAtY",
   "pointsAtZ", "preserveAlpha", "preserveAspectRatio", "primitiveUnits", "refX", "refY",
   "repeatCount", "repeatDur", "requiredExtensions", "requiredFeatures", "specularConstant",
   "specularExponent", "spreadMethod", "startOffset", "stdDeviation", "stitchTiles",
   "surfaceScale", "systemLanguage", "tableValues", "targetX", "targetY", "textLength",
   "viewBox", "viewTarget", "xChannelSelector", "yChannelSelector", "zoomAndPan"]

/-- The spelling in the list that differs only in its capital letters. -/
def respell (spellings : List String) (name : String) : String :=
  (spellings.find? (Text.lower · = name)).getD name

/-- The name of an attribute in a language. A namespace declaration that has no prefix of its
own gets the empty one. -/
def attributeName (space : Space) (name : String) : String :=
  match space with
  | .html => name
  | .svg => if name = "xmlns" then ":xmlns" else respell svgAttributes name
  | .math => if name = "xmlns" then ":xmlns" else respell ["definitionURL"] name

/-- The tag with the attribute names of its language. -/
def respellAttributes (space : Space) (tag : Tag) : Tag :=
  { tag with
    attributes := tag.attributes.map fun a => { a with name := attributeName space a.name } }

/-- HTML elements that cannot stand in foreign content. -/
def breakingElements : List String :=
  ["b", "big", "blockquote", "body", "br", "center", "code", "dd", "div", "dl", "dt", "em",
   "embed", "h1", "h2", "h3", "h4", "h5", "h6", "head", "hr", "i", "img", "li", "listing",
   "menu", "meta", "nobr", "ol", "p", "pre", "ruby", "s", "small", "span", "strong", "strike",
   "sub", "sup", "table", "tt", "u", "ul", "var"]

/-- Whether a start tag ends foreign content. -/
def breaksOut (tag : Tag) : Bool :=
  breakingElements.contains tag.name ||
    (tag.name == "font" && tag.attributes.any fun a => ["color", "face", "size"].contains a.name)

/-- Whether the MathML annotation says that it holds HTML. -/
def annotatesHtml (b : Builder) (id : Nat) : Bool :=
  match attribute? (b.sketch.attributes id) "encoding" with
  | some encoding =>
    Text.sameLetters encoding "text/html" || Text.sameLetters encoding "application/xhtml+xml"
  | none => false

/-- Whether a token is text. -/
def isText : Token → Bool
  | .blanks _ | .text _ | .null => true
  | _ => false

/-- Whether the innermost element makes the token foreign content. -/
def takes (b : Builder) (token : Token) : Bool :=
  let id := b.current
  let (space, name) := b.nameOf id
  if token = .eof ∨ b.opened.isEmpty ∨ space = .html then false
  else
    match token with
    | .startTag tag =>
      if b.isMathText id && !(["mglyph", "malignmark"].contains tag.name) then false
      else if b.isHtmlHolder id then false
      else if space = .math ∧ name = "annotation-xml" then
        tag.name ≠ "svg" && !annotatesHtml b id
      else true
    | _ =>
      if isText token then
        if b.isMathText id || b.isHtmlHolder id then false
        else if space = .math ∧ name = "annotation-xml" then !annotatesHtml b id
        else true
      else true

/-- A foreign element: a tag that closes itself opens nothing. -/
def insert (b : Builder) (space : Space) (tag : Tag) : Builder :=
  let tag := respellAttributes space tag
  if tag.selfClosing then b.insertClosed space tag else b.insertForeign space tag

/-- A start tag inside foreign content. -/
def startTag (b : Builder) (tag : Tag) : Builder :=
  let (space, _) := b.nameOf b.current
  let tag := if space = .svg then { tag with name := respell svgElements tag.name } else tag
  insert b space tag

/-- Closes foreign elements up to one that can hold HTML. -/
def leave (b : Builder) : Builder :=
  b.popUntil fun id => (b.nameOf id).1 == .html || b.isMathText id || b.isHtmlHolder id

/-- The foreign element that an end tag closes, if it comes before an HTML element. The
innermost element is compared by its name alone. -/
inductive EndTarget where
  | closes (id : Nat)
  | html
  | ignored

/-- What an end tag finds among the open elements, innermost first. -/
def endTarget (b : Builder) (name : String) (first : Bool) : List Nat → EndTarget
  | [] => .ignored
  | [_] => .ignored
  | id :: above =>
    let (space, own) := b.nameOf id
    if !first && space == .html then .html
    else if Text.sameLetters own name then .closes id
    else endTarget b name false above

end Pagefold.Html.Foreign
