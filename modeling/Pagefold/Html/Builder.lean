import Pagefold.Html.Sketch
import Pagefold.Html.Token

/-!
# Building a document from tokens

The state in which tokens are taken up: the sketch of the document, the elements that are
open, the formatting elements that are to be opened again, and the insertion mode. Lists of
elements have the innermost or latest element first.
-/
namespace Pagefold.Html

/-- The insertion modes of the HTML standard for documents with scripting. -/
inductive Mode where
  | initial
  | beforeHtml
  | beforeHead
  | inHead
  | afterHead
  | inBody
  | text
  | inTable
  | inTableText
  | inCaption
  | inColumnGroup
  | inTableBody
  | inRow
  | inCell
  | inSelect
  | inSelectInTable
  | inTemplate
  | afterBody
  | inFrameset
  | afterFrameset
  | afterAfterBody
  | afterAfterFrameset
  deriving DecidableEq, Repr

/-- An entry of the list of formatting elements. -/
inductive Formatting where
  | marker
  | element (id : Nat) (tag : Tag)
  deriving Repr

/-- Whether the entry is an element. -/
def Formatting.isElement : Formatting → Bool
  | marker => false
  | element _ _ => true

/-- Whether the entry is the given element. -/
def Formatting.isFor (id : Nat) : Formatting → Bool
  | marker => false
  | element other _ => other == id

/-- The state of the construction. -/
structure Builder where
  sketch : Sketch := {}
  mode : Mode := .initial
  /-- The mode that comes after raw text or after text in a table. -/
  resumed : Mode := .initial
  templateModes : List Mode := []
  opened : List Nat := []
  formatting : List Formatting := []
  legacy : Bool := false
  allowsFrameset : Bool := true
  head : Option Nat := none
  form : Option Nat := none
  /-- Whether content is moved out of tables. -/
  fosters : Bool := false
  /-- Whether a line feed at the start of the next text is dropped. -/
  skipsLineFeed : Bool := false
  tableText : List Token := []
  reading : Reading := .data

/-- The result of a token in a mode: it is dealt with, or has to be taken up again. -/
inductive Step where
  | done (b : Builder)
  | again (b : Builder)

namespace Step

/-- The result with its state changed. -/
def map (f : Builder → Builder) : Step → Step
  | done b => done (f b)
  | again b => again (f b)

end Step

namespace Builder

/-! ## Names and scopes -/

/-- Elements that end the search for an element in scope. -/
def boundaries : List String :=
  ["applet", "caption", "html", "table", "td", "th", "marquee", "object", "template"]

/-- Elements of special nesting rules. -/
def special : List String :=
  ["address", "applet", "area", "article", "aside", "base", "basefont", "bgsound", "blockquote",
   "body", "br", "button", "caption", "center", "col", "colgroup", "dd", "details", "dir", "div",
   "dl", "dt", "embed", "fieldset", "figcaption", "figure", "footer", "form", "frame", "frameset",
   "h1", "h2", "h3", "h4", "h5", "h6", "head", "header", "hgroup", "hr", "html", "iframe", "img",
   "input", "isindex", "li", "link", "listing", "main", "marquee", "menu", "meta", "nav",
   "noembed", "noframes", "noscript", "object", "ol", "p", "param", "plaintext", "pre", "script",
   "section", "select", "source", "style", "summary", "table", "tbody", "td", "template",
   "textarea", "tfoot", "th", "thead", "title", "tr", "track", "ul", "wbr", "xmp"]

/-- Elements whose end tag may be left out. -/
def impliedEnds : List String :=
  ["dd", "dt", "li", "option", "optgroup", "p", "rb", "rp", "rt", "rtc"]

/-- Elements that a template's end closes without a tag. -/
def thoroughEnds : List String :=
  impliedEnds ++ ["caption", "colgroup", "tbody", "td", "tfoot", "th", "thead", "tr"]

def headings : List String := ["h1", "h2", "h3", "h4", "h5", "h6"]

/-- The innermost open element. -/
def current (b : Builder) : Nat := b.opened.headD Sketch.root

/-- The language and name of an element. -/
def nameOf (b : Builder) (id : Nat) : Space × String :=
  (b.sketch.elementName? id).getD (.html, "")

/-- Whether the element is the HTML element of one of the names. -/
def isOneOf (b : Builder) (names : List String) (id : Nat) : Bool :=
  let (space, name) := b.nameOf id
  space == .html && names.contains name

/-- Whether the element is the HTML element of the name. -/
def isNamed (b : Builder) (name : String) (id : Nat) : Bool := b.nameOf id == (.html, name)

/-- Foreign elements whose text is read as in HTML: those of MathML for text. -/
def isMathText (b : Builder) (id : Nat) : Bool :=
  let (space, name) := b.nameOf id
  space == .math && ["mi", "mo", "mn", "ms", "mtext"].contains name

/-- Foreign elements that hold HTML: those of SVG. -/
def isHtmlHolder (b : Builder) (id : Nat) : Bool :=
  let (space, name) := b.nameOf id
  space == .svg && ["foreignObject", "desc", "title"].contains name

/-- Whether an element ends the search in the default scope. -/
def endsScope (b : Builder) (id : Nat) : Bool :=
  b.isOneOf boundaries id || b.isMathText id || b.isHtmlHolder id

def endsListScope (b : Builder) (id : Nat) : Bool := b.endsScope id || b.isOneOf ["ol", "ul"] id

def endsButtonScope (b : Builder) (id : Nat) : Bool := b.endsScope id || b.isNamed "button" id

def endsTableScope (b : Builder) (id : Nat) : Bool := b.isOneOf ["html", "table", "template"] id

def endsSelectScope (b : Builder) (id : Nat) : Bool := !b.isOneOf ["optgroup", "option"] id

/-- Whether an open element that `wanted` accepts comes before the first that `ends` accepts. -/
def inScope (b : Builder) (ends wanted : Nat → Bool) : Bool :=
  match b.opened.find? fun id => wanted id || ends id with
  | some id => wanted id
  | none => false

/-- Whether an HTML element of the name is in the default scope. -/
def hasInScope (b : Builder) (name : String) : Bool := b.inScope b.endsScope (b.isNamed name)

/-- Whether an HTML element of the name is in table scope. -/
def hasInTableScope (b : Builder) (name : String) : Bool :=
  b.inScope b.endsTableScope (b.isNamed name)

/-- Whether a template is open. -/
def inTemplate (b : Builder) : Bool := b.opened.any (b.isNamed "template")

/-- The body element, if the document has one: the second element of the stack. -/
def body? (b : Builder) : Option Nat :=
  match b.opened.reverse with
  | _ :: id :: _ => if b.isNamed "body" id then some id else none
  | _ => none

/-! ## Closing elements -/

/-- Closes the innermost element. -/
def pop (b : Builder) : Builder := { b with opened := b.opened.drop 1 }

/-- Closes elements up to and with the first that `last` accepts. -/
def popThrough (b : Builder) (last : Nat → Bool) : Builder :=
  { b with opened := (b.opened.dropWhile (!last ·)).drop 1 }

/-- Closes elements up to and with the first of the name. -/
def popNamed (b : Builder) (name : String) : Builder := b.popThrough (b.isNamed name)

/-- Closes elements until the innermost is accepted. -/
def popUntil (b : Builder) (kept : Nat → Bool) : Builder :=
  { b with opened := b.opened.dropWhile (!kept ·) }

/-- Closes elements whose end tags may be left out, other than the one of the name. -/
def closeImplied (b : Builder) (except : String) : Builder :=
  let implied (id : Nat) : Bool := b.isOneOf impliedEnds id && !b.isNamed except id
  { b with opened := b.opened.dropWhile implied }

/-- Closes a paragraph. -/
def closeParagraph (b : Builder) : Builder := (b.closeImplied "p").popNamed "p"

/-- Closes a paragraph if one is in button scope. -/
def closeOpenParagraph (b : Builder) : Builder :=
  if b.inScope b.endsButtonScope (b.isNamed "p") then b.closeParagraph else b

/-- The element is no longer open. -/
def unstack (b : Builder) (id : Nat) : Builder := { b with opened := b.opened.erase id }

/-- Forgets the formatting elements up to and with the latest marker. -/
def clearFormatting (b : Builder) : Builder :=
  { b with formatting := (b.formatting.dropWhile Formatting.isElement).drop 1 }

/-- A marker in the list of formatting elements. -/
def mark (b : Builder) : Builder := { b with formatting := .marker :: b.formatting }

/-! ## Inserting nodes -/

/-- A place for a new node: at the end of a parent, or in front of a sibling. -/
inductive Spot where
  | last (parent : Nat)
  | before (parent sibling : Nat)

/-- The place of content that is moved out of a table, by the open elements. -/
def fosterSpot (b : Builder) : List Nat → Spot
  | [] => .last Sketch.root
  | [id] => .last id
  | id :: above :: rest =>
    if b.isNamed "template" id then .last (b.sketch.inside id)
    else if b.isNamed "table" id then
      match (b.sketch.node id).parent with
      | some parent => .before parent id
      | none => .last above
    else fosterSpot b (above :: rest)

/-- The place of content that belongs into `target`. -/
def spotIn (b : Builder) (target : Nat) : Spot :=
  if b.fosters && b.isOneOf ["table", "tbody", "tfoot", "thead", "tr"] target then
    b.fosterSpot b.opened
  else .last (b.sketch.inside target)

/-- The node is put where content of `target` belongs. -/
def place (b : Builder) (id target : Nat) : Builder :=
  match b.spotIn target with
  | .last parent => { b with sketch := b.sketch.append parent id }
  | .before parent sibling => { b with sketch := b.sketch.insertBefore parent sibling id }

/-- Text where content of the innermost element belongs. -/
def insertText (b : Builder) (content : String) : Builder :=
  match b.spotIn b.current with
  | .last parent => { b with sketch := b.sketch.appendText parent content }
  | .before parent sibling =>
    { b with sketch := b.sketch.insertTextBefore parent sibling content }

/-- A new element without a place. -/
def create (b : Builder) (space : Space) (tag : Tag) : Nat × Builder :=
  if space = .html ∧ tag.name = "template" then
    let (contents, sketch) := b.sketch.add .fragment
    let (id, sketch) := sketch.add (.element space tag.name tag.attributes (some contents))
    (id, { b with sketch })
  else
    let (id, sketch) := b.sketch.add (.element space tag.name tag.attributes none)
    (id, { b with sketch })

/-- A new element in its place, not opened. -/
def insertClosed (b : Builder) (space : Space) (tag : Tag) : Builder :=
  let (id, b) := b.create space tag
  b.place id b.current

/-- A new element in its place, opened. -/
def insertForeign (b : Builder) (space : Space) (tag : Tag) : Builder :=
  let (id, b) := b.create space tag
  let b := b.place id b.current
  { b with opened := id :: b.opened }

/-- A new HTML element in its place, opened. -/
def insert (b : Builder) (tag : Tag) : Builder := b.insertForeign .html tag

/-- A new HTML element in its place that has no content. -/
def insertVoid (b : Builder) (tag : Tag) : Builder := b.insertClosed .html tag

/-- A new HTML element without attributes, opened. -/
def insertImplied (b : Builder) (name : String) : Builder := b.insert { name }

/-- A comment at the end of a node. -/
def commentIn (b : Builder) (parent : Nat) (content : String) : Builder :=
  let (id, sketch) := b.sketch.add (.comment content)
  { b with sketch := sketch.append parent id }

/-- A comment where content of the innermost element belongs. -/
def insertComment (b : Builder) (content : String) : Builder :=
  let (id, sketch) := b.sketch.add (.comment content)
  { b with sketch }.place id b.current

/-- The root element, opened. -/
def insertRoot (b : Builder) (attributes : List Attribute) : Builder :=
  let (id, b) := b.create .html { name := "html", attributes }
  { b with sketch := b.sketch.append Sketch.root id, opened := id :: b.opened }

/-- The element is opened and its content is read as raw text. -/
def insertRaw (b : Builder) (tag : Tag) (reading : Reading) : Builder :=
  { b.insert tag with resumed := b.mode, mode := .text, reading }

/-! ## Formatting elements -/

/-- Whether the entry needs no reopening. -/
def isSettled (b : Builder) : Formatting → Bool
  | .marker => true
  | .element id _ => b.opened.contains id

/-- Opens the elements of the entries again, oldest first, and gives the new entries. -/
def reopen (b : Builder) : List Formatting → Builder × List Formatting
  | [] => (b, [])
  | .marker :: rest => reopen b rest
  | .element _ tag :: rest =>
    let b := b.insert tag
    let entry := Formatting.element b.current tag
    let (b, entries) := reopen b rest
    (b, entries ++ [entry])

/-- Opens the formatting elements again that were closed since the latest one still open. -/
def reconstruct (b : Builder) : Builder :=
  let closed := b.formatting.takeWhile (!b.isSettled ·)
  let settled := b.formatting.dropWhile (!b.isSettled ·)
  let (b, entries) := b.reopen closed.reverse
  { b with formatting := entries ++ settled }

/-- The formatting elements since the latest marker. -/
def recent (b : Builder) : List (Nat × Tag) :=
  (b.formatting.takeWhile Formatting.isElement).filterMap fun
    | .marker => none
    | .element id tag => some (id, tag)

/-- Whether two tags have one name and the same attributes, in any order. -/
def sameTag (a c : Tag) : Bool :=
  a.name == c.name && a.attributes.length == c.attributes.length &&
    a.attributes.all (c.attributes.contains ·)

/-- The list without the entry of an element. -/
def unlist (b : Builder) (id : Nat) : Builder :=
  { b with formatting := b.formatting.filter (!·.isFor id) }

/-- A formatting element, opened and listed. Of more than three equal ones the oldest is
forgotten. -/
def insertFormatting (b : Builder) (tag : Tag) : Builder :=
  let equal := b.recent.filter fun entry => sameTag entry.2 tag
  let b :=
    match equal.getLast? with
    | some (id, _) => if equal.length ≥ 3 then b.unlist id else b
    | none => b
  let b := b.insert tag
  { b with formatting := .element b.current tag :: b.formatting }

/-! ## End tags without rules of their own -/

/-- Closes elements through the innermost of the name, unless a special element is inside it. -/
def closeAny (b : Builder) (name : String) : Builder :=
  match b.opened.find? fun id => b.isNamed name id || b.isOneOf special id with
  | some id =>
    if b.isNamed name id then (b.closeImplied name).popThrough (· == id) else b
  | none => b

/-- The mode that the open elements call for, given outermost last. -/
def modeFor (b : Builder) : List Nat → Mode
  | [] => .inBody
  | id :: above =>
    let last := above.isEmpty
    match b.nameOf id with
    | (.html, name) =>
      match name with
      | "select" =>
        match above.find? (b.isOneOf ["template", "table"]) with
        | some outer => if b.isNamed "table" outer then .inSelectInTable else .inSelect
        | none => .inSelect
      | "td" | "th" => if last then .inBody else .inCell
      | "tr" => .inRow
      | "tbody" | "thead" | "tfoot" => .inTableBody
      | "caption" => .inCaption
      | "colgroup" => .inColumnGroup
      | "table" => .inTable
      | "template" => b.templateModes.headD .inBody
      | "head" => if last then .inBody else .inHead
      | "body" => .inBody
      | "frameset" => .inFrameset
      | "html" => if b.head.isSome then .afterHead else .beforeHead
      | _ => modeFor b above
    | _ => modeFor b above

/-- The mode is chosen anew by the open elements. -/
def resetMode (b : Builder) : Builder := { b with mode := b.modeFor b.opened }

end Builder

end Pagefold.Html
