import Pagefold.Text.Cut

/-!
# HTML documents

A parsed document as a tree, and the questions that bundling asks of its elements: which are
taken out of the markup and bundled, and which attributes name files that are copied.
-/
namespace Pagefold.Html

/-- An attribute, with the name in its written form (`xlink:href`). -/
structure Attribute where
  name : String
  value : String
  deriving DecidableEq, Repr

/-- A node of a document. The children of a template are its contents. -/
inductive Node where
  | document (children : List Node)
  | doctype (name : String)
  | element (name : String) (attributes : List Attribute) (children : List Node)
  | text (content : String)
  | comment (content : String)
  deriving Repr

/-- Elements that are written without an end tag when they have no children. -/
def selfClosing : List String :=
  ["area", "base", "br", "col", "embed", "hr", "img", "input", "link", "meta", "param", "source",
   "track", "wbr"]

/-- The value of the first attribute with the name. -/
def attribute? (attributes : List Attribute) (name : String) : Option String :=
  (attributes.find? (·.name = name)).map (·.value)

/-- A link element whose `rel` lists `stylesheet`, in any letter case. -/
def isStylesheetLink (name : String) (attributes : List Attribute) : Bool :=
  name == "link" &&
    match attribute? attributes "rel" with
    | some rel =>
      (Text.words Text.isAsciiBlank rel.toList).any fun word =>
        Text.sameLetters (String.ofList word) "stylesheet"
    | none => false

/-- Elements that are bundled and never written as markup. -/
def isInlined (name : String) (attributes : List Attribute) : Bool :=
  name == "style" || name == "script" || isStylesheetLink name attributes

/-- The attributes of an element that name files to rename, in the order of collection. -/
def assetAttributes (name : String) (attributes : List Attribute) : List String :=
  if ["img", "source", "audio", "track", "embed", "input"].contains name then ["src"]
  else if name = "video" then ["src", "poster"]
  else if name = "link" ∧ !isStylesheetLink name attributes then ["href"]
  else []

mutual

/-- The text of all text nodes at or below a node, in document order. -/
def Node.textContent : Node → String
  | .text content => content
  | .element _ _ children => textOf children
  | _ => ""

/-- The text of all text nodes in a list of nodes. -/
def textOf : List Node → String
  | [] => ""
  | n :: rest => n.textContent ++ textOf rest

end

end Pagefold.Html
