import Pagefold.Html.Node
import Pagefold.Link
import Pagefold.Localization

/-!
# What a document refers to

The styles and scripts that are bundled, in document order, the links of its assets, and the
placeholder keys of its markup.
-/
namespace Pagefold.Html

/-- A style or script: written in the document, or in a file that it links to. -/
inductive Source where
  | inline (content : String)
  | linked (link : String)
  deriving DecidableEq, Repr

/-- The trimmed value of an attribute, if it is not blank. -/
def linkIn? (attributes : List Attribute) (name : String) : Option String :=
  (attribute? attributes name).bind fun value =>
    let link := Link.trimmed value
    if link = "" then none else some link

mutual

/-- The styles at or below a node. -/
def Node.styles : Node → List Source
  | .document children => stylesOf children
  | .element name attributes children =>
    if name = "style" then [.inline (textOf children)]
    else if isStylesheetLink name attributes then
      ((linkIn? attributes "href").map Source.linked).toList
    else stylesOf children
  | _ => []

/-- The styles in a list of nodes. -/
def stylesOf : List Node → List Source
  | [] => []
  | n :: rest => n.styles ++ stylesOf rest

end

mutual

/-- The scripts at or below a node. A script with a source has no other content. -/
def Node.scripts : Node → List Source
  | .document children => scriptsOf children
  | .element name attributes children =>
    if name = "script" then
      match linkIn? attributes "src" with
      | some link => [.linked link]
      | none => [.inline (textOf children)]
    else scriptsOf children
  | _ => []

/-- The scripts in a list of nodes. -/
def scriptsOf : List Node → List Source
  | [] => []
  | n :: rest => n.scripts ++ scriptsOf rest

end

mutual

/-- The asset links at or below a node, with repeats. -/
def Node.assets : Node → List String
  | .document children => assetsOf children
  | .element name attributes children =>
    if isInlined name attributes then []
    else (assetAttributes name attributes).filterMap (linkIn? attributes) ++ assetsOf children
  | _ => []

/-- The asset links in a list of nodes, with repeats. -/
def assetsOf : List Node → List String
  | [] => []
  | n :: rest => n.assets ++ assetsOf rest

end

/-- The asset links of a document, each at its first place. -/
def Node.assetLinks (document : Node) : List String := document.assets.eraseDups

mutual

/-- The keys that a localizer lacks for the markup at or below a node. -/
def Node.missing (l : Localizer) : Node → List String
  | .document children => missingOf l children
  | .element name attributes children =>
    if isInlined name attributes then []
    else attributes.flatMap (fun a => l.missing a.value.toList) ++ missingOf l children
  | .text content => l.missing content.toList
  | _ => []

/-- The keys that a localizer lacks for the markup in a list of nodes. -/
def missingOf (l : Localizer) : List Node → List String
  | [] => []
  | n :: rest => n.missing l ++ missingOf l rest

end

end Pagefold.Html
