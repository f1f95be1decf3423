import Pagefold.Class.Table
import Pagefold.Html.Node
import Pagefold.Localization

/-!
# Writing a document

Compact markup for a parsed document. Inlined elements and comments are left out, classes
are replaced by their tokens and asset references by their new names, placeholders are
localized, and the bundles are put at the end of the head and of the body.
-/
namespace Pagefold.Html

/-- How text is written: blanks collapsed, blanks kept, or without any change. -/
inductive TextMode where
  | collapse
  | preserve
  | raw
  deriving DecidableEq, Repr

/-- Elements whose text is written without any change. -/
def rawElements : List String := ["iframe", "noembed", "noframes", "noscript", "plaintext", "xmp"]

/-- Elements whose blanks are kept. -/
def preformatted : List String := ["pre", "textarea", "listing"]

/-- The text mode inside an element. -/
def TextMode.inside (mode : TextMode) (name : String) : TextMode :=
  if rawElements.contains name then raw
  else if preformatted.contains name then preserve
  else mode

/-- Text with references for the characters that would be markup. -/
def escapeText : List Char → List Char
  | [] => []
  | '&' :: r => "&amp;".toList ++ escapeText r
  | '<' :: r => "&lt;".toList ++ escapeText r
  | '>' :: r => "&gt;".toList ++ escapeText r
  | c :: r => c :: escapeText r

/-- A character that keeps an attribute value from being written without quotes. -/
def needsQuotes (c : Char) : Bool :=
  Text.isAsciiBlank c || ['"', '\'', '=', '<', '>', '\x60'].contains c

/-- An attribute value as it is written: without quotes if it can be, else in double
quotes, or in single quotes if it holds only double ones. -/
def quoteValue (value : List Char) : List Char :=
  let escaped := Text.replace ['&'] "&amp;".toList value
  if !value.any needsQuotes then escaped
  else if !value.contains '"' then '"' :: escaped ++ ['"']
  else if !value.contains '\'' then '\'' :: escaped ++ ['\'']
  else '"' :: Text.replace ['"'] "&quot;".toList escaped ++ ['"']

/-- A bundle in which the closing tag of its own element, in small letters, has its slash
escaped. -/
def escapeClosing (name : String) (bundle : String) : String :=
  String.ofList
    (Text.replace ("</" ++ name).toList ("<\\/" ++ name).toList bundle.toList)

/-- What a document is written with: the localizer, the new names of asset references by
their trimmed text, and the two bundles, which are left out when they are empty. -/
structure Emitter where
  localizer : Localizer := {}
  assets : Option (List (String × String)) := none
  css : String := ""
  js : String := ""

namespace Emitter

/-- The new name of an asset attribute, if the attribute of the element is one and its
trimmed value is known. -/
def renamed? (e : Emitter) (element : String) (attributes : List Attribute) (a : Attribute) :
    Option String :=
  if (assetAttributes element attributes).contains a.name then
    e.assets.bind fun assets => assets.lookup (String.ofList (Text.trim a.value.toList))
  else none

/-- Text in a mode. -/
def text (e : Emitter) (mode : TextMode) (content : String) : String :=
  let localized := e.localizer.apply content.toList
  String.ofList <|
    match mode with
    | .raw => localized
    | .preserve => escapeText localized
    | .collapse => escapeText (Text.collapse localized)

/-- The bundle that ends an element. -/
def bundle (e : Emitter) (element : String) : String :=
  if element = "head" ∧ e.css ≠ "" then
    "<style>" ++ escapeClosing "style" e.css ++ "</style>"
  else if element = "body" ∧ e.js ≠ "" then
    "<script>" ++ escapeClosing "script" e.js ++ "</script>"
  else ""

section Tokens

variable {n : Type → Type} [Monad n] (token : String → n String)

/-- The tokens of class names in order. -/
def classTokens : List String → n (List String)
  | [] => pure []
  | name :: rest => do
    let first ← token name
    let others ← classTokens rest
    pure (first :: others)

/-- The value of an attribute before quoting. -/
def value (e : Emitter) (element : String) (attributes : List Attribute) (a : Attribute) :
    n (List Char) :=
  match e.renamed? element attributes a with
  | some url => pure url.toList
  | none =>
    let localized := e.localizer.apply (Text.collapse (Text.trim a.value.toList))
    if a.name = "class" then do
      let names := (Text.words (· == ' ') localized).map String.ofList
      let tokens ← classTokens token names
      pure (" ".intercalate tokens).toList
    else pure localized

/-- The attributes of an element in order; an empty value is not written. -/
def attributes (e : Emitter) (element : String) (all : List Attribute) :
    List Attribute → n String
  | [] => pure ""
  | a :: rest => do
    let value ← e.value token element all a
    let written := if value = [] then "" else "=" ++ String.ofList (quoteValue value)
    let others ← attributes e element all rest
    pure (" " ++ a.name ++ written ++ others)

mutual

/-- The markup of a node. -/
def node (e : Emitter) (mode : TextMode) : Node → n String
  | .document children => nodes e mode children
  | .doctype name => pure ("<!DOCTYPE " ++ (if name = "" then "html" else name) ++ ">")
  | .text content => pure (e.text mode content)
  | .comment _ => pure ""
  | .element name attrs children =>
    if isInlined name attrs then pure ""
    else do
      let written ← attributes token e name attrs attrs
      let opening := "<" ++ name ++ written ++ ">"
      if children.isEmpty && selfClosing.contains name then pure opening
      else
        let content ← nodes e (mode.inside name) children
        pure (opening ++ content ++ e.bundle name ++ "</" ++ name ++ ">")

/-- The markup of a list of nodes. -/
def nodes (e : Emitter) (mode : TextMode) : List Node → n String
  | [] => pure ""
  | n :: rest => do
    let first ← node e mode n
    let others ← nodes e mode rest
    pure (first ++ others)

end

/-- The markup of a document. -/
def markup (e : Emitter) (document : Node) : n String := node token e .collapse document

end Tokens

/-- The markup of a document with the tokens of a table, and the table after it. -/
def emit (e : Emitter) (document : Node) (classes : Class.Table) : String × Class.Table :=
  (markup (fun name => modifyGet (·.associate name .html)) e document : StateM Class.Table _).run
    classes

end Emitter

end Pagefold.Html
