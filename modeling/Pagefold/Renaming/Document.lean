import Pagefold.Css.Sheet.Printer
import Pagefold.Css.Sheet.Reader
import Pagefold.Html.Extract
import Pagefold.Renaming.Context
import Pagefold.Script.ClassConstant

/-!
# Renaming in a document

A stylesheet gets the tokens of its classes and keyframes and the new names of the files it
refers to, and is written in compressed form. The files are renamed first, in the order of
their addresses; a stylesheet that refers to a missing file leaves the classes as they were.

The styles and scripts of a document are renamed in document order, and the links of its assets
get their new forms.
-/
namespace Pagefold.Renaming

/-- The kind of use that a name in a stylesheet is. -/
def usageOf : Css.NameKind → Class.Usage
  | .cls => .css
  | .keyframes => .keyframe

/-- The stylesheet with new forms for its addresses; an address without one stays. -/
def replaceUrls (renamed : List (String × String)) (sheet : Css.Sheet) : Css.Sheet :=
  sheet.mapUrls fun link => (renamed.lookup link).getD link

/-- What the source of a stylesheet is called. -/
def sourceName (file : Option Path) : String := (file.map Path.text).getD "<style>"

/-- The directory from which the addresses of a stylesheet are seen. -/
def baseOf (c : Context) (file : Option Path) : Path := (file.bind Path.parent?).getD c.root

variable {n : Type → Type} [Monad n] [Supply n]

/-- The stylesheet with the tokens of its names. -/
def renameNames (sheet : Css.Sheet) : n Css.Sheet :=
  sheet.traverse fun kind name => Supply.token name (usageOf kind)

/-- A stylesheet with its names replaced, written down. A stylesheet in the markup has no file. -/
def style (c : Context) (source : String) (file : Option Path) : n String :=
  match Css.Sheet.read? source with
  | none => Supply.refuse (.unreadableStyles (sourceName file))
  | some sheet => do
    let renamed ← renameAll c (baseOf c file) [] sheet.urls
    let sheet ← renameNames sheet
    pure (replaceUrls renamed sheet).text

/-- A style with its names replaced. -/
def styleSource (c : Context) : Html.Source → n String
  | .inline content => style c content none
  | .linked link => do
    let file ← pureResult (c.resolveInlined "link" "href" link)
    style c (← Supply.text file) (some file)

/-- The text of a script and its file. -/
def scriptText (c : Context) : Html.Source → n (String × Option Path)
  | .inline content => pure (content, none)
  | .linked link => do
    let file ← pureResult (c.resolveInlined "script" "src" link)
    pure (← Supply.text file, some file)

/-- A script, with its class constants renamed if it is in the scope. -/
def scriptSource (c : Context) (source : Html.Source) : n String := do
  let (text, file) ← scriptText c source
  if c.scope.appliesTo file then Script.renameWith (Supply.token · .js) text else pure text

/-- The styles of a document. -/
def styles (c : Context) (document : Html.Node) : n (List String) :=
  document.styles.mapM (styleSource c)

/-- The scripts of a document. -/
def scripts (c : Context) (document : Html.Node) : n (List String) :=
  document.scripts.mapM (scriptSource c)

/-- The new forms of the links of a document's assets. -/
def assets (c : Context) (document : Html.Node) : n (List (String × String)) :=
  renameAll c c.root [] document.assetLinks

end Pagefold.Renaming
