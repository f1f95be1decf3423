import Pagefold.Html.Emit
import Pagefold.Html.Parse
import Pagefold.Renaming.Document

/-!
# Bundling

A run checks its configuration, prepares the destination, and then makes one document from
each entry point, in the order of their names. The entry points share the tables of classes and
assets. A document is written only when all of its parts are known, and its assets are copied
after it; the first failure ends the run.
-/
namespace Pagefold

/-- A document that was written. -/
structure DocumentReport where
  source : Path
  output : Path
  /-- The size of the style bundle in the document. -/
  cssBytes : Nat
  /-- The size of the script bundle in the document. -/
  jsBytes : Nat

/-- What a run did. -/
structure Report where
  /-- The documents in the order of their names. -/
  entries : List DocumentReport := []
  assetsCopied : Nat := 0
  /-- Classes with styles that neither markup nor scripts use. -/
  orphanClasses : List String := []
  /-- Class constants that some document declares and does not use. -/
  unusedConstants : List String := []

namespace Bundle

/-- Extensions of the files that are entry points, in small letters. -/
def entryExtensions : List String := ["html", "htm"]

/-- Whether a file is an entry point by its name. -/
def isEntryName (file : Path) : Bool :=
  file.extension?.any fun ext => entryExtensions.contains (Text.lower ext)

/-- What a document is made from, once its sources are renamed. -/
structure Parts where
  document : Html.Node
  styles : List String
  scripts : List String
  assets : List (String × String)

/-- What becomes of one entry point. -/
structure Outcome where
  report : DocumentReport
  unusedConstants : List String
  assetsCopied : Nat

/-- The script bundle inside one strict function. -/
def wrapScript (script : String) : String :=
  "(function(window,document)\x7b'use strict';\n" ++ script ++ "\n\x7d)(window,document);"

/-- The style bundle before localization. -/
def Parts.joinedStyles (p : Parts) : String := "\n".intercalate p.styles

/-- The script bundle before localization. -/
def Parts.joinedScripts (p : Parts) : String := ";\n".intercalate p.scripts

/-- The placeholder keys of a document that have no value, ascending and each once. -/
def Parts.missing (l : Localizer) (p : Parts) : List String :=
  Localizer.report
    (l.missing p.joinedStyles.toList ++ l.missing p.joinedScripts.toList ++ p.document.missing l)

/-- Whether a bundle is blank, in which case no tool sees it and nothing is written for it. -/
def isBlank (bundle : String) : Bool := (Text.trim bundle.toList).isEmpty

/-- A bundle after its tool. -/
def compressed (role : Tool.Role) (tool : Tool) (bundle : String) (source : String) :
    Except Failure String :=
  if isBlank bundle then .ok "" else (tool source).mapError (.tool role)

/-- A text with its placeholders replaced. -/
def localized (l : Localizer) (text : String) : String := String.ofList (l.apply text.toList)

/-- The two bundles of a document, which have to have a value for every key. -/
def bundles (tools : Toolchain) (l : Localizer) (p : Parts) : Except Failure (String × String) :=
  match p.missing l with
  | [] => do
    let styles := localized l p.joinedStyles
    let scripts := localized l p.joinedScripts
    let css ← compressed .styles tools.styles styles styles
    let js ← compressed .scripts tools.scripts scripts (wrapScript scripts)
    pure (css, js)
  | keys => .error (.missingLocalization keys)

/-- What links are resolved against in a run. -/
def context (c : Config) : Context :=
  { root := c.source
    assetDir := c.assetOutputDir
    urlPrefix := c.assetUrlPrefix
    scope := c.scope }

/-- The document of an entry point, before it is written. -/
structure Page where
  html : String
  /-- The size of the style bundle. -/
  cssBytes : Nat
  /-- The size of the script bundle. -/
  jsBytes : Nat
  unusedConstants : List String

section Making

variable {n : Type → Type} [Monad n] [Supply n]

/-- The sources of an entry point, renamed. -/
def parts (c : Context) (source : Path) : n Parts := do
  let document := Html.parse (← Supply.text source)
  let styles ← Renaming.styles c document
  let scripts ← Renaming.scripts c document
  let assets ← Renaming.assets c document
  pure { document, styles, scripts, assets }

/-- The markup of a document with its bundles. -/
def markup (l : Localizer) (p : Parts) (css js : String) : n String :=
  let e : Html.Emitter := { localizer := l, assets := some p.assets, css := css, js := js }
  e.markup (Supply.token · .html) p.document

/-- Makes the document of one entry point. -/
def page (c : Config) (tools : Toolchain) (l : Localizer) (source : Path) : n Page := do
  let p ← parts (context c) source
  let (css, js) ← Renaming.pureResult (bundles tools l p)
  let html ← markup l p css js
  pure {
    html := html
    cssBytes := css.utf8ByteSize
    jsBytes := js.utf8ByteSize
    unusedConstants := Script.unusedConstants (localized l p.joinedScripts) }

end Making

variable {m : Type → Type} [Monad m] [FileStore m]

/-- Copies the assets in a list that no document has copied yet, and counts them. -/
def copyAssets : List Asset.Record → Renaming m Nat
  | [] => pure 0
  | record :: rest => do
    let tables ← get
    let (granted, assets) := tables.assets.claim record
    set { tables with assets := assets }
    if granted then
      Renaming.store (FileStore.copy record.source record.destination)
      let copied ← copyAssets rest
      pure (copied + 1)
    else copyAssets rest

/-- The file that is written for an entry point. -/
def outputOf (c : Config) (source : Path) : Path :=
  c.destination.join ⟨source.fileName?.getD source.text⟩

/-- Writes the document of an entry point and copies the assets that it refers to. -/
def publish (c : Config) (source : Path) (made : Page) : Renaming m Outcome := do
  let output := outputOf c source
  Renaming.store (FileStore.write output made.html.toUTF8)
  let copied ← copyAssets (← Renaming.takeReferenced)
  pure {
    report := ⟨source, output, made.cssBytes, made.jsBytes⟩
    unusedConstants := made.unusedConstants
    assetsCopied := copied }

/-- Makes the document of one entry point and publishes it. -/
def entry (c : Config) (tools : Toolchain) (l : Localizer) (source : Path) :
    Renaming m Outcome := do
  let _ ← Renaming.takeReferenced
  publish c source (← page c tools l source)

/-- Failures of the store in a run. -/
def orFail {α : Type} (action : ExceptT StoreError m α) : ExceptT Failure m α :=
  ExceptT.mk do pure ((← action.run).mapError .store)

/-- Failures of the configuration in a run. -/
def orRefuse {α : Type} (action : ExceptT ConfigDefect m α) : ExceptT Failure m α :=
  ExceptT.mk do pure ((← action.run).mapError .config)

/-- Deletes a destination that is to be replaced, then creates it and the directory of
assets. -/
def prepare (c : Config) : ExceptT Failure m Unit := do
  if c.replace then
    if ← ExceptT.lift (FileStore.hasEntry c.destination) then
      orFail (FileStore.removeTree c.destination)
  orFail (FileStore.createDir c.destination true)
  orFail (FileStore.createDir c.assetOutputDir true)

/-- The entry points among the names in a directory, in the order of the names. -/
def entriesAmong (dir : Path) : List String → ExceptT Failure m (List Path)
  | [] => pure []
  | name :: rest => do
    let file := dir.child name
    let chosen ←
      if isEntryName file then do pure (← orFail (FileStore.entry file)).isFile else pure false
    let others ← entriesAmong dir rest
    pure (if chosen then file :: others else others)

/-- The entry points of a directory in the order of their names. -/
def entryPoints (dir : Path) : ExceptT Failure m (List Path) := do
  let found ← entriesAmong dir (← orFail (FileStore.list dir))
  pure (found.mergeSort Path.le)

/-- The report of a run over some entry points. -/
def reportOf (outcomes : List Outcome) (classes : Class.Table) : Report :=
  { entries := outcomes.map (·.report)
    assetsCopied := outcomes.foldl (fun count outcome => count + outcome.assetsCopied) 0
    orphanClasses := classes.orphans
    unusedConstants :=
      ((outcomes.flatMap (·.unusedConstants)).mergeSort fun a b => decide (a ≤ b)).eraseDups }

/-- The entry points one after the other, with shared tables. -/
def entries (c : Config) (tools : Toolchain) (l : Localizer) :
    List Path → Renaming m (List Outcome)
  | [] => pure []
  | source :: rest => do
    let outcome ← entry c tools l source
    let others ← entries c tools l rest
    pure (outcome :: others)

/-- Makes the documents of some entry points with new tables, and reports on them. -/
def documents (c : Config) (tools : Toolchain) (l : Localizer) (sources : List Path) :
    ExceptT Failure m Report :=
  ExceptT.mk do
    let (result, tables) ← (entries c tools l sources).run.run {}
    pure (result.map fun outcomes => reportOf outcomes tables.classes)

/-- A whole run. -/
def run (c : Config) (tools : Toolchain) : ExceptT Failure m Report := do
  orRefuse c.validate
  let l ← orRefuse c.loadLocalizer
  prepare c
  documents c tools l (← entryPoints c.source)

end Bundle

end Pagefold
