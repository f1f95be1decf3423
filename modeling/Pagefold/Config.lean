import Pagefold.Localization
import Pagefold.Store.Basic
import Pagefold.Text.Utf8

/-!
# What to bundle and where

A configuration is checked as a whole before anything is changed. The checks only ask
questions of the store, and the first one that fails is reported: the source directory, then
how source and destination lie to each other, the destination, the dictionary file, and last
the directory of assets.
-/
namespace Pagefold

/-- The scripts in which class constants are renamed. -/
inductive ScriptScope where
  | everywhere
  /-- Only scripts that are loaded from a file with this name. -/
  | file (name : String)
  deriving DecidableEq, Repr

/-- Whether a script is in the scope; a script in the markup has no file. -/
def ScriptScope.appliesTo (scope : ScriptScope) (script : Option Path) : Bool :=
  match scope with
  | everywhere => true
  | file name => (script.bind Path.fileName?) == some name

/-- The settings of a run. -/
structure Config where
  /-- The directory that holds the entry points. -/
  source : Path
  /-- The directory that receives the documents. -/
  destination : Path
  /-- The directory below the destination that receives the assets. -/
  assetsDir : Path := ⟨""⟩
  /-- Whether a destination that exists is deleted first. -/
  replace : Bool := false
  /-- The file of the dictionary. -/
  dictionary : Option Path := none
  scope : ScriptScope := .everywhere
  /-- Whether the bundles are compressed by tools. -/
  minify : Bool := true
  deriving Repr

/-- Why a dictionary file holds no dictionary. -/
inductive DictionaryDefect where
  | unreadable (cause : StoreError)
  | notText (defect : Text.Utf8.Defect)
  | malformed (defect : Localizer.Defect)

/-- The wording of a defect. -/
def DictionaryDefect.message : DictionaryDefect → String
  | unreadable cause => cause.message
  | notText defect => defect.message
  | malformed defect => defect.message

/-- Why a configuration is refused. -/
inductive ConfigDefect where
  | sourceMissing (source : Path)
  | sourceNotDirectory (source : Path)
  | sourceNotReadable (source : Path)
  | destinationNotEmpty (destination : Path)
  | destinationNotDirectory (destination : Path)
  | destinationNotCreatable (destination : Path)
  | destinationNotReadable (destination : Path)
  | destinationInsideSource (source destination : Path)
  | sourceInsideDestination (source destination : Path)
  | dictionaryMissing (file : Path)
  | dictionaryNotReadable (file : Path)
  | dictionaryInvalid (file : Path) (defect : DictionaryDefect)
  | assetsDirInvalid (dir : Path)

namespace ConfigDefect

/-- The wording of a dictionary defect in a file. -/
def invalidText (file : Path) (message : String) : String :=
  "Invalid localization file " ++ file.text ++ ": " ++ message

/-- The wording of a defect. -/
def message : ConfigDefect → String
  | sourceMissing p => "Source directory does not exist: " ++ p.text
  | sourceNotDirectory p => "Source path is not a directory: " ++ p.text
  | sourceNotReadable p => "Source directory is not readable: " ++ p.text
  | destinationNotEmpty p => "Destination directory is not empty: " ++ p.text
  | destinationNotDirectory p => "Destination path is not a directory: " ++ p.text
  | destinationNotCreatable p => "Destination directory cannot be created: " ++ p.text
  | destinationNotReadable p => "Destination directory is not readable: " ++ p.text
  | destinationInsideSource src dst =>
    "Destination " ++ dst.text ++ " lies inside source " ++ src.text
  | sourceInsideDestination src dst =>
    "Source " ++ src.text ++ " lies inside destination " ++ dst.text
  | dictionaryMissing p => "Localization file does not exist: " ++ p.text
  | dictionaryNotReadable p => "Localization file is not a readable file: " ++ p.text
  | dictionaryInvalid p defect => invalidText p defect.message
  | assetsDirInvalid p => "Assets directory must be relative without '..': " ++ p.text

/-- What to do about a defect. -/
def hint : ConfigDefect → String
  | sourceMissing _ | sourceNotDirectory _ | sourceNotReadable _ =>
    "Pass the directory containing your HTML entry points with --src."
  | destinationNotEmpty _ =>
    "Use --force-delete-dst to replace the existing destination directory."
  | destinationNotDirectory _ | destinationNotCreatable _ | destinationNotReadable _ =>
    "Choose a destination whose parent directory exists and is writable."
  | destinationInsideSource .. => "Place the destination directory outside the source tree."
  | sourceInsideDestination .. =>
    "The destination is replaced on every run; keep sources outside it."
  | dictionaryMissing _ | dictionaryNotReadable _ => "Check the path passed with --lang."
  | dictionaryInvalid .. =>
    "The localization file must be a flat JSON object of string values, e.g. " ++
      "\x7b\"title\": \"Hi\"\x7d."
  | assetsDirInvalid _ => "Use a relative path such as 'assets' for --assets-dir."

end ConfigDefect

namespace Config

/-- The directory that receives the assets. -/
def assetOutputDir (c : Config) : Path := (c.destination.join c.assetsDir).clean

/-- What stands before the name of an asset in the documents: the names in the directory of
assets. -/
def assetUrlPrefix (c : Config) : String :=
  "/".intercalate (c.assetsDir.components.filterMap fun part =>
    match part with
    | .name text => some text
    | _ => none)

/-- Whether the directory of assets may leave the destination. -/
def assetsEscape (c : Config) : Bool :=
  c.assetsDir.components.any fun part =>
    match part with
    | .name _ => false
    | .here => false
    | _ => true

variable {m : Type → Type} [Monad m] [FileStore m]

/-- A path seen from the root, with all dots worked out. -/
def absolute (p : Path) : m Path :=
  if p.isAbsolute then pure p.clean
  else do pure ((← FileStore.workingDir).join p).clean

/-- A failed check is an error. -/
def require (condition : m Bool) (defect : ConfigDefect) : ExceptT ConfigDefect m Unit := do
  if !(← ExceptT.lift condition) then throw defect

/-- The source has to be a directory that can be read. -/
def checkSource (c : Config) : ExceptT ConfigDefect m Unit := do
  require (FileStore.hasEntry c.source) (.sourceMissing c.source)
  require (FileStore.isDir c.source) (.sourceNotDirectory c.source)
  require (FileStore.allows c.source .read) (.sourceNotReadable c.source)

/-- Neither the source nor the destination may lie in the other one. -/
def checkNesting (c : Config) (source destination : Path) : ExceptT ConfigDefect m Unit := do
  if destination.isBelow source then throw (.destinationInsideSource c.source c.destination)
  if source.isBelow destination then throw (.sourceInsideDestination c.source c.destination)

/-- A destination that exists has to be an empty directory that can be written, unless it is
replaced. -/
def checkExisting (c : Config) : ExceptT ConfigDefect m Unit := do
  require (FileStore.isDir c.destination) (.destinationNotDirectory c.destination)
  if !c.replace then
    match ← ExceptT.lift (FileStore.list c.destination).run with
    | .error _ => throw (.destinationNotReadable c.destination)
    | .ok names => if !names.isEmpty then throw (.destinationNotEmpty c.destination)
    require (FileStore.allows c.destination .write) (.destinationNotCreatable c.destination)

/-- A destination that does not exist has to be one that can be created. -/
def checkDestination (c : Config) (destination : Path) : ExceptT ConfigDefect m Unit := do
  if ← ExceptT.lift (FileStore.hasEntry c.destination) then c.checkExisting
  else require (FileStore.canBeCreated destination) (.destinationNotCreatable c.destination)

/-- The dictionary has to be a file that can be read. -/
def checkDictionary (c : Config) : ExceptT ConfigDefect m Unit := do
  match c.dictionary with
  | none => pure ()
  | some file =>
    require (FileStore.hasEntry file) (.dictionaryMissing file)
    require (FileStore.isFile file) (.dictionaryNotReadable file)
    require (FileStore.allows file .read) (.dictionaryNotReadable file)

/-- All checks in order. Nothing is changed. -/
def validate (c : Config) : ExceptT ConfigDefect m Unit := do
  c.checkSource
  let source ← ExceptT.lift (absolute c.source)
  let destination ← ExceptT.lift (absolute c.destination)
  c.checkNesting source destination
  c.checkDestination destination
  c.checkDictionary
  if c.assetsEscape then throw (.assetsDirInvalid c.assetsDir)

/-- The localizer of a file: its content has to be text, and the text a dictionary. -/
def localizerOf (file : Path) (content : Except StoreError Bytes) :
    Except ConfigDefect Localizer := do
  let bytes ← content.mapError (.dictionaryInvalid file <| .unreadable ·)
  let text ← (Text.Utf8.decode bytes).mapError (.dictionaryInvalid file <| .notText ·)
  (Localizer.ofJson text).mapError (.dictionaryInvalid file <| .malformed ·)

/-- The localizer of a configuration. -/
def loadLocalizer (c : Config) : ExceptT ConfigDefect m Localizer :=
  match c.dictionary with
  | none => pure {}
  | some file => do
    let content ← ExceptT.lift (FileStore.read file).run
    ExceptT.mk (pure (localizerOf file content))

end Config

end Pagefold
