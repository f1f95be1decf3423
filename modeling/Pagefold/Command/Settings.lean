import Pagefold.Command.Arguments
import Pagefold.Command.Environment
import Pagefold.Config

/-!
# Settings from several layers

A setting can be given by an argument, by a variable of the environment, by a settings file,
or not at all. The highest layer that gives a setting decides, whatever the layers below say,
and a setting that no layer gives has its default. Source and destination are always given by
arguments. A value has to be of the kind of its setting only where it decides.
-/
namespace Pagefold.Command

/-- What can be set. -/
inductive Setting where
  | source
  | destination
  | assetsDir
  | replace
  | dictionary
  | scriptFile
  | minify
  deriving DecidableEq, Repr

/-- The key of a setting in files and variables. -/
def Setting.key : Setting → String
  | source => "src"
  | destination => "dst"
  | assetsDir => "assets_dir"
  | replace => "force_delete_dst"
  | dictionary => "lang"
  | scriptFile => "js_class_file"
  | minify => "minify"

/-- What one source says: values by key, of which the last one with a key counts. -/
abbrev Layer := List (String × Json)

/-- What a layer says about a setting. -/
def Layer.value? (layer : Layer) (setting : Setting) : Option Json :=
  layer.reverse.lookup setting.key

/-- What the highest layer that speaks about a setting says, of layers from high to low. -/
def decision? (layers : List Layer) (setting : Setting) : Option Json :=
  layers.findSome? (·.value? setting)

/-- The start of the names of variables that hold settings. -/
def variableStart : String := "TATER_"

/-- What the variables say. -/
def Environment.layer (env : Environment) : Layer := env.valuesUnder variableStart

/-- What the arguments say. An option that is not given says nothing. -/
def Arguments.layer (a : Arguments) : Layer :=
  let text (setting : Setting) (value : Option String) : Layer :=
    value.toList.map fun value => (setting.key, .string value)
  let truth (setting : Setting) (given : Switch) (value : Bool) : Layer :=
    if a.has given then [(setting.key, .bool value)] else []
  [(Setting.source.key, .string a.source.text),
    (Setting.destination.key, .string a.destination.text)] ++
    text .assetsDir (a.assetsDir.map (·.text)) ++
    text .dictionary (a.dictionary.map (·.text)) ++
    text .scriptFile a.scriptFile ++
    truth .replace .replace true ++
    truth .minify .keepSize false

/-- Why there are no settings. -/
inductive SettingsDefect where
  | fileMissing (file : Path)
  | unreadable (cause : StoreError)
  | notText (defect : Text.Utf8.Defect)
  | notJson
  | notRecord
  /-- The value that decides a setting is of another kind. -/
  | wrongKind (setting : Setting)

namespace SettingsDefect

/-- What is at fault. -/
def field : String := "configuration"

/-- What to do about a defect. -/
def hint : SettingsDefect → String
  | fileMissing _ => "Check the path passed with --config"
  | _ => "Check the config file syntax and " ++ variableStart ++ "* environment variables"

/-- What is wrong with a value. -/
def reason : SettingsDefect → String
  | fileMissing file => file.text
  | unreadable cause => cause.message
  | notText defect => defect.message
  | notJson => "the file is not JSON"
  | notRecord => "the file does not hold an object"
  | wrongKind setting => "the value of " ++ setting.key ++ " is of another kind"

/-- The wording of a defect. -/
def message (d : SettingsDefect) : String :=
  let what :=
    match d with
    | fileMissing file => "Config file not found: " ++ file.text
    | _ => "Invalid value for '" ++ field ++ "': " ++ d.reason
  "Configuration error: " ++ what ++ "\n\nHint: " ++ d.hint

end SettingsDefect

/-- The settings of a run. -/
structure Settings where
  source : Path := ⟨""⟩
  destination : Path := ⟨""⟩
  assetsDir : Path := ⟨""⟩
  replace : Bool := false
  dictionary : Option Path := none
  scriptFile : Option String := none
  minify : Bool := true
  deriving Repr

namespace Settings

/-- The truth that decides a setting, or its default. -/
def truth (layers : List Layer) (setting : Setting) (default : Bool) :
    Except SettingsDefect Bool :=
  match decision? layers setting with
  | none => .ok default
  | some (.bool value) => .ok value
  | some _ => .error (.wrongKind setting)

/-- The text that decides a setting, or its default. -/
def text (layers : List Layer) (setting : Setting) (default : String) :
    Except SettingsDefect String :=
  match decision? layers setting with
  | none => .ok default
  | some (.string value) => .ok value
  | some _ => .error (.wrongKind setting)

/-- The text that decides a setting that need not have one. -/
def text? (layers : List Layer) (setting : Setting) : Except SettingsDefect (Option String) :=
  match decision? layers setting with
  | none | some .null => .ok none
  | some (.string value) => .ok (some value)
  | some _ => .error (.wrongKind setting)

/-- The settings of layers from high to low. -/
def ofLayers (layers : List Layer) : Except SettingsDefect Settings := do
  let source ← text layers .source ""
  let destination ← text layers .destination ""
  let assetsDir ← text layers .assetsDir ""
  let replace ← truth layers .replace false
  let dictionary ← text? layers .dictionary
  let scriptFile ← text? layers .scriptFile
  let minify ← truth layers .minify true
  pure {
    source := ⟨source⟩
    destination := ⟨destination⟩
    assetsDir := ⟨assetsDir⟩
    replace
    dictionary := dictionary.map Path.mk
    scriptFile
    minify }

/-- The configuration of a run with these settings. -/
def config (s : Settings) : Config :=
  { source := s.source
    destination := s.destination
    assetsDir := s.assetsDir
    replace := s.replace
    dictionary := s.dictionary
    scope := (s.scriptFile.map ScriptScope.file).getD .everywhere
    minify := s.minify }

/-- What the content of a settings file says. -/
def layerOf (content : Except StoreError Bytes) : Except SettingsDefect Layer := do
  let bytes ← content.mapError .unreadable
  let text ← (Text.Utf8.decode bytes).mapError .notText
  match Json.read? text with
  | none => throw .notJson
  | some (.object members) => pure members
  | some _ => throw .notRecord

variable {m : Type → Type} [Monad m] [FileStore m]

/-- What the settings file says, if there is one. -/
def fileLayers : Option Path → ExceptT SettingsDefect m (List Layer)
  | none => pure []
  | some file => do
    if !(← ExceptT.lift (FileStore.isFile file)) then throw (.fileMissing file)
    let content ← ExceptT.lift (FileStore.read file).run
    let layer ← ExceptT.mk (pure (layerOf content))
    pure [layer]

/-- The settings of a command: arguments over variables over the settings file. -/
def load (env : Environment) (arguments : Arguments) : ExceptT SettingsDefect m Settings := do
  let files ← fileLayers arguments.settingsFile
  ExceptT.mk (pure (ofLayers ([arguments.layer, env.layer] ++ files)))

end Settings

end Pagefold.Command
