import Pagefold.Path
import Pagefold.Text.Cut

/-!
# The arguments of the command

Arguments are read one after the other. An option takes its value from the same argument, after
an equals sign, or from the next one; such an option stays pending until another option or the
end settles it, and only then its value is checked. The first fault ends the reading.
-/
namespace Pagefold.Command

/-- Why a text is not the name of a file. -/
inductive FileNameDefect where
  | empty
  | path (text : String)
  deriving DecidableEq, Repr

/-- The wording of a defect. -/
def FileNameDefect.message : FileNameDefect → String
  | empty => "file name cannot be empty"
  | path text => "'" ++ text ++ "' must be a file name, not a path (e.g. 'classes.js')"

/-- A text that is the name of a file: it is not empty and has no separator. -/
def fileName (text : String) : Except FileNameDefect String :=
  if text.isEmpty then .error .empty
  else if text.toList.any fun c => c == '/' || c == '\\' then .error (.path text)
  else .ok text

/-- The options with a value. -/
inductive ValueOption where
  | source
  | destination
  | dictionary
  | assetsDir
  | scriptFile
  | settingsFile
  deriving DecidableEq, Repr

/-- The options that stand alone. -/
inductive Switch where
  | replace
  | keepSize
  | verbose
  | quiet
  | plain
  | help
  | version
  deriving DecidableEq, Repr

/-- The name by which an option is known. -/
def ValueOption.name : ValueOption → String
  | source => "--src"
  | destination => "--dst"
  | dictionary => "--lang"
  | assetsDir => "--assets-dir"
  | scriptFile => "--js-class-file"
  | settingsFile => "--config"

/-- The name by which a switch is known. -/
def Switch.name : Switch → String
  | replace => "--force-delete-dst"
  | keepSize => "--no-minify"
  | verbose => "--verbose"
  | quiet => "--quiet"
  | plain => "--no-color"
  | help => "--help"
  | version => "--version"

/-- What can stand in an argument after dashes. -/
inductive Choice where
  | valued (option : ValueOption)
  | switch (s : Switch)
  deriving DecidableEq, Repr

/-- The choices by long name. -/
def longNames : List (String × Choice) :=
  [("src", .valued .source), ("in", .valued .source), ("from", .valued .source),
    ("dst", .valued .destination), ("out", .valued .destination), ("to", .valued .destination),
    ("lang", .valued .dictionary), ("assets-dir", .valued .assetsDir),
    ("js-class-file", .valued .scriptFile), ("config", .valued .settingsFile),
    ("force-delete-dst", .switch .replace), ("no-minify", .switch .keepSize),
    ("verbose", .switch .verbose), ("quiet", .switch .quiet), ("no-color", .switch .plain),
    ("help", .switch .help), ("version", .switch .version)]

/-- The switches by letter. -/
def letters : List (Char × Switch) :=
  [('v', .verbose), ('q', .quiet), ('h', .help), ('V', .version)]

/-- Why arguments ask for no run. -/
inductive UsageDefect where
  | missingOptions (options : List ValueOption)
  | unknownArgument (text : String)
  /-- Two arguments that exclude each other. -/
  | conflict (first second : String)
  | missingValue (option : ValueOption)
  | badFileName (option : ValueOption) (defect : FileNameDefect)
  | unexpectedValue (s : Switch)
  | helpWanted
  | versionWanted
  deriving DecidableEq, Repr

/-- What the arguments ask for. -/
structure Arguments where
  source : Path
  destination : Path
  dictionary : Option Path := none
  assetsDir : Option Path := none
  scriptFile : Option String := none
  settingsFile : Option Path := none
  switches : List Switch := []

/-- Whether a switch was given. -/
def Arguments.has (a : Arguments) (s : Switch) : Bool := a.switches.contains s

/-- A value has to fit its option: paths are not empty, and a script is named by its file. -/
def ValueOption.check (option : ValueOption) (value : String) : Except UsageDefect String :=
  match option with
  | .scriptFile => (fileName value).mapError (.badFileName option)
  | _ => if value.isEmpty then .error (.missingValue option) else .ok value

/-- What is known in the middle of the arguments. -/
structure Reading where
  values : List (ValueOption × String) := []
  switches : List Switch := []
  /-- The option that is not settled yet, with its value if that was read. -/
  pending : Option (ValueOption × Option String) := none
  /-- Whether two dashes stood alone, after which no option is read. -/
  closed : Bool := false

namespace Reading

/-- Takes an option with its value. Each option is taken once. -/
def take (r : Reading) (option : ValueOption) (value : String) : Except UsageDefect Reading := do
  if r.values.any (·.1 == option) then throw (.conflict option.name option.name)
  let value ← option.check value
  pure { r with values := r.values ++ [(option, value)] }

/-- Takes the option that is pending. -/
def settle (r : Reading) : Except UsageDefect Reading :=
  match r.pending with
  | none => .ok r
  | some (option, none) => .error (.missingValue option)
  | some (option, some value) => { r with pending := none }.take option value

/-- Takes a switch. Each switch is taken once. -/
def press (r : Reading) (s : Switch) : Except UsageDefect Reading := do
  let r ← r.settle
  match s with
  | .help => throw .helpWanted
  | .version => throw .versionWanted
  | s =>
    if r.switches.contains s then throw (.conflict s.name s.name)
    pure { r with switches := r.switches ++ [s] }

/-- Reads an argument after its two dashes. -/
def long (r : Reading) (body : List Char) : Except UsageDefect Reading :=
  let isName (c : Char) : Bool := c != '='
  let name := String.ofList (body.takeWhile isName)
  match longNames.lookup name, body.dropWhile isName with
  | none, _ => .error (.unknownArgument ("--" ++ name))
  | some (.valued option), [] => do
    let r ← r.settle
    pure { r with pending := some (option, none) }
  | some (.valued option), _ :: value => do
    let r ← r.settle
    r.take option (String.ofList value)
  | some (.switch s), [] => r.press s
  | some (.switch s), _ :: _ => .error (.unexpectedValue s)

/-- Reads one of the letters after a single dash. -/
def letter (r : Reading) (c : Char) : Except UsageDefect Reading :=
  match letters.lookup c with
  | some s => r.press s
  | none => .error (.unknownArgument (String.ofList ['-', c]))

/-- Reads an argument that is no option: only an option without value has use for it. -/
def word (r : Reading) (text : String) : Except UsageDefect Reading :=
  match r.pending, r.closed with
  | some (option, none), false => .ok { r with pending := some (option, some text) }
  | _, _ => .error (.unknownArgument text)

/-- Reads one argument. -/
def step (r : Reading) (argument : String) : Except UsageDefect Reading :=
  if r.closed then r.word argument
  else
    match argument.toList with
    | ['-', '-'] => .ok { r with closed := true }
    | '-' :: '-' :: body => r.long body
    | '-' :: c :: rest => (c :: rest).foldlM letter r
    | _ => r.word argument

/-- The value of an option. -/
def value? (r : Reading) (option : ValueOption) : Option String := r.values.lookup option

/-- The value of an option that is a path. -/
def path? (r : Reading) (option : ValueOption) : Option Path := (r.value? option).map Path.mk

/-- What all the arguments ask for. -/
def finish (r : Reading) : Except UsageDefect Arguments := do
  let r ← r.settle
  if r.switches.contains .verbose && r.switches.contains .quiet then
    throw (.conflict Switch.quiet.name Switch.verbose.name)
  match r.path? .source, r.path? .destination with
  | some source, some destination =>
    pure {
      source, destination
      dictionary := r.path? .dictionary
      assetsDir := r.path? .assetsDir
      scriptFile := r.value? .scriptFile
      settingsFile := r.path? .settingsFile
      switches := r.switches }
  | _, _ =>
    throw (.missingOptions ([.source, .destination].filter fun o => (r.value? o).isNone))

end Reading

/-- Reads the arguments of a command. -/
def Arguments.read (arguments : List String) : Except UsageDefect Arguments := do
  (← arguments.foldlM Reading.step {}).finish

end Pagefold.Command
