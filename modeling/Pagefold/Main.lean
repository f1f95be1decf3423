import Pagefold.Command.Execute

/-!
# The command line

The store of the machine, and the command that works on it. What the command does and says is
defined elsewhere; here its parts are handed the machine's files, clock and terminal.
-/
namespace Pagefold.Machine

/-- An action on a path, whose failure is told in words. -/
def attempt {α : Type} (action : String) (p : Path) (work : IO α) : ExceptT StoreError IO α :=
  ExceptT.mk do
    match ← work.toBaseIO with
    | .ok a => pure (.ok a)
    | .error (.noFileOrDirectory ..) => pure (.error (.notFound p))
    | .error fault =>
      pure (.error (.refused ("Failed to " ++ action ++ " " ++ p.text ++ ": " ++ toString fault)))

/-- What an action gives, if it does not fail. -/
def successful? {α : Type} (work : IO α) : IO (Option α) := do
  pure (← work.toBaseIO).toOption

/-- What is at a path. -/
def entry (p : Path) : IO Entry := do
  let found ← ((← IO.currentDir) / p.text).metadata
  let isDir := match found.type with
    | .dir => true
    | _ => false
  let isFile := match found.type with
    | .file => true
    | _ => false
  pure ⟨found.byteSize.toNat, isDir, isFile, false⟩

/-- The names in a directory. -/
def names (p : Path) : IO (List String) := do
  let found ← ((← IO.currentDir) / p.text).readDir
  pure (found.toList.map (·.fileName))

/-- Whether something can be opened. A directory is opened by listing it, and whether one can
be written is left to the writing itself. -/
def allows (p : Path) (access : Access) : IO Bool := do
  match ← successful? (entry p), access with
  | none, _ => pure false
  | some found, .read =>
    if found.isDir then pure (← successful? (names p)).isSome
    else pure (← successful? (IO.FS.Handle.mk p.text .read)).isSome
  | some found, .write =>
    if found.isDir then pure true
    else pure (← successful? (IO.FS.Handle.mk p.text .append)).isSome

end Machine

instance : FileStore IO where
  workingDir := do pure ⟨(← IO.currentDir).toString⟩
  read p := Machine.attempt "read" p (IO.FS.readBinFile p.text)
  write p content := Machine.attempt "write" p (IO.FS.writeBinFile p.text content)
  entry p := Machine.attempt "get metadata for" p (Machine.entry p)
  hasEntry p := do pure (← Machine.successful? (Machine.entry p)).isSome
  allows := Machine.allows
  createDir p above :=
    Machine.attempt "create directory" p
      (if above then IO.FS.createDirAll p.text else IO.FS.createDir p.text)
  removeTree p := Machine.attempt "remove" p (IO.FS.removeDirAll p.text)
  list p := Machine.attempt "read directory" p (Machine.names p)
  copy source target :=
    Machine.attempt "copy" source do
      IO.FS.writeBinFile target.text (← IO.FS.readBinFile source.text)

namespace Command

/-- What the command is for and what it takes. -/
def usageText : String :=
  "Bundle HTML pages into single self-contained documents\n\n" ++
  "Usage: pagefold [OPTIONS] --src <DIR> --dst <DIR>\n\n" ++
  "Options:\n" ++
  "      --src <DIR>             Directory holding the HTML entry points [aliases: --in]\n" ++
  "      --dst <DIR>             Output directory [aliases: --out]\n" ++
  "      --force-delete-dst      Delete an existing destination directory before writing\n" ++
  "      --lang <FILE>           Flat JSON object used to replace #lang#KEY# placeholders\n" ++
  "      --assets-dir <DIR>      Directory under the destination that receives renamed assets\n" ++
  "      --js-class-file <NAME>  Only rename CSS_* class constants in scripts from this file\n" ++
  "      --no-minify             Inline the CSS and JS without minifying them\n" ++
  "      --config <FILE>         JSON configuration file, layered under environment and flags\n" ++
  "  -v, --verbose               Enable verbose logging (debug level)\n" ++
  "  -q, --quiet                 Suppress all output except errors\n" ++
  "      --no-color              Disable colored output\n" ++
  "  -h, --help                  Print help\n" ++
  "  -V, --version               Print version"

/-- The name and the version of the command. -/
def versionText : String := "pagefold 0.1.0"

/-- The wording of a usage defect. -/
def UsageDefect.message : UsageDefect → String
  | missingOptions options =>
    "the following required arguments were not provided: " ++
      " ".intercalate (options.map (·.name))
  | unknownArgument text => "unexpected argument '" ++ text ++ "' found"
  | conflict first second => "'" ++ first ++ "' cannot be used with '" ++ second ++ "'"
  | missingValue option => "a value is required for '" ++ option.name ++ "'"
  | badFileName option defect => "invalid value for '" ++ option.name ++ "': " ++ defect.message
  | unexpectedValue s => "'" ++ s.name ++ "' takes no value"
  | helpWanted => usageText
  | versionWanted => versionText

/-- The environment as far as settings and colours ask for it. -/
def environment : IO Environment := do
  let keys := [Setting.assetsDir, .replace, .dictionary, .scriptFile, .minify].map fun setting =>
    variableStart ++ setting.key.map Char.toUpper
  let found ← (["NO_COLOR", "FORCE_COLOR"] ++ keys).mapM fun name => do
    pure ((← IO.getEnv name).map fun value => (name, value))
  pure (found.filterMap id)

/-- Runs the command with arguments that could be read, and tells whether it succeeded. -/
def runWith (arguments : Arguments) : IO Bool := do
  let stderr ← IO.getStderr
  let env ← environment
  let coloured := usesColour env (arguments.has .plain) (← stderr.isTty)
  let start ← IO.monoNanosNow
  let time : IO String := do pure (durationText ((← IO.monoNanosNow) - start))
  let transcript ← execute env arguments coloured time
  transcript.lines.forM stderr.putStrLn
  match transcript.result with
  | .ok _ => pure true
  | .error failure =>
    stderr.putStrLn (Level.error.line coloured failure.message)
    match failure with
    | .run cause => stderr.putStrLn (cause.code ++ ": " ++ cause.help)
    | .settings _ => pure ()
    pure false

end Command

end Pagefold

/-- The command: it ends with 0 after a run, 1 after a failure and 2 after arguments that
cannot be read. -/
def main (arguments : List String) : IO UInt32 := do
  match Pagefold.Command.Arguments.read arguments with
  | .ok arguments => pure (if ← Pagefold.Command.runWith arguments then 0 else 1)
  | .error .helpWanted =>
    IO.println Pagefold.Command.usageText
    pure 0
  | .error .versionWanted =>
    IO.println Pagefold.Command.versionText
    pure 0
  | .error defect =>
    IO.eprintln ("error: " ++ defect.message)
    pure 2
