import Pagefold.Command.Settings
import Pagefold.Command.Status
import Pagefold.Store.Cached
import Pagefold.Toolchain

/-!
# Running the command

A command loads its settings, makes one run over a fresh cache, and says what it does. The
outcome is a transcript: the lines in their order and the report or the failure.
-/
namespace Pagefold.Command

/-- Why a command failed. -/
inductive CommandFailure where
  | settings (defect : SettingsDefect)
  | run (failure : Failure)

/-- The wording of a failure. -/
def CommandFailure.message : CommandFailure → String
  | settings defect => defect.message
  | run failure => failure.message

/-- What a command said, and what became of it. -/
structure Transcript where
  lines : List String
  result : Except CommandFailure Report

/-- The line before a run. -/
def opening (coloured : Bool) (s : Settings) : String :=
  Level.info.line coloured ("Bundling " ++ s.source.text ++ " -> " ++ s.destination.text)

/-- The warnings about a run. -/
def warnings (coloured : Bool) (report : Report) : List String :=
  (report.orphanClasses.map fun name =>
    Level.warning.line coloured
      ("Class '" ++ name ++ "' is styled but never used in markup or scripts")) ++
  report.unusedConstants.map fun name =>
    Level.warning.line coloured ("Class constant " ++ name ++ " is never used")

/-- The last line of a run that took the given time. -/
def closing (coloured : Bool) (report : Report) (time : String) : String :=
  let count := report.entries.length
  Level.success.line coloured
    ("Bundled " ++ toString count ++ (if count = 1 then " entry point" else " entry points") ++
      " in " ++ time)

/-- The lines after a run that took the given time. A quiet run has no summary. -/
def closingLines (coloured quiet : Bool) (report : Report) (time : String) : List String :=
  warnings coloured report ++
    (if quiet then [] else Summary.lines coloured report time) ++
    [closing coloured report time]

variable {m : Type → Type} [Monad m] [FileStore m]

/-- A run over a fresh cache. -/
def bundle (s : Settings) : m (Except Failure Report) := do
  let run : StateT Cache m (Except Failure Report) :=
    (Bundle.run s.config (Toolchain.standard s.minify)).run
  let (result, _) ← run.run {}
  pure result

/-- Runs a command. The action `time` tells how long it has taken so far. -/
def execute (env : Environment) (arguments : Arguments) (coloured : Bool) (time : m String) :
    m Transcript := do
  match ← (Settings.load env arguments).run with
  | .error defect => pure ⟨[], .error (.settings defect)⟩
  | .ok settings =>
    let first := opening coloured settings
    match ← bundle settings with
    | .error failure => pure ⟨[first], .error (.run failure)⟩
    | .ok report =>
      let last := closingLines coloured (arguments.has .quiet) report (← time)
      pure ⟨first :: last, .ok report⟩

end Pagefold.Command
