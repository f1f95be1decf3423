/-!
# Tools

A tool takes the text of a bundle and gives a shorter text with the same meaning, or says why
it cannot.
-/
namespace Pagefold

/-- What a tool reports when it fails. -/
structure Diagnostics where
  messages : List String := []
  deriving DecidableEq, Repr

/-- The wording of a report: a single message as it is, several with their number. -/
def Diagnostics.text (d : Diagnostics) : String :=
  match d.messages with
  | [] => "unknown error"
  | [one] => one
  | many => s!"{many.length} errors: " ++ "; ".intercalate many

/-- A step from the text of a bundle to the text that is put into the document. -/
abbrev Tool := String → Except Diagnostics String

namespace Tool

/-- The tool that changes nothing. -/
def unchanged : Tool := fun source => .ok source

/-- Which bundle a tool works on. -/
inductive Role where
  | styles
  | scripts
  deriving DecidableEq, Repr

/-- What a tool is called in messages. -/
def Role.name : Role → String
  | styles => "CSS minifier"
  | scripts => "JS compiler"

end Tool

/-- The two tools of a run. -/
structure Toolchain where
  styles : Tool := Tool.unchanged
  scripts : Tool := Tool.unchanged

end Pagefold
