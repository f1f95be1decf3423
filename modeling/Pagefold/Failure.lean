import Pagefold.Config
import Pagefold.Tool

/-!
# Failures of a run

Each failure names its cause. What is said about it, the code under which it is known and the
advice that comes with it follow from the cause.
-/
namespace Pagefold

/-- Why a run failed. -/
inductive Failure where
  | config (defect : ConfigDefect)
  /-- A script or stylesheet that is not in the source tree. -/
  | unsupportedReference (tag attr link : String)
  | missingLocalization (keys : List String)
  | tool (role : Tool.Role) (diagnostics : Diagnostics)
  /-- A stylesheet that cannot be read, by the name of its source. -/
  | unreadableStyles (source : String)
  | store (cause : StoreError)
  | notText (file : Path) (defect : Text.Utf8.Defect)

namespace Failure

/-- The wording of a stylesheet that cannot be read, with the reason. -/
def stylesText (source reason : String) : String :=
  "Failed to parse CSS in " ++ source ++ ": " ++ reason

/-- The wording of a tool's failure. -/
def toolText (role : Tool.Role) (diagnostics : String) : String :=
  role.name ++ " failed: " ++ diagnostics

/-- The wording of a failure. -/
def message : Failure → String
  | config defect => "Invalid configuration: " ++ defect.message
  | unsupportedReference tag attr link =>
    "Unsupported reference in <" ++ tag ++ " " ++ attr ++ ">: " ++ link
  | missingLocalization keys => "Missing localization keys: " ++ ", ".intercalate keys
  | tool role diagnostics => toolText role diagnostics.text
  | unreadableStyles source => stylesText source "the stylesheet cannot be read"
  | store cause => cause.message
  | notText file defect =>
    "I/O error: " ++ file.text ++ " is not valid UTF-8: " ++ defect.message

/-- The code under which a failure is known. -/
def code : Failure → String
  | config _ => "INVALID_CONFIG"
  | unsupportedReference .. => "UNSUPPORTED_REFERENCE"
  | missingLocalization _ => "MISSING_LOCALIZATION"
  | tool .. => "COMPILE_FAILED"
  | unreadableStyles _ => "CSS_PARSE_ERROR"
  | store _ => "FILESYSTEM_ERROR"
  | notText .. => "IO_ERROR"

/-- What to do about a failure. -/
def help : Failure → String
  | config defect => defect.hint
  | unsupportedReference _ _ link =>
    "Only files inside the source directory can be inlined.\nDownload '" ++ link ++
      "' into the source tree and reference it by relative path."
  | missingLocalization keys =>
    "Add " ++ (if keys.length = 1 then "this key" else "these keys") ++
      " to the localization file passed with --lang."
  | tool role _ => "Fix the reported " ++ role.name ++ " errors in the inlined sources."
  | unreadableStyles source => "Check '" ++ source ++ "' for syntax errors."
  | store _ | notText .. =>
    "Check that the path exists and that you have permission to access it."

end Failure

end Pagefold
