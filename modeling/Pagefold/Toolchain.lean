import Pagefold.Css.Sheet.Minify
import Pagefold.Script.Naming
import Pagefold.Script.Printer
import Pagefold.Script.Reader
import Pagefold.Script.Simplify
import Pagefold.Tool

/-!
# The tools of a run

Bundles are compressed, or left as they are. A script is compressed by being read, simplified, given
short names and written without blanks and comments.
-/
namespace Pagefold.Script

/-- A script in its shortest form, if it can be read. -/
def compress? (source : String) : Option String :=
  (Tree.read? source).map fun t => (Naming.script (Simplify.script t)).written

end Pagefold.Script

namespace Pagefold

namespace Tool

/-- Writes a stylesheet in its shortest form. -/
def compressStyles : Tool := fun source =>
  match Css.Sheet.read? source with
  | some sheet => .ok sheet.minify.text
  | none => .error ⟨["the stylesheet cannot be read"]⟩

/-- Writes a script in its shortest form. -/
def compressScripts : Tool := fun source =>
  match Script.compress? source with
  | some code => .ok code
  | none => .error ⟨["the script cannot be read"]⟩

end Tool

namespace Toolchain

/-- The tools that compress, or those that change nothing. -/
def standard (minify : Bool) : Toolchain :=
  if minify then { styles := Tool.compressStyles, scripts := Tool.compressScripts } else {}

end Toolchain

end Pagefold
