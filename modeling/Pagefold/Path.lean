import Pagefold.Text.Cut

/-!
# File paths

A path keeps the text it was written with, because messages and reports show it. Two
paths are the same when they have the same components: repeated separators, separators
at the end and `.` inside a path do not count, while a leading `.` does.
-/
namespace Pagefold

/-- A part of a path. -/
inductive Component where
  | root
  | here
  | up
  | name (text : String)
  deriving DecidableEq, Repr

namespace Component

/-- The order of components: the root, then `.`, then `..`, then names by code point. -/
def rank : Component → Nat
  | root => 0
  | here => 1
  | up => 2
  | name _ => 3

/-- Strictly before, in the order of components. -/
def before : Component → Component → Bool
  | name a, name b => decide (a < b)
  | a, b => decide (a.rank < b.rank)

/-- How a component is written. -/
def text : Component → String
  | root => "/"
  | here => "."
  | up => ".."
  | name s => s

end Component

/-- A file path as it was written. -/
structure Path where
  text : String
  deriving Repr

namespace Path

/-- The text between the lead (the root or a leading dot) and the end, in pieces at
the separators, with the lead itself. -/
def split (p : Path) : Option Component × List (List Char) :=
  match p.text.toList with
  | '/' :: body => (some .root, Text.pieces (· == '/') body)
  | ['.'] => (some .here, [[]])
  | '.' :: '/' :: body => (some .here, [] :: Text.pieces (· == '/') body)
  | body => (none, Text.pieces (· == '/') body)

/-- Empty pieces and dots inside a path stand for no component. -/
def isSilent (piece : List Char) : Bool := piece == [] || piece == ['.']

/-- The component that a piece stands for. -/
def component (piece : List Char) : Component :=
  if piece == ['.', '.'] then .up else .name (String.ofList piece)

/-- The components of a path. -/
def components (p : Path) : List Component :=
  let (lead, pieces) := p.split
  lead.toList ++ (pieces.filter (!isSilent ·)).map component

instance : BEq Path := ⟨fun p q => p.components == q.components⟩

/-- The lexicographic order of component lists. -/
def leComponents : List Component → List Component → Bool
  | [], _ => true
  | _ :: _, [] => false
  | a :: p, b :: q => if a = b then leComponents p q else a.before b

/-- The order in which paths are listed. -/
def le (p q : Path) : Bool := leComponents p.components q.components

/-- Whether the path starts at the root. -/
def isAbsolute (p : Path) : Bool := p.text.toList.head? == some '/'

/-- The path with its last component taken away; the root and the empty path have none. -/
def parent? (p : Path) : Option Path :=
  let (lead, pieces) := p.split
  match pieces.reverse.dropWhile isSilent with
  | _ :: rest =>
    let kept := (rest.dropWhile isSilent).reverse.map String.ofList
    some ⟨(lead.map Component.text).getD "" ++ "/".intercalate kept⟩
  | [] =>
    match lead with
    | some .here => some ⟨""⟩
    | _ => none

/-- A parent that is written as a non-empty path. -/
def namedParent? (p : Path) : Option Path := p.parent?.filter (·.text ≠ "")

/-- The name of the last component, if that is a name. -/
def fileName? (p : Path) : Option String :=
  match p.components.getLast? with
  | some (.name s) => some s
  | _ => none

/-- What follows the last dot of a name, unless that dot is the first character. -/
def extensionOf (name : List Char) : Option String :=
  match Text.cut (· == '.') name.reverse with
  | some (_, []) => none
  | some (after, _ :: _) => some (String.ofList after.reverse)
  | none => none

/-- The extension of the last component. -/
def extension? (p : Path) : Option String :=
  p.fileName?.bind fun name => extensionOf name.toList

/-- `q` seen from the directory `p`; an absolute `q` stays as it is. -/
def join (p q : Path) : Path :=
  if q.isAbsolute then q
  else if p.text.toList.getLast?.all (· == '/') then ⟨p.text ++ q.text⟩
  else ⟨p.text ++ "/" ++ q.text⟩

/-- The path of an entry of the directory `p`. -/
def child (p : Path) (name : String) : Path := p.join ⟨name⟩

/-- One component comes onto a stack of components: dots vanish, and `..` takes a name
away, is void at the root, and stays where nothing can be taken away. -/
def push (stack : List Component) : Component → List Component
  | .here => stack
  | .up =>
    match stack with
    | .root :: _ => stack
    | .name _ :: rest => rest
    | _ => .up :: stack
  | c => c :: stack

/-- The path that a list of components is written as. -/
def ofComponents : List Component → Path
  | .root :: rest => ⟨"/" ++ "/".intercalate (rest.map Component.text)⟩
  | parts => ⟨"/".intercalate (parts.map Component.text)⟩

/-- The path with all dots worked out by its text alone; an empty result is `.`. -/
def clean (p : Path) : Path :=
  match (p.components.foldl push []).reverse with
  | [] => ⟨"."⟩
  | parts => ofComponents parts

/-- Whether `base` is the path itself or one of the directories above it. -/
def isBelow (p base : Path) : Bool := base.components.isPrefixOf p.components

/-- The directories above a path, nearest first. The measure is the number of pieces. -/
def ancestorsFrom : Nat → Path → List Path
  | 0, _ => []
  | n + 1, p =>
    match p.parent? with
    | none => []
    | some q => q :: ancestorsFrom n q

/-- The directories above a path, nearest first. -/
def ancestors (p : Path) : List Path := ancestorsFrom (p.text.length + 1) p

end Path

end Pagefold
