import Pagefold.Script.Tree

/-!
# Variables

A declaration makes a variable for the function or for the block around it. Each variable gets a
number, and every name that refers to it gets the same number; names that no declaration covers
belong to the surroundings of the script.
-/
namespace Pagefold.Script

/-- The variables in view by their names, the innermost first. -/
abbrev Names := List (String × Nat)

namespace Scope

/-! ## Declared names -/

mutual

/-- The names that a target declares, in order. -/
def bound : Tree → List String
  | .node (.binding n) _ => [n.text]
  | .node .arrayTarget parts => boundAll parts
  | .node .recordTarget parts => boundAll parts
  | .node (.entry _ _ _) parts => boundLast parts
  | .node .rest parts => boundAll parts
  | .node .fallback parts => boundFirst parts
  | .node .declarator parts => boundFirst parts
  | _ => []

/-- The names that some targets declare, in order. -/
def boundAll : List Tree → List String
  | [] => []
  | t :: ts => bound t ++ boundAll ts

/-- The names that the first part of a target declares. -/
def boundFirst : List Tree → List String
  | [] => []
  | t :: _ => bound t

/-- The names that the last part of an entry declares. -/
def boundLast : List Tree → List String
  | [] => []
  | [t] => bound t
  | _ :: ts => boundLast ts

end

/-- The name of a function or a class that is declared. -/
def declaredName : List Tree → List String
  | [.node (.function h) _] => (h.name.map (·.text)).toList
  | [.node (.classOf name) _] => (name.map (·.text)).toList
  | _ => []

/-- The names that a statement declares for the block around it. -/
def ofBlock (t : Tree) : List String :=
  match t with
  | .node (.declare .hoisted) _ => []
  | .node (.declare _) parts => boundAll parts
  | .node .declareFunction parts => declaredName parts
  | .node .declareClass parts => declaredName parts
  | _ => []

/-- Whether declarations inside of a node are not for the function around it. -/
def holdsBack : Kind → Bool
  | .function _ => true
  | .setup => true
  | _ => false

mutual

/-- The names that a statement declares for the function around it, and those that it declares
for the block around it if `direct` says that it stands in the body of the function, in order. -/
def ofFunction (direct : Bool) : Tree → List String
  | .node kind parts =>
    if holdsBack kind then []
    else
      let own :=
        match kind with
        | .declare .hoisted => boundAll parts
        | .declare _ => if direct then boundAll parts else []
        | .declareFunction => if direct then declaredName parts else []
        | .declareClass => if direct then declaredName parts else []
        | _ => []
      own ++ ofFunctionAll parts

/-- The names that are declared inside of some parts for the function around them. -/
def ofFunctionAll : List Tree → List String
  | [] => []
  | t :: ts => ofFunction false t ++ ofFunctionAll ts

end

/-- The names that the statements of a body declare. -/
def ofBody (statements : List Tree) : List String := statements.flatMap (ofFunction true)

/-- The names that a function declares: its own name, its parameters and the variables of its
body. A function that is declared has its name outside. -/
def ofFunctionParts (own : List String) (parts : List Tree) : List String :=
  match parts with
  | [.node .parameters ps, .node (.body _) statements] => own ++ boundAll ps ++ ofBody statements
  | _ => own

/-- The names that a node declares for the parts of itself. Nothing means that it is no scope. -/
def declared? (kind : Kind) (parts : List Tree) : Option (List String) :=
  match kind with
  | .script _ _ => some (ofBody parts)
  | .function h =>
    some (ofFunctionParts (if h.arrow then [] else (h.name.map (·.text)).toList) parts)
  | .setup => some (ofBody parts)
  | .block => some (parts.flatMap ofBlock)
  | .loop => some ((parts.take 1).flatMap ofBlock)
  | .loopIn => some ((parts.take 1).flatMap ofBlock)
  | .loopOf _ => some ((parts.take 1).flatMap ofBlock)
  | .handler => some (boundFirst parts)
  | .select => some (parts.flatMap fun t =>
    match t with
    | .node .option (_ :: statements) => statements.flatMap ofBlock
    | _ => [])
  | .classOf name => some (name.map (·.text)).toList
  | _ => none

/-- The node without its own name, which a declaration has made outside of it. -/
def withoutName : Kind → Kind
  | .function h => .function { h with name := none }
  | .classOf _ => .classOf none
  | kind => kind

/-! ## Numbers for names -/

/-- A name with the number of its variable. -/
def lookUp (names : Names) (n : Name) : Name := { n with symbol := names.lookup n.text }

/-- A node with the numbers of the names that stand in itself. -/
def numbered (names : Names) : Kind → Kind
  | .name n => .name (lookUp names n)
  | .binding n => .binding (lookUp names n)
  | .function h => .function { h with name := h.name.map (lookUp names) }
  | .classOf name => .classOf (name.map (lookUp names))
  | kind => kind

/-- Names that have been declared in front of those in view, with new numbers. -/
def extend (names : Names) (count : Nat) (declared : List String) : Names × Nat :=
  let fresh := declared.eraseDups
  ((fresh.zip (List.range' count fresh.length)).reverse ++ names, count + fresh.length)

mutual

/-- A piece with the numbers of its names, and how many numbers have been given. `outside` says
that the name of the piece itself is declared around it. -/
def resolve (names : Names) (outside : Bool) (count : Nat) : Tree → Tree × Nat
  | .node kind parts =>
    let declared := (declared? (if outside then withoutName kind else kind) parts).getD []
    let (inner, count) := extend names count declared
    let (parts, count) := resolveAll inner (kind == .declareFunction || kind == .declareClass)
      count parts
    (.node (numbered (if outside then names else inner) kind) parts, count)

/-- Some pieces with the numbers of their names. -/
def resolveAll (names : Names) (outside : Bool) (count : Nat) : List Tree → List Tree × Nat
  | [] => ([], count)
  | t :: ts =>
    let (t, count) := resolve names outside count t
    let (ts, count) := resolveAll names outside count ts
    (t :: ts, count)

end

/-! ## Uses -/

/-- What a name is used for. -/
inductive Use where
  | read
  | write
  /-- The value is read and then replaced. -/
  | change
  deriving DecidableEq, Repr

/-- What the first part of a node and its other parts are used for. -/
def usesOfParts (kind : Kind) (use : Use) (count : Nat) : Use × Use :=
  match kind with
  | .assign none => (.write, .read)
  | .assign (some _) => (.change, .read)
  | .update _ _ => (.change, .change)
  | .loopIn => (.write, .read)
  | .loopOf _ => (.write, .read)
  | .arrayTarget => (use, use)
  | .recordTarget => (use, use)
  | .rest => (use, use)
  | .fallback => (use, .read)
  | .entry _ _ _ => if 1 < count then (.read, use) else (use, use)
  | _ => (.read, .read)

mutual

/-- The names of variables in a piece, each with what it is used for. -/
def uses (use : Use) : Tree → List (Nat × Use)
  | .node kind parts =>
    match kind with
    | .name n => (n.symbol.map fun symbol => (symbol, use)).toList
    | kind =>
      let (first, others) := usesOfParts kind use parts.length
      usesAll first others parts

/-- The names of variables in some pieces; the first piece may be used for something else. -/
def usesAll (first others : Use) : List Tree → List (Nat × Use)
  | [] => []
  | t :: ts => uses first t ++ usesAll others others ts

end

/-- How often a variable is read and written, and whether its value stays. -/
structure Usage where
  reads : Nat := 0
  writes : Nat := 0
  fixed : Bool := false
  deriving DecidableEq, Repr, Inhabited

namespace Usage

/-- The usage with one more use. -/
def add (u : Usage) : Use → Usage
  | .read => { u with reads := u.reads + 1 }
  | .write => { u with writes := u.writes + 1 }
  | .change => { u with reads := u.reads + 1, writes := u.writes + 1 }

/-- How many uses there are; one that reads and writes counts once for each. -/
def isUnused (u : Usage) : Bool := u.reads == 0 && u.writes == 0

end Usage

mutual

/-- The numbers of the variables that are declared with a value that stays. -/
def fixed (declares : Bool) : Tree → List Nat
  | .node kind parts =>
    match kind with
    | .binding n => if declares then n.symbol.toList else []
    | .declare how => fixedAll (how == .fixed) parts
    | .declarator => fixedFirst declares parts
    | .fallback => fixedFirst declares parts
    | .arrayTarget => fixedAll declares parts
    | .recordTarget => fixedAll declares parts
    | .entry _ _ _ => fixedAll declares parts
    | .rest => fixedAll declares parts
    | _ => fixedAll false parts

/-- The variables with a value that stays in some pieces. -/
def fixedAll (declares : Bool) : List Tree → List Nat
  | [] => []
  | t :: ts => fixed declares t ++ fixedAll declares ts

/-- The variables with a value that stays, of which only the first piece may declare some. -/
def fixedFirst (declares : Bool) : List Tree → List Nat
  | [] => []
  | t :: ts => fixed declares t ++ fixedAll false ts

end

/-- The usage of each variable of a script with so many variables. -/
def tally (count : Nat) (script : Tree) : Array Usage :=
  let start := Array.replicate count ({} : Usage)
  let counted := (uses .read script).foldl (fun found (symbol, use) =>
    found.modify symbol (·.add use)) start
  (fixed false script).foldl (fun found symbol =>
    found.modify symbol fun u => { u with fixed := true }) counted

/-! ## Evaluation of texts -/

/-- Whether a node evaluates a text as a script, which may use every name in view. -/
def isEvaluation : Tree → Bool
  | .call (.name ⟨"eval", none⟩) _ => true
  | _ => false

/-- Whether a text may be evaluated inside of a piece. -/
def evaluates (t : Tree) : Bool := t.holds isEvaluation

end Scope

end Pagefold.Script
