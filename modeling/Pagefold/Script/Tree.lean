import Pagefold.Number.Double
import Pagefold.Script.Quoted

/-!
# Trees of scripts

A script is a tree. The kind of a node says what it is, and its parts are the smaller pieces that
it is made of, in the order in which they are written. Since every piece is a tree, a question
about all pieces of a script is answered by one recursion.
-/
namespace Pagefold.Script

/-!
## Operators of scripts

Operators stand in front of one value or between two. Those between two have a level, which says
how strongly they bind.
-/

/-- An operator in front of an expression. -/
inductive Unary where
  | not
  | complement
  | plus
  | minus
  | kind
  | void
  | delete
  deriving DecidableEq, Repr

namespace Unary

/-- How an operator is written. -/
def text : Unary → String
  | .not => "!"
  | .complement => "~"
  | .plus => "+"
  | .minus => "-"
  | .kind => "typeof"
  | .void => "void"
  | .delete => "delete"

/-- All operators in front of an expression. -/
def all : List Unary := [.not, .complement, .plus, .minus, .kind, .void, .delete]

end Unary

/-- An operator between two expressions. -/
inductive Binary where
  | coalesce
  | or
  | and
  | bitOr
  | bitXor
  | bitAnd
  | equal
  | unequal
  | same
  | different
  | less
  | greater
  | atMost
  | atLeast
  | instanceOf
  | within
  | shiftLeft
  | shiftRight
  | shiftZero
  | plus
  | minus
  | times
  | divide
  | remainder
  | power
  deriving DecidableEq, Repr

namespace Binary

/-- How an operator is written. -/
def text : Binary → String
  | .coalesce => "??"
  | .or => "||"
  | .and => "&&"
  | .bitOr => "|"
  | .bitXor => "^"
  | .bitAnd => "&"
  | .equal => "=="
  | .unequal => "!="
  | .same => "==="
  | .different => "!=="
  | .less => "<"
  | .greater => ">"
  | .atMost => "<="
  | .atLeast => ">="
  | .instanceOf => "instanceof"
  | .within => "in"
  | .shiftLeft => "<<"
  | .shiftRight => ">>"
  | .shiftZero => ">>>"
  | .plus => "+"
  | .minus => "-"
  | .times => "*"
  | .divide => "/"
  | .remainder => "%"
  | .power => "**"

/-- All operators between two expressions. -/
def all : List Binary :=
  [.coalesce, .or, .and, .bitOr, .bitXor, .bitAnd, .equal, .unequal, .same, .different, .less,
   .greater, .atMost, .atLeast, .instanceOf, .within, .shiftLeft, .shiftRight, .shiftZero, .plus,
   .minus, .times, .divide, .remainder, .power]

/-- How strongly an operator binds. -/
def level : Binary → Nat
  | .coalesce => 3
  | .or => 4
  | .and => 5
  | .bitOr => 6
  | .bitXor => 7
  | .bitAnd => 8
  | .equal | .unequal | .same | .different => 9
  | .less | .greater | .atMost | .atLeast | .instanceOf | .within => 10
  | .shiftLeft | .shiftRight | .shiftZero => 11
  | .plus | .minus => 12
  | .times | .divide | .remainder => 13
  | .power => 14

/-- Whether an operator tells if its sides are equal. -/
def isEquality (operator : Binary) : Bool := operator.level == 9

/-- Whether an operator tells which of its sides is greater. -/
def isOrder : Binary → Bool
  | .less | .greater | .atMost | .atLeast => true
  | _ => false

/-- Whether the right side of an operator may not be evaluated. -/
def isLogical : Binary → Bool
  | .coalesce | .or | .and => true
  | _ => false

/-- Whether an operator works on the digits of numbers in base two. -/
def isBitwise : Binary → Bool
  | .bitOr | .bitXor | .bitAnd => true
  | _ => false

/-- The opposite of an operator that tells if its sides are equal. -/
def opposite : Binary → Binary
  | .equal => .unequal
  | .unequal => .equal
  | .same => .different
  | .different => .same
  | operator => operator

/-- The operator without a look at the kinds of its sides. -/
def loose : Binary → Binary
  | .same => .equal
  | .different => .unequal
  | operator => operator

/-- The opposite of the opposite is the operator itself. -/
theorem opposite_opposite (operator : Binary) : operator.opposite.opposite = operator := by
  cases operator <;> rfl

/-- The operators in front of the equals sign of an assignment. -/
def assigning : List Binary :=
  [.coalesce, .or, .and, .bitOr, .bitXor, .bitAnd, .shiftLeft, .shiftRight, .shiftZero, .plus,
   .minus, .times, .divide, .remainder, .power]

end Binary

open Number

/-- A name in a script. The number of its variable is known once the declarations have been
looked up; a name without one belongs to the surroundings of the script. -/
structure Name where
  text : String
  symbol : Option Nat := none
  deriving DecidableEq, Repr

/-- How a variable is declared. -/
inductive Declaring where
  /-- For the whole function around. -/
  | hoisted
  /-- For the block around. -/
  | scoped
  /-- For the block around, with a value that stays. -/
  | fixed
  deriving DecidableEq, Repr

/-- The word of a declaration. -/
def Declaring.word : Declaring → String
  | .hoisted => "var"
  | .scoped => "let"
  | .fixed => "const"

/-- The name of an entry of an object or of a class. -/
inductive Key where
  | name (text : String)
  | number (value : Double)
  | text (codes : Codes)
  /-- A name that only the class itself can use. -/
  | hidden (text : String)
  /-- The name is worked out by the first part of the entry. -/
  | computed
  deriving DecidableEq, Repr

/-- What an entry of an object or of a class is. -/
inductive Form where
  | value
  | method
  | getter
  | setter
  | field
  /-- A field that is read and written by functions. -/
  | accessor
  deriving DecidableEq, Repr

/-- What a function is apart from its parameters and its body. -/
structure Header where
  name : Option Name := none
  /-- Whether it is written with an arrow. -/
  arrow : Bool := false
  /-- Whether its body is a single expression, which is the result. -/
  brief : Bool := false
  deferred : Bool := false
  generates : Bool := false
  /-- Whether it stood in parentheses. They ask to read it at once, so they stay. -/
  enclosed : Bool := false
  deriving DecidableEq, Repr

/-- What a node of a script is. -/
inductive Kind where
  -- Values.
  | name (name : Name)
  | number (value : Double)
  | big (digits : String)
  | text (codes : Codes)
  /-- Text between grave accents: the pieces around the parts, as they are written. -/
  | template (pieces : List String)
  /-- Such a text after a function; the function is the first part. -/
  | tagged (pieces : List String)
  | regular (source flags : String)
  | truth (value : Bool)
  | null
  | this
  | parent
  | newTarget
  | array
  | record
  /-- An entry of an object or of a class: the computed key if there is one, and the value. -/
  | entry (form : Form) (shared : Bool) (key : Key)
  | spread
  /-- The parameters and the body. -/
  | function (header : Header)
  | parameters
  | body (directives : List String)
  /-- What the class extends, and its entries. -/
  | classOf (name : Option Name)
  /-- Statements of a class that are run once. -/
  | setup
  | member (property : String) (optional : Bool)
  | secret (property : String) (optional : Bool)
  | index (optional : Bool)
  | call (optional : Bool)
  /-- Where a chain ends that may stop at an undefined value. -/
  | chain
  | create
  | unary (operator : Unary)
  | update (up before : Bool)
  | binary (operator : Binary)
  /-- Whether an object has the hidden entry. -/
  | owns (property : String)
  | assign (operator : Option Binary)
  | choice
  | sequence
  | give (all : Bool)
  | wait
  | fetch
  /-- An expression in parentheses. -/
  | enclosed
  -- Targets of declarations and assignments.
  | binding (name : Name)
  | arrayTarget
  | recordTarget
  | rest
  /-- A target with the value that it has by default. -/
  | fallback
  -- Statements.
  | evaluate
  | block
  | empty
  | debugger
  | declare (how : Declaring)
  | declarator
  | declareFunction
  | declareClass
  | branch
  | loop
  | loopIn
  | loopOf (deferred : Bool)
  | whileLoop
  | untilLoop
  | result
  | raise
  | attempt
  | handler
  | select
  | option
  | leave (label : Option String)
  | again (label : Option String)
  | labeled (label : String)
  | within
  /-- A script: the line at its start that names its program, and its directives. -/
  | script (opening : Option String) (directives : List String)
  /-- Nothing where something could be. -/
  | absent
  deriving DecidableEq, Repr

/-- A piece of a script. -/
inductive Tree where
  | node (kind : Kind) (parts : List Tree)
  deriving Repr

namespace Tree

/-- What a piece is. -/
def kind : Tree → Kind
  | .node kind _ => kind

/-- What a piece is made of. -/
def parts : Tree → List Tree
  | .node _ parts => parts

/-! ## Shapes -/

@[match_pattern] abbrev absent : Tree := .node .absent []
@[match_pattern] abbrev name (n : Name) : Tree := .node (.name n) []
@[match_pattern] abbrev number (x : Double) : Tree := .node (.number x) []
@[match_pattern] abbrev big (digits : String) : Tree := .node (.big digits) []
@[match_pattern] abbrev text (codes : Codes) : Tree := .node (.text codes) []
@[match_pattern] abbrev truth (value : Bool) : Tree := .node (.truth value) []
@[match_pattern] abbrev null : Tree := .node .null []
@[match_pattern] abbrev this : Tree := .node .this []
@[match_pattern] abbrev array (parts : List Tree) : Tree := .node .array parts
@[match_pattern] abbrev record (parts : List Tree) : Tree := .node .record parts
@[match_pattern] abbrev spread (e : Tree) : Tree := .node .spread [e]
@[match_pattern] abbrev function (h : Header) (parameters body : Tree) : Tree :=
  .node (.function h) [parameters, body]
@[match_pattern] abbrev parameters (parts : List Tree) : Tree := .node .parameters parts
@[match_pattern] abbrev body (directives : List String) (parts : List Tree) : Tree :=
  .node (.body directives) parts
@[match_pattern] abbrev member (object : Tree) (property : String) : Tree :=
  .node (.member property false) [object]
@[match_pattern] abbrev index (object key : Tree) : Tree := .node (.index false) [object, key]
@[match_pattern] abbrev call (callee : Tree) (arguments : List Tree) : Tree :=
  .node (.call false) (callee :: arguments)
@[match_pattern] abbrev create (callee : Tree) (arguments : List Tree) : Tree :=
  .node .create (callee :: arguments)
@[match_pattern] abbrev chain (e : Tree) : Tree := .node .chain [e]
@[match_pattern] abbrev unary (operator : Unary) (e : Tree) : Tree := .node (.unary operator) [e]
@[match_pattern] abbrev binary (operator : Binary) (left right : Tree) : Tree :=
  .node (.binary operator) [left, right]
@[match_pattern] abbrev assign (operator : Option Binary) (target value : Tree) : Tree :=
  .node (.assign operator) [target, value]
@[match_pattern] abbrev choice (condition yes no : Tree) : Tree :=
  .node .choice [condition, yes, no]
@[match_pattern] abbrev sequence (parts : List Tree) : Tree := .node .sequence parts
@[match_pattern] abbrev enclosed (e : Tree) : Tree := .node .enclosed [e]
@[match_pattern] abbrev binding (n : Name) : Tree := .node (.binding n) []
@[match_pattern] abbrev rest (target : Tree) : Tree := .node .rest [target]
@[match_pattern] abbrev fallback (target value : Tree) : Tree := .node .fallback [target, value]
@[match_pattern] abbrev evaluate (e : Tree) : Tree := .node .evaluate [e]
@[match_pattern] abbrev block (parts : List Tree) : Tree := .node .block parts
@[match_pattern] abbrev empty : Tree := .node .empty []
@[match_pattern] abbrev declare (how : Declaring) (parts : List Tree) : Tree :=
  .node (.declare how) parts
@[match_pattern] abbrev declarator (target value : Tree) : Tree :=
  .node .declarator [target, value]
@[match_pattern] abbrev branch (condition yes no : Tree) : Tree :=
  .node .branch [condition, yes, no]
@[match_pattern] abbrev loop (start condition step body : Tree) : Tree :=
  .node .loop [start, condition, step, body]
@[match_pattern] abbrev result (e : Tree) : Tree := .node .result [e]
@[match_pattern] abbrev raise (e : Tree) : Tree := .node .raise [e]

/-- The undefined value. -/
@[match_pattern] abbrev undefined : Tree := .unary .void (.number (.finite false ⟨0, -1074⟩))

/-- Zero as a number. -/
def zero : Tree := .number (Double.zero false)

/-- The undefined value is written with the number zero. -/
theorem undefined_eq : undefined = .unary .void zero := rfl

/-! ## Equality -/

mutual

/-- Whether two pieces are the same. -/
def same : Tree → Tree → Bool
  | .node k xs, .node l ys => decide (k = l) && sameAll xs ys

/-- Whether the pieces of two lists are the same, one by one. -/
def sameAll : List Tree → List Tree → Bool
  | [], [] => true
  | x :: xs, y :: ys => same x y && sameAll xs ys
  | _, _ => false

end

/-! ## Sizes and searches -/

mutual

/-- How many nodes a piece has. -/
def size : Tree → Nat
  | .node _ parts => 1 + sizeAll parts

/-- How many nodes some pieces have. -/
def sizeAll : List Tree → Nat
  | [] => 0
  | t :: ts => t.size + sizeAll ts

end

mutual

/-- Whether a piece or one inside of it passes a test. -/
def holds (test : Tree → Bool) : Tree → Bool
  | .node kind parts => test (.node kind parts) || holdsAny test parts

/-- Whether one of some pieces, or one inside of them, passes a test. -/
def holdsAny (test : Tree → Bool) : List Tree → Bool
  | [] => false
  | t :: ts => t.holds test || holdsAny test ts

end

/-- Whether a node is a function or a class, in which names and results mean something else. -/
def isBarrier : Kind → Bool
  | .function _ => true
  | _ => false

/-- Expressions in turn, as one. -/
def inTurn : List Tree → Tree
  | [e] => e
  | parts => .sequence parts

end Tree

end Pagefold.Script
