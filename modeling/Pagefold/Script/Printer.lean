import Pagefold.Script.Fragment
import Pagefold.Script.Tree

/-!
# How scripts are written

A piece of a script is written after its parts, each of which is told where it stands. Parentheses
stand where an expression binds less strongly than its place asks for, and where a function or an
object would be taken for a statement. A semicolon stands only between a statement that asks for
one and the next statement, and at the end of the script.
-/
namespace Pagefold.Script

/-- The place of an expression: what it is the start of. -/
inductive Place where
  | inner
  | statement
  /-- The body of a function with an arrow. -/
  | arrow
  /-- What an object is created with, where a call would be taken for the creation. -/
  | creation
  /-- The function of an entry that is written without its word. -/
  | method
  deriving DecidableEq, Repr

/-! How strongly the kinds of expressions bind. -/

namespace Level

/-- Anything, also a sequence. -/
def any : Nat := 0

/-- An assignment. -/
def assign : Nat := 1

/-- A choice. -/
def choice : Nat := 2

/-- A product; infinity is written as a quotient. -/
def product : Nat := 13

/-- An operator in front of an expression. -/
def unary : Nat := 15

/-- A sign after an expression. -/
def raised : Nat := 16

/-- A call, or a creation without arguments. -/
def call : Nat := 17

/-- What an object is created with. -/
def made : Nat := 18

end Level

/-- Where a piece stands: its place, the level that it has to have, and whether the word `in` may
be an operator there. -/
structure Standing where
  place : Place := .inner
  level : Nat := Level.any
  membership : Bool := true
  deriving DecidableEq, Repr

/-- A written piece: its fragments, and whether a semicolon has to stand before the next
statement. -/
structure Written where
  fragments : List Fragment
  due : Bool := false

namespace Written

open Fragment

/-! ## Where parts stand -/

/-- A negative number, or an expression with an operator in front of it. -/
def isSigned : Tree → Bool
  | .node (.number x) _ => x.isNegative
  | .node (.unary _) _ => true
  | .node .wait _ => true
  | _ => false

/-- Whether an expression is a choice between two values by one of two operators. -/
def isEither : Tree → Bool
  | .node (.binary operator) _ => operator == .or || operator == .and
  | _ => false

/-- The level that an operator asks of its left side. -/
def leftLevel (operator : Binary) (t : Tree) : Nat :=
  match operator with
  | .power => if isSigned t then Level.made else operator.level + 1
  | .coalesce => if isEither t then Level.raised else operator.level
  | operator => operator.level

/-- The level that an operator asks of its right side. -/
def rightLevel (operator : Binary) (t : Tree) : Nat :=
  match operator with
  | .power | .and | .or => operator.level
  | .coalesce => if isEither t then Level.raised else operator.level + 1
  | operator => operator.level + 1

/-- Whether an expression needs parentheses where it stands. -/
def isWrapped (s : Standing) (kind : Kind) (parts : List Tree) : Bool :=
  match kind with
  | .number x =>
    match x with
    | .infinite _ => Level.product < s.level
    | x => x.isNegative && Level.unary < s.level
  | .truth _ => Level.unary < s.level
  | .unary _ => Level.unary < s.level
  | .wait => Level.unary < s.level
  | .update _ before => (if before then Level.unary else Level.raised) < s.level
  | .binary operator => operator.level < s.level || (operator == .within && !s.membership)
  | .owns _ => Binary.within.level < s.level || !s.membership
  | .call _ => Level.call < s.level || s.place == .creation
  | .fetch => Level.call < s.level || s.place == .creation
  | .chain => Level.raised < s.level
  | .assign _ =>
    Level.assign < s.level ||
      ((s.place == .statement || s.place == .arrow) &&
        (parts.head?.any fun t => t.kind == .recordTarget))
  | .choice => Level.choice < s.level
  | .give _ => Level.assign < s.level
  | .sequence => Level.any < s.level
  | .record => s.place == .statement || s.place == .arrow
  | .function h =>
    s.place != .method &&
      (h.enclosed || (if h.arrow then Level.assign < s.level else s.place == .statement))
  | .classOf _ => s.place == .statement
  | _ => false

/-- Where the part of a node at a place stands. -/
def partOf (s : Standing) (kind : Kind) (parts : List Tree) (i : Nat) : Standing :=
  let wraps := isWrapped s kind parts
  let free := s.membership || wraps
  -- At the start of the node, and elsewhere in it.
  let start (level : Nat) : Standing :=
    { place := if wraps then .inner else s.place, level, membership := free }
  let inner (level : Nat) : Standing := { level, membership := free }
  match kind with
  | .member _ _ | .secret _ _ => start Level.call
  | .index _ => if i = 0 then start Level.call else {}
  | .call _ => if i = 0 then start Level.call else { level := Level.assign }
  | .tagged _ => if i = 0 then start Level.call else {}
  | .template _ => {}
  | .create => if i = 0 then { place := .creation, level := Level.made } else { level := Level.assign }
  | .chain => start s.level
  | .unary _ | .wait => inner Level.unary
  | .update _ before => if before then inner Level.raised else start Level.call
  | .binary operator =>
    match parts[i]? with
    | some t => if i = 0 then start (leftLevel operator t) else inner (rightLevel operator t)
    | none => {}
  | .owns _ => inner (Binary.within.level + 1)
  | .assign _ => if i = 0 then start Level.call else inner Level.assign
  | .choice =>
    if i = 0 then start (Level.choice + 1)
    else if i = 1 then { level := Level.assign } else inner Level.assign
  | .sequence => if i = 0 then start Level.assign else inner Level.assign
  | .give _ => inner Level.assign
  | .entry form _ _ =>
    { place := if form == .value || form == .field || form == .accessor then .inner else .method
      level := Level.assign }
  | .function h =>
    if i = 0 then {}
    else { place := if h.brief then .arrow else .statement, membership := free }
  | .body _ => { place := s.place, membership := s.membership }
  | .classOf _ => if i = 0 then { level := Level.call } else {}
  | .evaluate =>
    if s.place == .arrow then { s with level := Level.assign } else { place := .statement }
  | .declare _ => { membership := s.membership }
  | .declarator => if i = 0 then {} else inner Level.assign
  | .spread | .array | .fallback | .fetch => { level := Level.assign }
  | .loop => if i = 0 then { membership := false } else {}
  | .loopOf _ => if i = 1 then { level := Level.assign } else {}
  | _ => {}

/-! ## Fragments of a node itself -/

/-- A directive as it is written: in the marks that its text leaves free. -/
def directive (source : String) : List Fragment :=
  let rec mark : List Char → String
    | '\\' :: _ :: r => mark r
    | '"' :: _ => "'"
    | '\'' :: _ => "\""
    | _ :: r => mark r
    | [] => "\""
  let mark := mark source.toList
  [.mark mark, .mark source, .mark mark, .mark ";"]

/-- A number. -/
def number (x : Number.Double) : List Fragment :=
  let size := [Fragment.word (Numeral.text x)]
  if x.isNegative then .sign "-" :: size else size

/-- The name of an entry. -/
def key : Key → List Fragment
  | .name text => [.word text]
  | .number x => if x.isFinite then number x else inBrackets (number x)
  | .text codes => [.mark ((Quote.plain codes).text codes)]
  | .hidden text => [.mark ("#" ++ text)]
  | .computed => []

/-- An operator between two expressions. -/
def operator (operator : Binary) : Fragment :=
  match operator with
  | .instanceOf | .within => .word operator.text
  | operator => .sign operator.text

/-- An operator in front of an expression. -/
def unary (operator : Unary) : Fragment :=
  match operator with
  | .kind | .void | .delete => .word operator.text
  | operator => .sign operator.text

/-- A piece of text between grave accents, in which no script element ends. -/
def piece : List Char → List Char
  | [] => []
  | c :: r =>
    if c = '<' ∧ "/script".toList.isPrefixOf (r.map Char.toLower) then '<' :: '\\' :: piece r
    else c :: piece r

/-- Text between grave accents with the expressions in it. -/
def template (pieces : List String) (parts : List (List Fragment)) : List Fragment :=
  let rec go : List String → List (List Fragment) → String → List Fragment
    | p :: pieces, part :: parts, start =>
      .mark (start ++ String.ofList (piece p.toList) ++ "$\x7b") :: part ++ go pieces parts "\x7d"
    | p :: _, [], start => [.mark (start ++ String.ofList (piece p.toList) ++ "\x60")]
    | [], _, start => [.mark (start ++ "\x60")]
  go pieces parts "\x60"

/-- The flags of a regular expression in the order of the alphabet. -/
def flags (text : String) : String := String.ofList (text.toList.mergeSort fun a b => a ≤ b)

/-! ## Lists of statements -/

/-- Statements one after the other. -/
def inOrder : List Written → Written
  | [] => { fragments := [] }
  | [w] => w
  | w :: rest =>
    let rest := inOrder rest
    { rest with fragments :=
        if w.due then w.fragments ++ .mark ";" :: rest.fragments
        else w.fragments ++ rest.fragments }

/-- Statements in braces. -/
def braced (statements : List Written) : List Fragment := inBraces (inOrder statements).fragments

/-- A statement with a semicolon, if it asks for one. -/
def finished (w : Written) : List Fragment :=
  if w.due then w.fragments ++ [.mark ";"] else w.fragments

mutual

/-- Whether a word for the other case after a statement would belong to a condition in it. -/
def isOpen : Tree → Bool
  | .node kind parts =>
    match kind with
    | .branch =>
      match parts with
      | [_, _, .node .absent _] => true
      | parts => isOpenLast parts
    | .loop | .loopIn | .loopOf _ | .whileLoop | .within | .labeled _ => isOpenLast parts
    | _ => false

/-- Whether it would belong to a condition in the last of some parts. -/
def isOpenLast : List Tree → Bool
  | [] => false
  | [t] => isOpen t
  | _ :: ts => isOpenLast ts

end

/-- A condition with what it leads to. -/
def branch (parts : List Tree) (test yes no : Written) : Written :=
  let braces := (parts[1]?).any isOpen
  let head := .word "if" :: inParentheses test.fragments
  let yes : Written := if braces then { fragments := inBraces yes.fragments } else yes
  match parts[2]?.map Tree.kind with
  | none | some .absent => { yes with fragments := head ++ yes.fragments }
  | some kind =>
    let blank : List Fragment := if kind == .block || kind == .empty then [] else [.mark " "]
    { no with fragments := head ++ finished yes ++ .word "else" :: blank ++ no.fragments }

/-! ## Functions, entries and classes -/

/-- Whether the parameters of a function with an arrow are a single name. -/
def isSingleName : List Tree → Bool
  | .node .parameters [.node (.binding _) _] :: _ => true
  | _ => false

/-- A function. -/
def function (s : Standing) (h : Header) (parts : List Tree) (written : List Written) :
    List Fragment :=
  let parameters := (written[0]?.map (·.fragments)).getD []
  let body := (written[1]?.map (·.fragments)).getD []
  if s.place == .method then inParentheses parameters ++ body
  else
    let deferred := if h.deferred then [.word "async"] else []
    if h.arrow then
      deferred ++ wrapped (!isSingleName parts) parameters ++ .mark "=>" :: body
    else
      deferred ++ .word "function" :: (if h.generates then [.mark "*"] else []) ++
        (h.name.map fun n => .word n.text).toList ++ inParentheses parameters ++ body

/-- The name of the variable that an entry is, with or without a value by default. -/
def entryName? : Tree → Option String
  | .node (.name n) _ => some n.text
  | .node (.binding n) _ => some n.text
  | .node .fallback [.node (.binding n) _, _] => some n.text
  | .node .fallback [.node (.name n) _, _] => some n.text
  | _ => none

/-- An entry of an object or of a class. A name alone is an entry of the variable of that name. -/
def entry (form : Form) (shared : Bool) (name : Key) (parts : List Tree)
    (written : List Written) : Written :=
  let value := (written.getLast?.map (·.fragments)).getD []
  let name' :=
    if name == .computed then inBrackets ((written[0]?.map (·.fragments)).getD []) else key name
  let start : List Fragment := if shared then [.word "static"] else []
  let called (word : List Fragment) : Written :=
    let modifiers : List Fragment := match parts.getLast? with
      | some (.node (.function h) _) =>
        (if h.deferred then [.word "async"] else []) ++ (if h.generates then [.mark "*"] else [])
      | _ => []
    { fragments := start ++ word ++ modifiers ++ name' ++ value }
  let field (word : List Fragment) : Written :=
    let value := match parts.getLast? with
      | some (.node .absent _) => []
      | _ => .mark "=" :: value
    { fragments := start ++ word ++ name' ++ value, due := true }
  match form with
  | .method => called []
  | .getter => called [.word "get"]
  | .setter => called [.word "set"]
  | .field => field []
  | .accessor => field [.word "accessor"]
  | .value =>
    let isShort := match name with
      | .name own => own != "__proto__" && parts.getLast?.bind entryName? == some own
      | _ => false
    { fragments := if isShort then value else name' ++ .mark ":" :: value }

/-- A class. -/
def classOf (name : Option Name) (parts : List Tree) (written : List Written) : List Fragment :=
  let parent : List Fragment := match parts.head? with
    | some (.node .absent _) => []
    | _ => .mark " extends " :: (written[0]?.map (·.fragments)).getD []
  .word "class" :: (name.map fun n => .word n.text).toList ++ parent ++ braced (written.drop 1)

/-! ## All nodes -/

/-- Expressions with commas between them. The last element of an array has a comma after it if
nothing stands there. -/
def elements (parts : List Tree) (written : List Written) : List Fragment :=
  let last := if (parts.getLast?.map (·.kind)) == some .absent then [.mark ","] else []
  commas (written.map (·.fragments)) ++ last

/-- What stands between an object and its member. -/
def link (optional : Bool) : Fragment := if optional then .mark "?." else .point

/-- A word with what follows it. -/
def worded (text : String) (rest : List Fragment) : Written :=
  { fragments := .word text :: rest, due := true }

/-- An expression without parentheses around it. -/
def expression (s : Standing) (kind : Kind) (parts : List Tree) (written : List Written) :
    List Fragment :=
  let at' (i : Nat) : List Fragment := (written[i]?.map (·.fragments)).getD []
  let arguments := inParentheses (commas ((written.drop 1).map (·.fragments)))
  match kind with
  | .name n => [.word n.text]
  | .binding n => [.word n.text]
  | .number x => number x
  | .big digits => [.word (digits ++ "n")]
  | .text codes => [.mark ((Quote.best codes).text codes)]
  | .template pieces => template pieces (written.map (·.fragments))
  | .tagged pieces => at' 0 ++ template pieces ((written.drop 1).map (·.fragments))
  | .regular source letters => [.regular source (flags letters)]
  | .truth value => [.sign "!", .word (if value then "0" else "1")]
  | .null => [.word "null"]
  | .this => [.word "this"]
  | .parent => [.word "super"]
  | .newTarget => [.word "new", .point, .word "target"]
  | .array => inBrackets (elements parts written)
  | .arrayTarget => inBrackets (elements parts written)
  | .record => inBraces (commas (written.map (·.fragments)))
  | .recordTarget => inBraces (commas (written.map (·.fragments)))
  | .spread => .mark "..." :: at' 0
  | .rest => .mark "..." :: at' 0
  | .fallback => at' 0 ++ .mark "=" :: at' 1
  | .function h => function s h parts written
  | .parameters => commas (written.map (·.fragments))
  | .classOf name => classOf name parts written
  | .member property optional => at' 0 ++ [link optional, .word property]
  | .secret property optional => at' 0 ++ [link optional, .mark ("#" ++ property)]
  | .index optional =>
    let object := match parts.head? with
      | some (.node (.name ⟨"let", _⟩) _) => inParentheses (at' 0)
      | _ => at' 0
    object ++ (if optional then [.mark "?."] else []) ++ inBrackets (at' 1)
  | .call optional => at' 0 ++ (if optional then .mark "?." :: arguments else arguments)
  | .chain => at' 0
  | .create =>
    if parts.length ≤ 1 && s.level < Level.call then .word "new" :: at' 0
    else .word "new" :: at' 0 ++ arguments
  | .unary operator => unary operator :: at' 0
  | .update up before =>
    let sign := Fragment.sign (if up then "++" else "--")
    if before then sign :: at' 0 else at' 0 ++ [sign]
  | .binary op => at' 0 ++ operator op :: at' 1
  | .owns property => .mark ("#" ++ property) :: .word "in" :: at' 0
  | .assign operator =>
    at' 0 ++ .mark ((operator.map Binary.text).getD "" ++ "=") :: at' 1
  | .choice => at' 0 ++ .mark "?" :: at' 1 ++ .mark ":" :: at' 2
  | .sequence => commas (written.map (·.fragments))
  | .give all => .word "yield" :: (if all then [.mark "*"] else []) ++ at' 0
  | .wait => .word "await" :: at' 0
  | .fetch => .word "import" :: inParentheses (commas (written.map (·.fragments)))
  | .enclosed => inParentheses (at' 0)
  | _ => []

/-- A statement, or a part of one. -/
def statement? (s : Standing) (kind : Kind) (parts : List Tree) (written : List Written) :
    Option Written :=
  let get (i : Nat) : Written := (written[i]?).getD { fragments := [] }
  let at' (i : Nat) : List Fragment := (get i).fragments
  -- A head with the statement that follows it.
  let headed (head : List Fragment) (i : Nat) : Written :=
    { get i with fragments := head ++ at' i }
  match kind with
  | .evaluate => some { fragments := at' 0, due := s.place != .arrow }
  | .block => some { fragments := braced written }
  | .setup => some { fragments := .word "static" :: braced written }
  | .empty => some { fragments := [.mark ";"] }
  | .debugger => some (worded "debugger" [])
  | .declare how => some (worded how.word (commas (written.map (·.fragments))))
  | .declarator =>
    match parts with
    | [_, .node .absent _] => some { fragments := at' 0 }
    | _ => some { fragments := at' 0 ++ .mark "=" :: at' 1 }
  | .declareFunction => some { fragments := at' 0 }
  | .declareClass => some { fragments := at' 0 }
  | .branch => some (branch parts (get 0) (get 1) (get 2))
  | .loop =>
    some (headed (.word "for" :: inParentheses
      (at' 0 ++ .mark ";" :: at' 1 ++ .mark ";" :: at' 2)) 3)
  | .loopIn =>
    let target := match parts.head? with
      | some (.node (.name ⟨"async", _⟩) _) => inParentheses (at' 0)
      | _ => at' 0
    some (headed (.word "for" :: inParentheses
      (target ++ .word "in" :: .mark " " :: at' 1)) 2)
  | .loopOf deferred =>
    let target := match parts.head? with
      | some (.node (.name ⟨"async", _⟩) _) => inParentheses (at' 0)
      | _ => at' 0
    some (headed (.word "for" :: (if deferred then [.word "await"] else []) ++ inParentheses
      (target ++ .word "of" :: .mark " " :: at' 1)) 2)
  | .whileLoop => some (headed (.word "while" :: inParentheses (at' 0)) 1)
  | .untilLoop =>
    some (worded "do" (finished (get 0) ++ .word "while" :: inParentheses (at' 1)))
  | .result => some (worded "return" (at' 0))
  | .raise => some (worded "throw" (at' 0))
  | .attempt =>
    let last : List Fragment := match parts[2]?.map Tree.kind with
      | none | some .absent => []
      | _ => .word "finally" :: at' 2
    some { fragments := .word "try" :: at' 0 ++ at' 1 ++ last }
  | .handler =>
    let target := match parts.head? with
      | some (.node .absent _) => []
      | _ => inParentheses (at' 0)
    some { fragments := .word "catch" :: target ++ at' 1 }
  | .select =>
    some { fragments := .word "switch" :: inParentheses (at' 0) ++ braced (written.drop 1) }
  | .option =>
    let head := match parts.head? with
      | some (.node .absent _) => [.word "default"]
      | _ => .word "case" :: at' 0
    let statements := inOrder (written.drop 1)
    some { statements with fragments := head ++ .mark ":" :: statements.fragments }
  | .leave label => some (worded "break" (label.map Fragment.word).toList)
  | .again label => some (worded "continue" (label.map Fragment.word).toList)
  | .labeled label => some (headed [.word label, .mark ":"] 0)
  | .within => some (headed (.word "with" :: inParentheses (at' 0)) 1)
  | .entry form shared name => some (entry form shared name parts written)
  | .body directives =>
    if s.place == .arrow then some { fragments := at' 0 }
    else
      some { fragments :=
        inBraces (directives.flatMap directive ++ (inOrder written).fragments) }
  | .script opening directives =>
    let start := (opening.map fun text => Fragment.mark ("#!" ++ text ++ "\n")).toList
    some { fragments := start ++ directives.flatMap directive ++ finished (inOrder written) }
  | _ => none

/-- A node after its parts have been written. -/
def node (s : Standing) (kind : Kind) (parts : List Tree) (written : List Written) : Written :=
  match statement? s kind parts written with
  | some w => w
  | none =>
    { fragments := wrapped (isWrapped s kind parts) (expression s kind parts written) }

mutual

/-- A piece of a script where it stands. -/
def ofTree (s : Standing) : Tree → Written
  | .node kind parts => node s kind parts (ofParts s kind parts 0 parts)

/-- The parts of a node from the one at a place on. -/
def ofParts (s : Standing) (kind : Kind) (all : List Tree) (i : Nat) : List Tree → List Written
  | [] => []
  | t :: ts => ofTree (partOf s kind all i) t :: ofParts s kind all (i + 1) ts

end

end Written

/-- A script as it is written. -/
def Tree.written (t : Tree) : String :=
  String.ofList (Fragment.assemble (Written.ofTree {} t).fragments)

end Pagefold.Script
