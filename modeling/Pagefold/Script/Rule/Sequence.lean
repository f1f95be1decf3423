import Pagefold.Script.Rule.Statement

/-!
# Statements in turn

Statements that follow each other are put together: expressions into one, declarations into one,
and an expression into the statement after it. What follows a jump is never run. The statements so
far are kept in reverse order, so that the last one comes first.
-/
namespace Pagefold.Script

namespace Rule

/-- Where a list of statements stands. -/
inductive Listing where
  | functionBody
  | loopBody
  | other
  deriving DecidableEq, Repr

/-! ## Declarations -/

/-- A declaration in which the values of variables have been moved to where they are used. -/
def movedWithin (a : Around) (declarators : List Tree) : List Tree :=
  if a.top || a.evaluates then declarators
  else
    (declarators.foldl (fun (before : List Tree) (t : Tree) =>
      match t with
      | .declarator target value =>
        if value.kind == .absent then t :: before
        else
          let (before, value) := moveIn a before value
          .declarator target value :: before
      | t => t :: before) []).reverse

/-- Whether a variable is declared and not used. -/
def isUnusedVariable (a : Around) (t : Tree) : Bool :=
  match t with
  | .declarator (.binding ⟨_, some symbol⟩) _ =>
    !a.top && !a.evaluates && (a.usage[symbol]?).any (·.isUnused)
  | _ => false

/-- A declaration with one more variable, in front of the statements so far. -/
def addVariable (how : Declaring) (t : Tree) (before : List Tree) : List Tree :=
  match before with
  | .declare how' parts :: rest =>
    if how = how' then .declare how (parts ++ [t]) :: rest else .declare how [t] :: before
  | before => .declare how [t] :: before

/-- The statements so far with a declaration. The value of a variable that is not used stays only
for its effects. -/
def addDeclaration (a : Around) (how : Declaring) (parts before : List Tree) : List Tree :=
  let (parts, before) : List Tree × List Tree :=
    match parts with
    | .declarator target value :: rest =>
      if value.kind == .absent then (parts, before)
      else
        let (before, value) := movedIn a before value
        (.declarator target value :: rest, before)
    | parts => (parts, before)
  (movedWithin a parts).foldl (fun (before : List Tree) (t : Tree) =>
    if isUnusedVariable a t then
      match t with
      | .declarator _ value =>
        if value.kind == .absent || !value.hasEffects then before else .evaluate value :: before
      | _ => before
    else addVariable how t before) before

/-- Declarators, the last one first, in which an assignment gives a variable its first value. -/
def assigned? (n : Name) (value : Tree) : List Tree → Option (List Tree)
  | [] => none
  | .declarator (.binding m) old :: rest =>
    if m = n ∧ old.kind == .absent then some (.declarator (.binding m) value :: rest)
    else if old.kind != .absent && old.hasEffects then none
    else (assigned? n value rest).map (.declarator (.binding m) old :: ·)
  | _ :: _ => none

/-- A declaration in which an assignment gives a variable its first value. -/
def mergedAssignment? (how : Declaring) (parts : List Tree) (e : Tree) : Option (List Tree) :=
  match e with
  | .assign none (.name n) value =>
    let refers : Bool := value.holds fun t => t.same (.name n)
    if how == .fixed || (how == .scoped && refers) then none
    else (assigned? n value parts.reverse).map List.reverse
  | _ => none

/-- A declaration with the assignments at the start of some expressions, and the expressions that
are left. -/
def mergedAssignments (how : Declaring) (parts : List Tree) : List Tree → List Tree × List Tree
  | [] => (parts, [])
  | e :: rest =>
    match mergedAssignment? how parts e with
    | some parts => mergedAssignments how parts rest
    | none => (parts, e :: rest)

/-! ## Expressions -/

/-- The expressions of a sequence. -/
def inOrder (e : Tree) : List Tree :=
  match e with
  | .sequence parts => parts
  | e => [e]

/-- The statements so far with an expression. -/
def addExpression (a : Around) (e : Tree) (before : List Tree) : List Tree :=
  let (before, e) := movedIn a before e
  match before with
  | .evaluate first :: rest => .evaluate (after first e) :: rest
  | .declare how parts :: rest =>
    let (parts, left) := mergedAssignments how parts (inOrder e)
    let before := .declare how parts :: rest
    if left.isEmpty then before else .evaluate (Tree.inTurn left) :: before
  | before => .evaluate e :: before

/-- An expression that a statement evaluates first, with the values of variables and the expression
before it moved into it. -/
def absorbed (a : Around) (e : Tree) (before : List Tree) : List Tree × Tree :=
  let (before, e) := movedIn a before e
  match before with
  | .evaluate first :: rest => (rest, after first e)
  | before => (before, e)

/-! ## Loops -/

/-- The statements so far with a loop, whose start may take the statement before it. -/
def addLoop (a : Around) (start condition step body : Tree) (before : List Tree) : List Tree :=
  let (before, start) : List Tree × Tree :=
    match start with
    | .absent => (before, start)
    | .declare how (.declarator target value :: rest) =>
      if value.kind == .absent then (before, start)
      else
        let (before, value) := movedIn a before value
        (before, .declare how (.declarator target value :: rest))
    | .declare _ _ => (before, start)
    | e => movedIn a before e
  let finish (start : Tree) (before : List Tree) : List Tree :=
    .loop start condition step body :: before
  match before, start with
  | .evaluate e :: rest, .absent => finish e rest
  | .evaluate _ :: _, .declare _ _ => finish start before
  | .evaluate e :: rest, f => finish (after e f) rest
  | .declare .hoisted parts :: rest, .absent => finish (.declare .hoisted parts) rest
  | .declare .hoisted parts :: rest, .declare .hoisted more =>
    finish (.declare .hoisted (parts ++ more)) rest
  | .declare .hoisted _ :: _, .declare _ _ => finish start before
  | .declare .hoisted parts :: rest, e =>
    let (parts, left) := mergedAssignments .hoisted parts (inOrder e)
    if left.isEmpty then finish (.declare .hoisted parts) rest
    else finish (Tree.inTurn left) (.declare .hoisted parts :: rest)
  | _, _ => finish start before

/-- The statements so far with a loop over the parts of a value. Its target may be the variable
that is declared just before. -/
def addLoopOver (a : Around) (kind : Kind) (target value body : Tree) (before : List Tree) :
    List Tree :=
  let (before, value) := movedIn a before value
  let finish (target value : Tree) (before : List Tree) : List Tree :=
    .node kind [target, value, body] :: before
  match before, target with
  | .evaluate e :: rest, _ =>
    let starts := match target with
      | .declare _ [.declarator _ first] => first.kind != .absent && first.hasEffects
      | _ => false
    if kind == .loopIn && !starts then finish target (after e value) rest
    else finish target value before
  | .declare .hoisted parts :: rest, .name n =>
    match parts.reverse with
    | .declarator (.binding m) first :: others =>
      if m = n ∧ first.kind == .absent then
        let left := if others.isEmpty then rest else .declare .hoisted others.reverse :: rest
        finish (.declare .hoisted [.declarator (.binding m) .absent]) value left
      else finish target value before
    | _ => finish target value before
  | _, _ => finish target value before

/-! ## Jumps -/

/-- Whether two jumps are the same. -/
def sameJump (t u : Tree) : Bool := isJump t && t.same u

/-- Statements, the last first, in which what comes before a result at their end is part of it. -/
def mergedResults : Nat → List Tree → List Tree
  | 0, before => before
  | n + 1, before =>
    match before with
    | .result last :: .evaluate e :: rest =>
      if last.kind == .absent then before
      else mergedResults n (.result (after e last) :: rest)
    | .result last :: .branch condition (.result first) .absent :: rest =>
      let value (e : Tree) : Tree := if e.kind == .absent then .undefined else e
      let (condition, left, right) := match condition with
        | .unary .not e => (e, value last, value first)
        | e => (e, value first, value last)
      let e := match condition with
        | .sequence parts =>
          match parts.getLast? with
          | some test => after (Tree.inTurn parts.dropLast) (chosen depth test left right)
          | none => chosen depth condition left right
        | test => chosen depth test left right
      mergedResults n (.result e :: rest)
    | .raise last :: .evaluate e :: rest => mergedResults n (.raise (after e last) :: rest)
    | .raise last :: .branch condition (.raise first) .absent :: rest =>
      let (condition, left, right) := match condition with
        | .unary .not e => (e, last, first)
        | e => (e, first, last)
      let e := match condition with
        | .sequence parts =>
          match parts.getLast? with
          | some test => after (Tree.inTurn parts.dropLast) (chosen depth test left right)
          | none => chosen depth condition left right
        | test => chosen depth test left right
      mergedResults n (.raise e :: rest)
    | before => before

/-- Statements, the last first, without a jump at their end to where they end anyway. -/
def withoutLastJump (listing : Listing) (before : List Tree) : List Tree :=
  match listing, before with
  | .functionBody, .result .absent :: rest => rest
  | .loopBody, .node (.again none) _ :: rest => rest
  | _, before => before

/-! ## Lists -/

/-- Whether a jump goes where the statements of a list end anyway. -/
def goesToEnd (listing : Listing) (t : Tree) : Bool :=
  match listing, t with
  | .functionBody, .result .absent => true
  | .loopBody, .node (.again none) _ => true
  | _, _ => false

/-- Statements in turn, in their shortest form. Every step takes a statement or makes one smaller;
the bound is on their number. -/
def statementsFrom (a : Around) (listing : Listing) : Nat → List Tree → List Tree → List Tree
  | 0, before, rest => before.reverse ++ rest
  | n + 1, before, rest =>
    let finish (before : List Tree) : List Tree :=
      let before := withoutLastJump listing before
      (mergedResults before.length before).reverse
    let dead (before : List Tree) : List Tree :=
      let functions := rest.drop 1 |>.filter fun t => t.kind == .declareFunction
      let lost := rest.drop 1 |>.filter fun t => t.kind != .declareFunction
      let declared := (declaration? (kept a (hoistedAll lost))).toList
      finish (declared ++ functions.reverse ++ before)
    match rest with
    | [] => finish before
    | t :: rest =>
      match t with
      | .empty => statementsFrom a listing n before rest
      | .block parts =>
        if parts.any needsBlock then statementsFrom a listing n (t :: before) rest
        else statementsFrom a listing n (parts.reverse ++ before) rest
      | .declare how parts => statementsFrom a listing n (addDeclaration a how parts before) rest
      | .evaluate e => statementsFrom a listing n (addExpression a e before) rest
      | .node .select (e :: options) =>
        let (before, e) := absorbed a e before
        statementsFrom a listing n (.node .select (e :: options) :: before) rest
      | .loop start condition step body =>
        statementsFrom a listing n (addLoop a start condition step body before) rest
      | .node .loopIn [target, value, body] =>
        statementsFrom a listing n (addLoopOver a .loopIn target value body before) rest
      | .node (.loopOf deferred) [target, value, body] =>
        statementsFrom a listing n (addLoopOver a (.loopOf deferred) target value body before) rest
      | .result e =>
        if e.kind == .absent then dead (t :: before)
        else
          let (before, e) := absorbed a e before
          dead (.result e :: before)
      | .raise e =>
        let (before, e) := absorbed a e before
        dead (.raise e :: before)
      | .node (.leave _) _ => dead (t :: before)
      | .node (.again _) _ => dead (t :: before)
      | .branch condition yes no =>
        let (before, condition) := absorbed a condition before
        if !isJump yes then statementsFrom a listing n (.branch condition yes no :: before) rest
        else
          let (before, condition) :=
            match before with
            | .branch first jump .absent :: others =>
              if sameJump jump yes then (others, joined depth .or first condition)
              else (before, condition)
            | before => (before, condition)
          let following := (if no.kind == .absent then [] else [no]) ++ rest
          if goesToEnd listing yes && !following.any needsBlock then
            let inner := statementsFrom a .other n [] following
            let test := Rule.condition depth (negated depth condition)
            let t := Tree.branch test (blockOf inner) .absent
            finish ((branch? test (blockOf inner) .absent).getD t :: before)
          else
            match no with
            | .absent => statementsFrom a listing n (.branch condition yes .absent :: before) rest
            | no => statementsFrom a listing n (.branch condition yes .absent :: before) (no :: rest)
      | t => statementsFrom a listing n (t :: before) rest

/-- Statements in turn, in their shortest form. -/
def statements (a : Around) (listing : Listing) (ts : List Tree) : List Tree :=
  statementsFrom a listing (2 * Tree.sizeAll ts + 2) [] ts

end Rule

end Pagefold.Script
