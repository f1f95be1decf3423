import Pagefold.Script.Known

/-!
# Conditions

A condition is asked only whether it counts as true, so that other forms serve as well. Choices,
logical operators and negations are put together in their shortest form. Every function here has a
bound on how deep it works; where the bound is used up an expression stays as it is.
-/
namespace Pagefold.Script

namespace Rule

open Tree (inTurn)

/-- Whether an expression is a name that the script declares. -/
def isDeclared : Tree → Bool
  | .name n => n.symbol.isSome
  | _ => false

/-- Whether an expression is the undefined value. -/
def isUndefined (e : Tree) : Bool :=
  match e with
  | .unary .void _ => !e.hasEffects
  | .name ⟨"undefined", none⟩ => true
  | _ => false

/-- Whether an expression is null. -/
def isNull (e : Tree) : Bool := e.same .null

/-- Two expressions in turn. -/
def after (a b : Tree) : Tree :=
  let parts (e : Tree) : List Tree :=
    match e with
    | .sequence parts => parts
    | e => [e]
  .sequence (parts a ++ parts b)

/-! ## Chains that stop -/

/-- An expression in which the innermost member or call is one of `value` where it was one of the
variable, and stops if that is undefined or null. -/
def stopping? (n : Name) (value : Tree) : Tree → Option Tree
  | .node (.member property optional) parts =>
    match parts with
    | [object] =>
      if object.same (.name n) then some (.node (.member property true) [value])
      else (stopping? n value object).map fun object => .node (.member property optional) [object]
    | _ => none
  | .node (.secret property optional) parts =>
    match parts with
    | [object] =>
      if object.same (.name n) then some (.node (.secret property true) [value])
      else (stopping? n value object).map fun object => .node (.secret property optional) [object]
    | _ => none
  | .node (.index optional) parts =>
    match parts with
    | [object, key] =>
      if object.same (.name n) then some (.node (.index true) [value, key])
      else (stopping? n value object).map fun object => .node (.index optional) [object, key]
    | _ => none
  | .node (.call optional) parts =>
    match parts with
    | callee :: arguments =>
      if callee.same (.name n) then some (.node (.call true) (value :: arguments))
      else (stopping? n value callee).map fun callee => .node (.call optional) (callee :: arguments)
    | _ => none
  | .node .chain parts =>
    match parts with
    | [e] => stopping? n value e
    | _ => none
  | _ => none

/-- A chain that stops if the variable is undefined or null. -/
def chained? (n : Name) (value e : Tree) : Option Tree := (stopping? n value e).map .chain

/-- The variable that an expression is or has just got its value. -/
def variableOf? : Tree → Option Name
  | .name n => if n.symbol.isSome then some n else none
  | .assign none (.name n) _ => if n.symbol.isSome then some n else none
  | _ => none

/-- The side of an operator that is compared with null, and its variable. -/
def comparedWithNull? (left right : Tree) : Option (Name × Tree) :=
  if isNull left then (variableOf? right).map (·, right)
  else if isNull right then (variableOf? left).map (·, left)
  else none

/-! ## Logical operators -/

/-- The name that an expression is or has just got its value. -/
def nameOf? : Tree → Option Name
  | .name n => some n
  | .assign none (.name n) _ => some n
  | _ => none

/-- The sides of a comparison with null or with the undefined value: what is compared, its name,
and whether it is compared with null. -/
def absence? (wanted : Binary) : Tree → Option (Tree × Name × Bool)
  | .binary operator left right =>
    if operator ≠ wanted then none
    else if isNull right then (nameOf? left).map (left, ·, true)
    else if isUndefined right then (nameOf? left).map (left, ·, false)
    else if isNull left then (nameOf? right).map (right, ·, true)
    else if isUndefined left then (nameOf? right).map (right, ·, false)
    else none
  | _ => none

/-- A value that is neither null nor undefined, or one of them, in one comparison. -/
def absent? (operator : Binary) (left right : Tree) : Option Tree :=
  let compared (wanted : Binary) : Option Tree := do
    let (value, name, isNull) ← absence? wanted left
    let (other, other', isNull') ← absence? wanted right
    if isNull == isNull' then none
    match other with
    | .name _ => if name = other' then some (.binary wanted.loose value .null) else none
    | _ => none
  match operator with
  | .or => compared .same
  | .and => compared .different
  | _ => none

/-- Whether an expression is the same object wherever it is evaluated: a variable or `this`. -/
def isSteady : Tree → Bool
  | .name n => n.symbol.isSome
  | .this => true
  | _ => false

/-- Whether a key of an object is the same wherever it is evaluated. -/
def isSteadyKey (e : Tree) : Bool := isSteady e || (e.isLiteral false && !e.hasEffects)

/-- Whether a target and an expression are the same place, which nothing changes between. -/
def isSamePlace (target e : Tree) : Bool :=
  match target, e with
  | .name n, .name k => n == k
  | .member a p, .member b q => p == q && a.same b && isSteady a
  | .node (.secret p false) [a], .node (.secret q false) [b] => p == q && a.same b && isSteady a
  | .index a k, .index b l => a.same b && k.same l && isSteady a && isSteadyKey k
  | _, _ => false

/-- A logical operator in a shorter form. -/
def logical? (operator : Binary) (left right : Tree) : Option Tree :=
  match absent? operator left right with
  | some e => some e
  | none =>
    let nested : Option Tree :=
      match left with
      | .binary inner first second =>
        if inner = operator then
          (absent? operator second right).map fun e => .binary operator first e
        else none
      | _ => none
    match nested, right with
    | some e, _ => some e
    | none, .assign none target value =>
      if operator.isLogical ∧ isSamePlace target left then
        some (.assign (some operator) target value)
      else none
    | none, _ => none

/-- A logical operator in its shortest form. -/
def logical (operator : Binary) (left right : Tree) : Tree :=
  (logical? operator left right).getD (.binary operator left right)

/-- Two expressions with an operator that may be put together from the left. -/
def joined (n : Nat) (operator : Binary) (a b : Tree) : Tree :=
  match n with
  | 0 => .binary operator a b
  | n + 1 =>
    match a with
    | .sequence parts =>
      match parts.getLast? with
      | some last => .sequence (parts.dropLast ++ [joined n operator last b])
      | none => b
    | a =>
      match b with
      | .binary inner left right =>
        if inner = operator then joined n operator (joined n operator a left) right
        else logical operator a b
      | b => logical operator a b

/-! ## Choices -/

/-- Whether two calls differ at most in their first arguments, which are both plain or both the
parts of a value. -/
def callsAlike? (a b : List Tree) : Option (Tree × Tree × Bool × List Tree) :=
  match a, b with
  | .spread x :: rest, .spread y :: rest' =>
    if Tree.sameAll rest rest' then some (x, y, true, rest) else none
  | .spread _ :: _, _ => none
  | _, .spread _ :: _ => none
  | x :: rest, y :: rest' => if Tree.sameAll rest rest' then some (x, y, false, rest) else none
  | _, _ => none

mutual

/-- The negation of an expression. -/
def negated (n : Nat) (e : Tree) : Tree :=
  match n with
  | 0 => .unary .not e
  | n + 1 =>
    match condition n e with
    | .unary .not e => if e.known.kind == .truth then e else .unary .not (.unary .not e)
    | .binary operator left right =>
      if operator.isEquality then .binary operator.opposite left right
      else .unary .not (.binary operator left right)
    | .sequence parts =>
      match parts.getLast? with
      | some last => .sequence (parts.dropLast ++ [negated n last])
      | none => .unary .not (.sequence parts)
    | e => .unary .not e

/-- An expression in a form that counts as true in the same cases. -/
def condition (n : Nat) (e : Tree) : Tree :=
  match n with
  | 0 => e
  | n + 1 =>
    match e with
    | .unary .not (.unary .not e) => condition n e
    | .binary .and left right =>
      let left := condition n left
      let right := condition n right
      if right.idleTruth? = some true then left else .binary .and left right
    | .binary .or left right =>
      let left := condition n left
      let right := condition n right
      if right.idleTruth? = some false then left else .binary .or left right
    | .binary operator left (.number x) =>
      if operator.isEquality && x.isZero && left.known.kind == .number then
        if operator == .different || operator == .unequal then left else .unary .not left
      else e
    | .choice test yes no =>
      let yes := condition n yes
      let no := condition n no
      match yes.idleTruth?, no.idleTruth? with
      | some true, _ => joined n .or test no
      | some false, _ => joined n .and (negated n test) no
      | none, some true => joined n .or (negated n test) yes
      | none, some false => joined n .and test yes
      | none, none => .choice test yes no
    | .sequence parts =>
      match parts.getLast? with
      | some last => .sequence (parts.dropLast ++ [condition n last])
      | none => e
    | e => e

end

/-- A choice whose condition is compared with null, by operators that stop at null. -/
def nullish? (test yes no : Tree) : Option Tree :=
  match test with
  | .binary .equal left right => do
    let (n, value) ← comparedWithNull? left right
    if no.same (.name n) then some (.binary .coalesce value yes)
    else if isUndefined yes then chained? n value no
    else none
  | _ => none

/-- A choice in a shorter form. -/
def chosen? (n : Nat) (test yes no : Tree) : Option Tree :=
  match n with
  | 0 => none
  | n + 1 =>
    let again (test yes no : Tree) : Tree := (chosen? n test yes no).getD (.choice test yes no)
    let byTest : Option Tree :=
      match test with
      | .sequence parts =>
        parts.getLast?.map fun last => .sequence (parts.dropLast ++ [again last yes no])
      | .unary .not e => some (again e no yes)
      | .name m =>
        if yes.same (.name m) then some (joined n .or test no)
        else if no.same (.name m) then some (joined n .and test yes)
        else none
      | .binary .unequal left right => some (again (.binary .equal left right) no yes)
      | .binary .different left right => some (again (.binary .same left right) no yes)
      | _ => none
    let byTruth : Option Tree :=
      match yes, no with
      | .truth true, .truth false => some (negated n (negated n test))
      | .truth false, .truth true => some (negated n test)
      | _, _ => none
    let byYes : Option Tree :=
      match yes with
      | .choice inner a b =>
        if b.same no then some (.choice (joined n .and test inner) a b) else none
      | .sequence [a, b] =>
        if b.same no then some (.sequence [joined n .and test a, no]) else none
      | .binary .or a b =>
        if b.same no then some (.binary .or (joined n .and test a) b) else none
      | _ => none
    let byNo : Option Tree :=
      match no with
      | .choice inner a b =>
        if a.same yes then some (.choice (joined n .or test inner) yes b) else none
      | .sequence [a, b] =>
        if b.same yes then some (.sequence [joined n .or test a, yes]) else none
      | .binary .and a b =>
        if b.same yes then some (.binary .and (joined n .or test a) b) else none
      | _ => none
    let byBoth : Option Tree :=
      match yes, no with
      | .call f xs, .call g ys =>
        if test.hasEffects || !f.same g then none
        else (callsAlike? xs ys).map fun (x, y, spreads, rest) =>
          let first := again test x y
          .call f ((if spreads then .spread first else first) :: rest)
      | .assign o (.name m) x, .assign p (.name k) y =>
        if o = p ∧ m = k then some (.assign o (.name m) (again test x y)) else none
      | _, _ => none
    let same : Option Tree := if yes.same no then some (after test yes) else none
    [byTest, byTruth, byYes, byNo, byBoth, nullish? test yes no, same].findSome? id

/-- A choice in its shortest form. -/
def chosen (n : Nat) (test yes no : Tree) : Tree :=
  (chosen? n test yes no).getD (.choice test yes no)

/-- How deep the functions here work. -/
def depth : Nat := 100

end Rule

end Pagefold.Script
