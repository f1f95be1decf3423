import Pagefold.Script.Rule.Condition
import Pagefold.Script.Scope

/-!
# Expressions with a known value

An expression whose value is known is replaced by the value, if the text of the value is not
longer and no effect is lost. A place in an object that is called must stay one that is not, so
such a value is put behind a zero.
-/
namespace Pagefold.Script

open Number

/-- Where an expression stands in the one around it, as far as this matters. -/
inductive Spot where
  | plain
  | callee
  | kindOperand
  | deleteOperand
  /-- It is a statement. -/
  | statement
  deriving DecidableEq, Repr

namespace Rule

/-- What is known at the place of an expression. -/
structure Around where
  usage : Array Scope.Usage
  spot : Spot := .plain
  /-- Whether the variables declared here belong to the whole script. -/
  top : Bool := false
  /-- Whether texts are evaluated in the function around. -/
  evaluates : Bool := false
  /-- Whether an undefined result has to be waited for. -/
  waits : Bool := false

/-- Whether an expression is another one at its place than the same expression elsewhere: what is
called as a member, a text that is evaluated, or a name that may be missing. -/
def isIndirect (spot : Spot) (e : Tree) : Bool :=
  match spot, e with
  | .callee, .name ⟨"eval", none⟩ => true
  | .callee, .node (.member _ _) _ => true
  | .callee, .node (.secret _ _) _ => true
  | .callee, .node (.index _) _ => true
  | .callee, .node .chain _ => true
  | .kindOperand, .name ⟨_, none⟩ => true
  | .deleteOperand, .name _ => true
  | .deleteOperand, .node (.member _ _) _ => true
  | .deleteOperand, .node (.secret _ _) _ => true
  | .deleteOperand, .node (.index _) _ => true
  | .deleteOperand, .node .chain _ => true
  | _, _ => false

/-- An expression in the place of one around it. -/
def lifted (spot : Spot) (e : Tree) : Tree :=
  if isIndirect spot e then .sequence [.zero, e] else e

/-! ## Operators between -/

/-- How long the text of a number is. -/
def textLength (x : Double) : Nat :=
  (Numeral.text x.abs).length + (if x.isNegative then 1 else 0)

/-- Whether a number is beside the ordinary ones: zero, infinite or none. -/
def isSpecial (x : Double) : Bool := x.isZero || !x.isFinite

/-- Whether a number is not greater than the words of 32 bits. -/
def isModest (x : Double) : Bool := !(Double.ofNat 0xFFFFFFFF).below x.abs

/-- Whether the value of an operator between two numbers is written in its place. -/
def isShorter (operator : Binary) (x y : Double) : Bool :=
  match operator with
  | .shiftLeft =>
    match Known.combined? .shiftLeft (.number x) (.number y) with
    | some (.number z) => textLength z ≤ textLength x + 2 + textLength y
    | _ => false
  | .shiftZero =>
    match Known.combined? .shiftZero (.number x) (.number y) with
    | some (.number z) => textLength z ≤ textLength x + 3 + textLength y
    | _ => false
  | .minus => !x.isFinite || !y.isFinite || (isModest x && isModest y)
  | .times | .power | .remainder => isSpecial x || isSpecial y
  | .divide => isSpecial y
  | _ => true

/-- Whether the value of an operator between two expressions is written in its place. -/
def mayFold (operator : Binary) (a b : Known) : Bool :=
  match operator with
  | .minus | .times | .power | .remainder | .divide | .shiftLeft | .shiftZero =>
    match a.number, b.number with
    | some x, some y => isShorter operator x y
    | _, _ => false
  | _ => true

/-- A sum with texts at its end that are put together. -/
def sum? (left right : Tree) : Option Tree :=
  let l := left.known
  let r := right.known
  let merged : Option Tree :=
    match left with
    | .binary .plus first (.text a) =>
      match r.text with
      | some b =>
        if r.effects || !r.kind.isPlain then none
        else some (.binary .plus first (.text (Codes.paired (a ++ b))))
      | none => none
    | _ => none
  let useless : Option Tree :=
    if left.same (.text []) && r.kind == .text then some right
    else if right.same (.text []) && l.kind == .text then some left
    else none
  (merged.orElse fun _ => useless)

/-- An operator between two expressions with a known value. -/
def binary? (operator : Binary) (left right : Tree) : Option Tree :=
  let a := left.known
  let b := right.known
  if operator.isLogical then none
  else
    match (Known.ofBinary operator a b).value with
    | some x =>
      if a.effects || b.effects || !mayFold operator a b then none else some (Tree.ofConstant x)
    | none =>
      match operator, left with
      | .plus, _ => sum? left right
      | .instanceOf, left =>
        if left.known.kind.isPlain && !a.effects && !b.effects then some (.truth false) else none
      | operator, .binary inner first second =>
        -- Two bit operators of one kind with constants are one.
        if inner = operator ∧ (operator.isBitwise ∨ operator = .times) then
          match second.known.number, b.number with
          | some x, some y =>
            if second.known.kind == .number && b.kind == .number then
              match Known.combined? operator (.number x) (.number y) with
              | some z =>
                if operator.isBitwise || isSpecial x || isSpecial y then
                  some (.binary operator first (Tree.ofConstant z))
                else none
              | none => none
            else none
          | _, _ => none
        else none
      | _, _ => none

/-! ## Logical operators and choices -/

/-- A logical operator of which one side is known. -/
def known? (spot : Spot) (operator : Binary) (left right : Tree) : Option Tree :=
  let l := left.known
  let decided (stays : Bool) : Tree :=
    if stays then left
    else if l.effects then after left right
    else lifted spot right
  match operator with
  | .coalesce =>
    if l.kind == .null || l.kind == .undefined then
      some (if l.effects then after left right else lifted spot right)
    else if l.kind != .unknown then some (lifted spot left)
    else none
  | _ =>
    match l.truth with
    | some value => some (decided (if operator == .or then value else !value))
    | none =>
      match left with
      | .binary inner first second =>
        if inner = operator then
          match second.idleTruth? with
          | some value =>
            if (operator == .or && !value) || (operator == .and && value) then
              some (.binary operator first right)
            else none
          | none => none
        else none
      | _ => none

/-- A choice of which the condition is known. -/
def decided? (spot : Spot) (test yes no : Tree) : Option Tree :=
  match test.truth? with
  | some value =>
    let e := if value then yes else no
    some (if test.hasEffects then after test e else lifted spot e)
  | none => none

/-! ## Operators in front -/

/-- An operator in front of an expression with a known value. -/
def unary? (operator : Unary) (e : Tree) : Option Tree :=
  match operator, e with
  | .void, .number x => if x.isZero then none else some .undefined
  | .minus, .big _ => none
  | _, _ =>
    let k := Known.ofUnary operator e e.known
    match k.value with
    | some x => if k.effects || operator == .delete then none else some (Tree.ofConstant x)
    | none => none

/-! ## Members -/

/-- A member or an element of a text or an array that is known. -/
def member? (e : Tree) : Option Tree :=
  let k := e.known
  match k.value with
  | some x => if k.effects then none else some (Tree.ofConstant x)
  | none =>
    match e with
    | .index (.array parts) key =>
      match Known.place? key.known with
      | some n =>
        if parts.any (·.hasEffects) || key.hasEffects ||
            parts.any fun part => part.kind == .spread then none
        else match parts[n]? with
          | some .absent => some .undefined
          | found => found
      | none => none
    | _ => none

/-- A chain that stops at once, or one that cannot stop. -/
def chain? (e : Tree) : Option Tree :=
  match e with
  | .node (.member _ true) [object] => stopped? object
  | .node (.index true) [object, _] => stopped? object
  | .node (.call true) (callee :: _) => stopped? callee
  | _ => none
where
  /-- What a chain is that stops at a value. -/
  stopped? (object : Tree) : Option Tree :=
    let k := object.known
    if k.kind == .null || k.kind == .undefined then
      some (if k.effects then .sequence [object, .undefined] else .undefined)
    else none

end Rule

end Pagefold.Script
