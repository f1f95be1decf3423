import Pagefold.Script.Rule.Form

/-!
# Variables that are used once, and values that are not used

A variable that is read once, right after its declaration, is replaced by its value. Between the
place of the declaration and the place of the use nothing may be evaluated that could notice. Of a
value that is not used only the effects stay.
-/
namespace Pagefold.Script

/-!
## Values that are not used

Where the value of an expression is not used, only its effects have to stay.
-/

namespace Rule

/-- Expressions in turn, if there are any. -/
def inTurn? (parts : List Tree) : Option Tree :=
  if parts.isEmpty then none else some (Tree.inTurn parts)

/-- What is left of a sum of texts: the parts that may have effects, with empty texts for the
others. Also says whether the sum is a text. -/
def textSum (n : Nat) (e : Tree) : Tree × Bool :=
  match n with
  | 0 => (e, e.known.kind == .text)
  | n + 1 =>
    match e with
    | .binary .plus left right =>
      let (left, isText) := textSum n left
      let shortened (e : Tree) : Tree := if e.hasEffects then e else .text []
      if isText then
        let left := shortened left
        if right.known.kind == .text && !right.hasEffects then (left, true)
        else (.binary .plus left right, true)
      else if right.known.kind == .text then (.binary .plus left (shortened right), true)
      else (.binary .plus left right, false)
    | e => (e, e.known.kind == .text)

/-- The variable that an assignment to it alone, which nothing reads, gives a value. -/
def isDeadTarget (a : Around) (target : Tree) : Bool :=
  match target with
  | .name ⟨_, some symbol⟩ =>
    match a.usage[symbol]? with
    | some u => !a.top && !a.evaluates && !u.fixed && u.reads == 0
    | none => false
  | _ => false

/-- The parts of an array target or object that have to be evaluated one after the other; what
stands for the parts of a value keeps the array or the object around it. -/
def gathered (wrap : List Tree → Tree) (parts : List (Tree × Bool)) : List Tree :=
  let flush (pending : List Tree) : List Tree :=
    if pending.isEmpty then [] else [wrap pending.reverse]
  let (found, pending) := parts.foldl (fun (state : List Tree × List Tree) (t, spreads) =>
    if spreads then (state.1, t :: state.2)
    else (state.1 ++ flush state.2 ++ [t], [])) ([], [])
  found ++ flush pending

mutual

/-- What is left of an expression whose value is not used; nothing if it has no effect. -/
def effects? (a : Around) (n : Nat) (e : Tree) : Option Tree :=
  match n with
  | 0 => some e
  | n + 1 =>
    let plain (e : Tree) : Option Tree := if e.hasEffects then some e else none
    match e with
    | .array parts =>
      if parts.any isSpread then
        let kept := parts.filterMap fun t =>
          if isSpread t then some t else if t.kind == .absent then none else effects? a n t
        inTurn? [Tree.array kept]
      else inTurn? (parts.filterMap fun t => if t.kind == .absent then none else effects? a n t)
    | .record parts =>
      if !parts.isEmpty && parts.all isSpread then some e
      else
        let found := parts.flatMap fun t =>
          match t with
          | .node (.entry form _ key) inner =>
            let key? := if key == .computed then inner.head? else none
            let value? := if form == .value then inner.getLast? else none
            ((key?.bind (effects? a n)).toList ++ (value?.bind (effects? a n)).toList).map (·, false)
          | t => [(t, true)]
        inTurn? (gathered .record found)
    | .assign none target value =>
      if isDeadTarget a target then effects? a n value else some e
    | .unary .void e => effects? a n e
    | .unary .not e => effects? a n e
    | .unary .kind (.name _) => none
    | .unary .kind e => effects? a n e
    | .binary .plus _ _ =>
      let (e, _) := textSum (n + 1) e
      plain e
    | .binary operator left right =>
      if operator.isEquality || operator.isOrder then
        inTurn? ((effects? a n left).toList ++ (effects? a n right).toList)
      else if operator.isLogical then logicalEffects? a n operator left right
      else plain e
    | .choice test yes no =>
      match effects? a n yes, effects? a n no with
      | none, none => effects? a n test
      | none, some no => some (joined n .or test no)
      | some yes, none => some (joined n .and test yes)
      | some yes, some no => some (.choice test yes no)
    | .sequence parts => inTurn? (parts.filterMap (effects? a n))
    | .node (.template pieces) parts =>
      let found := parts.filterMap fun t =>
        if t.known.kind.isPlain then (effects? a n t).map (·, false) else some (t, true)
      if parts.isEmpty then none
      else if found.all (·.2) && found.length == parts.length &&
          !pieces.any (· != "") then some e
      else inTurn? (gathered (fun pending =>
        .node (.template (List.replicate (pending.length + 1) "")) pending) found)
    | .call (.function h (.parameters []) (.body directives statements)) arguments =>
      if h.deferred || h.generates then plain e
      else if statements.isEmpty then
        if arguments.any isSpread then plain e
        else inTurn? (arguments.filterMap (effects? a n))
      else if h.arrow && directives.isEmpty && arguments.isEmpty then
        match statements with
        | [.evaluate e] => effects? a n e
        | [.result .absent] => none
        | [.result e] => effects? a n e
        | _ => plain e
      else plain e
    | .call callee arguments =>
      if Known.isNamedIn Known.harmlessFunctions callee && !arguments.any isSpread then
        if arguments.all fun t => !t.hasEffects then none else some e
      else some e
    | e => plain e

/-- What is left of a logical operator whose value is not used. -/
def logicalEffects? (a : Around) (n : Nat) (operator : Binary) (left right : Tree) : Option Tree :=
  match n with
  | 0 => some (.binary operator left right)
  | n + 1 =>
    let left := if operator == .coalesce then left else condition n left
    match effects? a n right with
    | none => effects? a n left
    | some right =>
      let shorter : Option Tree :=
        match operator, left with
        | .and, .unary .not e => some (joined n .or e right)
        | .or, .unary .not e => some (joined n .and e right)
        | _, .binary test x y =>
          let stops := (operator == .and && test == .unequal) || (operator == .or && test == .equal)
          let replaces := (operator == .and && test == .equal) || (operator == .or && test == .unequal)
          if stops then
            match comparedWithNull? x y with
            | some (m, value) =>
              match value with
              | .name _ => chained? m value right
              | _ => none
            | none => none
          else if replaces then
            if isNull y && !x.hasEffects then some (.binary .coalesce x right)
            else if isNull x && !y.hasEffects then some (.binary .coalesce y right)
            else none
          else none
        | _, _ => none
      some (shorter.getD (.binary operator left right))

end

end Rule

/-!
## Variables that are used once

A variable that is read once, right after its declaration, is replaced by its value. Between the
place of the declaration and the place of the use nothing may be evaluated that could notice.
-/

namespace Rule

/-- How far the search for a variable has come. -/
inductive Found where
  /-- It has been found and replaced. -/
  | replaced (e : Tree)
  /-- It is not in what has been looked at, which its value may be moved over. -/
  | further
  /-- Its value cannot be moved further. -/
  | stopped
  deriving Repr

/-- A value that is to stand where a variable is read. -/
structure Moving where
  name : Name
  value : Tree
  effects : Bool
  usage : Array Scope.Usage

namespace Moving

/-- Whether a variable is never given another value. -/
def isConstant (m : Moving) (n : Name) : Bool :=
  match n.symbol with
  | some symbol => (m.usage[symbol]?).any fun u => u.writes == 0
  | none => false

/-- What the search comes to at the end of an expression in which it has found nothing. -/
def pass (m : Moving) (e : Tree) : Found :=
  if m.value.isLiteral true || e.isLiteral true then .further
  else if !m.effects && !e.hasEffects then .further
  else .stopped

/-- What a part becomes when the search in it has come to an end. -/
def wrap (found : Found) (f : Tree → Tree) : Found :=
  match found with
  | .replaced e => .replaced (f e)
  | found => found

/-- How many parts of an expression are searched one after the other, and whether one that is not
always evaluated is searched if the value has no effects. Nothing is searched in a node that does
something of its own at first. -/
def searched (kind : Kind) : Bool :=
  match kind with
  | .wait | .give _ | .member _ _ | .secret _ _ | .index _ | .binary _ | .owns _ | .array | .spread
  | .template _ | .tagged _ | .chain | .sequence | .create | .call _ => true
  | .unary operator => operator != .delete
  | _ => false

mutual

/-- The search for the variable in an expression. -/
def search (m : Moving) : Tree → Found
  | .node kind parts =>
    let e := Tree.node kind parts
    match kind with
    | .name n =>
      if n == m.name then .replaced m.value
      else if m.isConstant n then .further
      else m.pass e
    | .binary operator =>
      match parts with
      | [left, right] =>
        match search m left with
        | .replaced left => .replaced (.node kind [left, right])
        | .stopped => .stopped
        | .further =>
          if operator.isLogical && m.effects then m.pass e
          else match search m right with
            | .replaced right => .replaced (.node kind [left, right])
            | .stopped => .stopped
            | .further => m.pass e
      | _ => m.pass e
    | .choice =>
      match parts with
      | [test, yes, no] =>
        match search m test with
        | .replaced test => .replaced (.node kind [test, yes, no])
        | .stopped => .stopped
        | .further =>
          if m.effects then m.pass e
          else match search m yes, search m no with
            | .replaced yes, _ => .replaced (.node kind [test, yes, no])
            | _, .replaced no => .replaced (.node kind [test, yes, no])
            | .stopped, _ => .stopped
            | _, .stopped => .stopped
            | .further, .further => m.pass e
      | _ => m.pass e
    | .assign operator =>
      match parts with
      | [.node targetKind inner, value] =>
        let target := Tree.node targetKind inner
        let inTarget : Found :=
          match targetKind with
          | .name _ => if operator.isSome then m.pass target else .further
          | .member _ _ =>
            wrap (searchAll m inner [] ) fun e => .node targetKind e.parts
          | .index _ => wrap (searchAll m inner []) fun e => .node targetKind e.parts
          | .secret _ _ => wrap (searchAll m inner []) fun e => .node targetKind e.parts
          | _ => .stopped
        match inTarget with
        | .replaced target => .replaced (.node kind [target, value])
        | .stopped => .stopped
        | .further =>
          let reads := operator.isSome
          if reads && m.effects then .stopped
          else match search m value with
            | .replaced value => .replaced (.node kind [target, value])
            | .stopped => .stopped
            | .further => m.pass e
      | _ => m.pass e
    | .record =>
      match searchEntries m parts [] with
      | .replaced e => .replaced (.node .record e.parts)
      | .stopped => .stopped
      | .further => m.pass e
    | .call optional =>
      match parts with
      | .node (.name n) _ :: _ =>
        let isPlace : Bool := match m.value.kind with
          | .member _ _ | .secret _ _ | .index _ | .chain => true
          | _ => false
        if n == m.name && isPlace then m.pass e
        else match searchAll m parts [] with
          | .replaced e => .replaced (.node (.call optional) e.parts)
          | .stopped => .stopped
          | .further => m.pass e
      | _ =>
        match searchAll m parts [] with
        | .replaced e => .replaced (.node (.call optional) e.parts)
        | .stopped => .stopped
        | .further => m.pass e
    | kind =>
      if searched kind then
        match searchAll m parts [] with
        | .replaced e => .replaced (.node kind e.parts)
        | .stopped => .stopped
        | .further => m.pass e
      else m.pass e

/-- The search in expressions one after the other; a sequence holds what comes of them. -/
def searchAll (m : Moving) : List Tree → List Tree → Found
  | [], _ => .further
  | t :: ts, before =>
    match search m t with
    | .replaced t => .replaced (.sequence (before.reverse ++ t :: ts))
    | .stopped => .stopped
    | .further => searchAll m ts (t :: before)

/-- The search in the entries of an object. -/
def searchEntries (m : Moving) : List Tree → List Tree → Found
  | [], _ => .further
  | .node kind parts :: ts, before =>
    match kind with
    | .entry form _ _ =>
      if form != .value then .stopped
      else match searchAll m parts [] with
        | .replaced e => .replaced (.sequence (before.reverse ++ .node kind e.parts :: ts))
        | .stopped => .stopped
        | .further => searchEntries m ts (.node kind parts :: before)
    | .spread =>
      match searchAll m parts [] with
      | .replaced e => .replaced (.sequence (before.reverse ++ .node kind e.parts :: ts))
      | _ => .stopped
    | _ => .stopped

end

end Moving

/-- Whether a declared variable is used so that its value can be moved to the place of its use. -/
def isSingle (a : Around) (n : Name) : Bool :=
  match n.symbol with
  | some symbol => (a.usage[symbol]?).any fun u => u.reads ≤ 1 && u.writes == 0
  | none => false

/-- An expression in which the variables that are declared last, in reverse order, stand for their
values, as far as they can; and the variables that are left, in reverse order. -/
def moveIn (a : Around) : List Tree → Tree → List Tree × Tree
  | .declarator (.binding n) value :: rest, e =>
    if value.kind == .absent || !isSingle a n then (.declarator (.binding n) value :: rest, e)
    else
      let m : Moving := ⟨n, value, value.hasEffects, a.usage⟩
      match m.search e with
      | .replaced e => moveIn a rest e
      | _ => (.declarator (.binding n) value :: rest, e)
  | declarators, e => (declarators, e)

/-- An expression in which variables stand for their values, and the statements that are left; the
last statement comes first. -/
def moveAll (a : Around) : List Tree → Tree → List Tree × Tree
  | .declare how declarators :: before, e =>
    let (left, e) := moveIn a declarators.reverse e
    if left.isEmpty then moveAll a before e
    else (.declare how left.reverse :: before, e)
  | before, e => (before, e)

/-- An expression after some statements, with the values of variables moved into it. -/
def movedIn (a : Around) (before : List Tree) (e : Tree) : List Tree × Tree :=
  if a.top || a.evaluates then (before, e) else moveAll a before e

end Rule

end Pagefold.Script
