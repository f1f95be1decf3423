import Pagefold.Script.Known
import Pagefold.Script.Rule.Sequence
import Pagefold.Script.Scope

/-!
# Simpler scripts

A script is gone through from its smallest pieces to its largest, and each piece is replaced by a
simpler one with the same meaning. What is learnt about variables on the way is remembered: the
constants they have, and which functions do nothing. This is repeated until nothing changes.
-/
namespace Pagefold.Script

/-!
## Scripts without marks of their writing

Before a script is made shorter, what only says how it was written goes away: parentheses,
statements that do nothing, directives that say nothing new, and other words for the same value.
-/

open Number

namespace Normal

/-- The directive that asks for the strict mode. -/
def strictDirective : String := "use strict"

/-- Directives without what the surroundings say already. -/
def directives (strict : Bool) (ds : List String) : List String :=
  if strict then ds.filter (· != strictDirective) else ds

/-- Whether the parts of a node are read in the strict mode. -/
def isStrictIn (strict : Bool) (kind : Kind) : Bool :=
  strict ||
    match kind with
    | .script _ ds => ds.contains strictDirective
    | .body ds => ds.contains strictDirective
    | .classOf _ => true
    | _ => false

/-- Whether a statement does nothing. -/
def isIdle (t : Tree) : Bool :=
  match t.kind with
  | .empty => true
  | .debugger => true
  | _ => false

/-- A function that stood in parentheses. -/
def enclosed (t : Tree) : Tree :=
  match t with
  | .node (.function h) parts => .node (.function { h with enclosed := true }) parts
  | t => t

/-- Whether no variable of a target gets another value. -/
def isKept (usage : Array Scope.Usage) (target : Tree) : Bool :=
  !target.holds fun t =>
    match t with
    | .binding ⟨_, some symbol⟩ => (usage[symbol]?).any fun u => u.writes != 0
    | _ => false

/-- Whether no variable of a declaration gets another value. -/
def areKept (usage : Array Scope.Usage) (parts : List Tree) : Bool :=
  parts.all fun t =>
    match t with
    | .declarator target _ => isKept usage target
    | _ => true

/-- A node whose parts have been made normal. `top` says whether it stands in the script itself,
and `deleted` whether it is what a deletion names. -/
def node (usage : Array Scope.Usage) (strict top deleted : Bool) (kind : Kind) (parts : List Tree) :
    Tree :=
  match kind, parts with
  | .enclosed, [t] => enclosed t
  | .name ⟨text, none⟩, _ =>
    if deleted then .node kind parts
    else match Known.constantNamed? text with
      | some .undefined => .undefined
      | some (.number x) => .number x
      | _ => .node kind parts
  | .unary .void, [.name ⟨_, some _⟩] => .undefined
  | .script opening ds, parts => .node (.script opening ds) (parts.filter (!isIdle ·))
  | .body ds, parts => .node (.body (directives strict ds)) (parts.filter (!isIdle ·))
  | .block, parts => .node .block (parts.filter (!isIdle ·))
  | .setup, parts => .node .setup (parts.filter (!isIdle ·))
  | .option, test :: parts => .node .option (test :: parts.filter (!isIdle ·))
  | .declare .fixed, parts =>
    if !top && areKept usage parts then .node (.declare .scoped) parts else .node kind parts
  | .whileLoop, [condition, body] => .loop .absent condition .absent body
  | kind, parts => .node kind parts

/-- Whether the parts of a node stand in the script itself if the node does. -/
def staysTop (top : Bool) : Kind → Bool
  | .script _ _ => true
  | .declare _ => top
  | .declarator => top
  | _ => false

mutual

/-- A piece made normal. -/
def tree (usage : Array Scope.Usage) (strict top deleted : Bool) : Tree → Tree
  | .node kind parts =>
    node usage strict top deleted kind
      (trees usage (isStrictIn strict kind) (staysTop top kind)
        (kind == .unary .delete || (deleted && kind == .enclosed)) parts)

/-- Some pieces made normal. -/
def trees (usage : Array Scope.Usage) (strict top deleted : Bool) : List Tree → List Tree
  | [] => []
  | t :: ts => tree usage strict top deleted t :: trees usage strict top deleted ts

end

end Normal

end Pagefold.Script

namespace Pagefold.Script

open Number

/-- What has been learnt about variables. -/
structure Memory where
  constants : List (Nat × Constant) := []
  /-- Functions that do nothing and give nothing. -/
  idle : List Nat := []

/-- The part that a piece has in the piece around it. -/
inductive Role where
  | plain
  | callee
  | kindOperand
  | deleteOperand
  | loopBody
  | loopStart
  /-- The body of a function, or its only statement, that is its result. -/
  | brief
  /-- A variable whose first value may be remembered. -/
  | scoped
  | classEntry
  /-- A function or a class that is declared, whose name is not its own. -/
  | declared
  deriving DecidableEq, Repr

namespace Role

/-- The role of the part of a node at a place. -/
def ofPart (kind : Kind) (own : Role) (i : Nat) : Role :=
  match kind with
  | .call _ => if i = 0 then .callee else .plain
  | .tagged _ => if i = 0 then .callee else .plain
  | .unary .kind => .kindOperand
  | .unary .delete => .deleteOperand
  | .loop => if i = 0 then .loopStart else if i = 3 then .loopBody else .plain
  | .loopIn => if i = 0 then .loopStart else if i = 2 then .loopBody else .plain
  | .loopOf _ => if i = 0 then .loopStart else if i = 2 then .loopBody else .plain
  | .whileLoop => if i = 1 then .loopBody else .plain
  | .untilLoop => if i = 0 then .loopBody else .plain
  | .function h => if h.brief && i == 1 then .brief else .plain
  | .body _ => if own == .brief then .brief else .plain
  | .declare how => if how != .hoisted && own != .loopStart then .scoped else .plain
  | .classOf _ => .classEntry
  | .declareFunction => .declared
  | .declareClass => .declared
  | _ => .plain

/-- The place of an expression. -/
def spot : Role → Spot
  | .callee => .callee
  | .kindOperand => .kindOperand
  | .deleteOperand => .deleteOperand
  | _ => .plain

end Role

namespace Simplify

open Rule

/-! ## What is remembered -/

/-- Whether the constant of a variable is written wherever it is read. -/
def isInlined (u : Scope.Usage) (x : Constant) : Bool :=
  u.writes == 0 &&
    (u.reads == 1 ||
      match x with
      | .number x =>
        match x.whole? with
        | some n => -99 ≤ n && n ≤ 999
        | none => false
      | .text codes =>
        ((textOf? codes).map String.utf8ByteSize).getD (3 * codes.length) ≤ 3
      | _ => true)

/-- A name of a variable whose constant is known. -/
def inlined? (a : Around) (m : Memory) (n : Name) : Option Tree := do
  let symbol ← n.symbol
  let x ← m.constants.lookup symbol
  let u ← a.usage[symbol]?
  if isInlined u x then pure (Tree.ofConstant x) else none

/-- The memory after the declaration of a variable. -/
def remember (m : Memory) (target value : Tree) : Memory :=
  match target with
  | .binding ⟨_, some symbol⟩ =>
    if value.kind == .absent then { m with constants := (symbol, .undefined) :: m.constants }
    else match value.known.value with
      | some x => { m with constants := (symbol, x) :: m.constants }
      | none => m
  | _ => m

/-- Whether a function does nothing and gives nothing. -/
def isIdle (t : Tree) : Bool :=
  match t with
  | .function h (.parameters ps) (.body _ []) =>
    !h.deferred && !h.generates && ps.all fun p =>
      match p with
      | .binding _ => true
      | _ => false
  | _ => false

/-- The memory with a variable whose value is a function that does nothing. -/
def rememberIdle (a : Around) (m : Memory) (n : Option Name) (f : Tree) : Memory :=
  match n with
  | some ⟨_, some symbol⟩ =>
    if isIdle f && !m.idle.contains symbol && (a.usage[symbol]?).any (·.writes == 0) then
      { m with idle := symbol :: m.idle }
    else m
  | _ => m

/-- A call of a function that does nothing. -/
def idleCall? (a : Around) (m : Memory) (t : Tree) : Option Tree :=
  match t with
  | .call (.name ⟨_, some symbol⟩) arguments =>
    if m.idle.contains symbol && !arguments.any isSpread then
      let parts := arguments.filterMap (effects? a depth)
      some (if parts.isEmpty then .undefined else .sequence (parts ++ [.undefined]))
    else none
  | _ => none

/-! ## Rules by kind -/

/-- A rule that is about operators between two expressions. -/
def onBinary (rule : Binary → Tree → Tree → Option Tree) (t : Tree) : Option Tree :=
  match t with
  | .binary operator left right => rule operator left right
  | _ => none

/-- Rules one after the other. -/
def apply (rules : List (Tree → Option Tree)) (t : Tree) : Tree :=
  rules.foldl (fun t rule => (rule t).getD t) t

/-- A sequence in which only what has effects stays, but for its last expression. -/
def sequence? (a : Around) (parts : List Tree) : Option Tree :=
  let flat := parts.flatMap inOrder
  match flat.getLast? with
  | none => none
  | some last =>
    let first := flat.dropLast
    if isIndirect a.spot last && first.length == 1 && (first.head?.any fun e => e.same .zero) then none
    else
      let left := first.filterMap (effects? a depth)
      if left.isEmpty then some (lifted a.spot last) else some (.sequence (left ++ [last]))

/-- A function in a shorter form: with an expression for its only result, and without a name that
it does not use itself. -/
def function? (a : Around) (t : Tree) : Option Tree :=
  match t with
  | .function h ps (.body [] [.result e]) =>
    if h.arrow && !h.brief && e.kind != .absent then
      some (.function { h with brief := true } ps (.body [] [.evaluate e]))
    else none
  | .function h ps (.body [] [.evaluate e]) =>
    if h.brief && isUndefined e && !a.waits then
      some (.function { h with brief := false } ps (.body [] []))
    else none
  | _ => none

/-- A function or a class without its own name, if nothing in it uses the name. The name of one
that is declared is not its own. -/
def unnamed? (a : Around) (role : Role) (t : Tree) : Option Tree :=
  let isUnused (name : Option Name) : Bool :=
    match name with
    | some ⟨_, some symbol⟩ =>
      role != .declared && (a.usage[symbol]?).any (·.isUnused) && !Scope.evaluates t
    | _ => false
  match t with
  | .function h ps body =>
    if isUnused h.name then some (.function { h with name := none } ps body) else none
  | .node (.classOf name) parts =>
    if isUnused name then some (.node (.classOf none) parts) else none
  | _ => none

/-- A declaration in which no variable is said to be undefined. -/
def declaration? (t : Tree) : Option Tree :=
  match t with
  | .declare .scoped parts =>
    some (.declare .scoped (parts.map fun t =>
      match t with
      | .declarator (.binding n) value =>
        if isUndefined value then .declarator (.binding n) .absent else t
      | t => t))
  | _ => none

/-- A handler without a target that it does not use. -/
def handler? (a : Around) (t : Tree) : Option Tree :=
  match t with
  | .node .handler [.binding ⟨text, some symbol⟩, body] =>
    if body.same (.block []) || body.same .empty ||
        (!Scope.evaluates body && (a.usage[symbol]?).any (·.isUnused)) then
      some (.node .handler [.absent, body])
    else some (.node .handler [.binding ⟨text, some symbol⟩, body])
  | _ => none

/-- A block that has to stay one. -/
def asBlock (t : Tree) : Tree :=
  match t with
  | .block parts => .block parts
  | .empty => .block []
  | t => .block [t]

/-- A node whose statements have been put together. -/
def listed (a : Around) (role : Role) (kind : Kind) (parts : List Tree) : Tree :=
  match kind, parts with
  | .script opening ds, parts => .node (.script opening ds) (statements { a with top := true } .other parts)
  | .body ds, parts =>
    if role == .brief then .node kind parts else .node (.body ds) (statements a .functionBody parts)
  | .block, parts =>
    .node .block (statements a (if role == .loopBody then .loopBody else .other) parts)
  | .setup, parts => .node .setup (statements a .other parts)
  | .option, test :: parts => .node .option (test :: statements a .other parts)
  | .attempt, [tried, handler, last] =>
    .node .attempt [asBlock tried, handler, if last.kind == .absent then last else asBlock last]
  | .handler, [target, body] => .node .handler [target, asBlock body]
  | kind, parts => .node kind parts

/-- A node in its simplest form, after its parts. -/
def refine (a : Around) (role : Role) (m : Memory) (t : Tree) : Tree :=
  match t.kind with
  | .binary operator =>
    if operator.isLogical then
      apply
        [onBinary (known? a.spot), onBinary logical?, onBinary objectTest?, onBinary rotated?] t
    else
      apply
        [onBinary swapped?, onBinary binary?, onBinary sameKind?, onBinary equality?,
         onBinary absence, onBinary rotated?, onBinary withoutPlus?, onBinary numberForTruth?] t
  | .unary _ =>
    apply
      [fun t => match t with
        | .unary operator e => unary? operator e
        | _ => none,
       fun t => match t with
        | .unary .not e => some (negated depth e)
        | _ => none] t
  | .member _ _ => apply [member?, property?] t
  | .index optional =>
    apply
      [fun t => match t with
        | .node (.index _) [object, key] => dotted? optional object key
        | _ => none, member?] t
  | .chain =>
    apply
      [fun t => match t with
        | .chain e => chain? e
        | _ => none,
       fun t => match t with
        | .chain e =>
          if e.holds fun t => match t.kind with
              | .member _ true | .secret _ true | .index true | .call true => true
              | _ => false
            then none else some e
        | _ => none] t
  | .call optional =>
    apply
      [fun t => match t with
        | .node (.call _) (f :: arguments) => some (.node (.call optional) (f :: unspread arguments))
        | _ => none,
       idleCall? a m, call?,
       fun t => match t with
        | .call (.name ⟨name, none⟩) arguments => literalOf? false name arguments
        | _ => none] t
  | .create =>
    apply
      [fun t => match t with
        | .create f arguments => some (.create f (unspread arguments))
        | _ => none,
       fun t => match t with
        | .create f arguments => created? f arguments
        | _ => none] t
  | .choice =>
    apply
      [fun t => match t with
        | .choice test yes no => some (.choice (condition depth test) yes no)
        | _ => none,
       fun t => match t with
        | .choice test yes no => decided? a.spot test yes no
        | _ => none,
       fun t => match t with
        | .choice test yes no => chosen? depth test yes no
        | _ => none] t
  | .assign _ =>
    apply
      [fun t => match t with
        | .assign operator target value => assignment? operator target value
        | _ => none,
       fun t => match t with
        | .assign operator target value => assignment? operator target value
        | _ => none] t
  | .sequence => (sequence? a t.parts).getD t
  | .function _ => apply [function? a, unnamed? a role] t
  | .classOf _ => apply [unnamed? a role] t
  | .array =>
    apply
      [fun t => some (.array (unspread t.parts)), fun t => splitText? t.parts] t
  | .record => .record (unspreadEntries t.parts)
  | .entry _ _ _ => (entryShape? (role == .classEntry) t).getD t
  | .template pieces => (template? pieces t.parts).getD t
  | .name n => (inlined? a m n).getD t
  | .declare _ => (declaration? t).getD t
  | .handler => (handler? a t).getD t
  | _ => t

/-- Whether a node is a statement. -/
def isStatement : Kind → Bool
  | .evaluate | .block | .branch | .loop | .whileLoop | .untilLoop | .result | .attempt
  | .labeled _ | .declareFunction | .declareClass | .debugger => true
  | _ => false

/-- Whether the names in a part are targets and no values. -/
def isTarget (kind : Kind) (i : Nat) : Bool :=
  match kind with
  | .assign _ => i = 0
  | .update _ _ => true
  | .loopIn => i = 0
  | .loopOf _ => i = 0
  | _ => false

/-- A node that has been replaced by a simpler one; statements among them by one in its shortest
form. -/
def finish (a : Around) (role : Role) (m : Memory) (t : Tree) : Tree :=
  let t := refine a role m t
  if isStatement t.kind && role != .brief then statement a depth t else t

/-- What is known in the parts of a node. -/
def inside (a : Around) (role : Role) (t : Tree) : Around :=
  let a := { a with spot := role.spot }
  match t.kind with
  | .script _ _ => { a with top := true, evaluates := Scope.evaluates t }
  | .function h =>
    { a with top := false, evaluates := Scope.evaluates t, waits := h.deferred && h.generates }
  | .setup => { a with top := false, waits := false }
  | .block | .loop | .loopIn | .loopOf _ | .handler | .select | .classOf _ => { a with top := false }
  | _ => a

/-- The memory after a node. -/
def learn (a : Around) (role : Role) (m : Memory) (t : Tree) : Memory :=
  match t with
  | .declarator target value =>
    let m := if role == .scoped then remember m target value else m
    match target with
    | .binding n => rememberIdle a m (some n) value
    | _ => m
  | .node .declareFunction [.node (.function h) parts] =>
    rememberIdle a m h.name (.node (.function h) parts)
  | _ => m

mutual

/-- A piece made simpler, and what has been learnt on the way. `target` says that its names are
targets. -/
def tree (a : Around) (role : Role) (target : Bool) (m : Memory) : Tree → Tree × Memory
  | .node kind parts =>
    let t := Tree.node kind parts
    let inner := inside a role t
    let (parts, m) := trees inner kind role target 0 m parts
    match target, kind with
    | true, .name _ => (.node kind parts, m)
    | true, .arrayTarget => (.node kind parts, m)
    | true, .recordTarget => (.node kind parts, m)
    | _, _ =>
      let outer := { a with spot := role.spot }
      let t := listed inner role kind parts
      let m := learn outer role m t
      (finish outer role m t, m)

/-- The parts of a node made simpler, from the one at a place on. -/
def trees (a : Around) (kind : Kind) (own : Role) (target : Bool) (i : Nat) (m : Memory) :
    List Tree → List Tree × Memory
  | [] => ([], m)
  | t :: ts =>
    let isTarget := isTarget kind i ||
      (target && (match kind with
        | .arrayTarget | .recordTarget | .rest => true
        | .fallback => i == 0
        | .entry _ _ _ => ts.isEmpty
        | _ => false))
    let (t, m) := tree a (Role.ofPart kind own i) isTarget m t
    let (ts, m) := trees a kind own target (i + 1) m ts
    (t :: ts, m)

end

/-- A script made simpler until nothing changes, but at most so many times. -/
def repeated (count : Nat) : Nat → List Nat → Tree → Tree
  | 0, _, t => t
  | n + 1, idle, t =>
    let (simpler, m) := tree { usage := Scope.tally count t } .plain false { idle } t
    if simpler.same t then t else repeated count n m.idle simpler

/-- The simpler form of a script. -/
def script (t : Tree) : Tree :=
  let (t, count) := Scope.resolve [] false 0 t
  let t := Normal.tree (Scope.tally count t) false false false t
  repeated count 12 [] t

end Simplify

end Pagefold.Script
