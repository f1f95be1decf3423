import Pagefold.Script.Rule.Single

/-!
# Single statements

A statement may have a shorter form of its own: a condition may be an expression, a block may hold
a single statement, and what is never run goes away, but for the variables that it declares.
-/
namespace Pagefold.Script

namespace Rule

/-! ## Variables of what is not run -/

mutual

/-- The names that a target declares. -/
def boundNames : Tree → List Name
  | .node (.binding n) _ => [n]
  | .node .fallback parts => boundNamesFirst parts
  | .node .declarator parts => boundNamesFirst parts
  | .node .arrayTarget parts => boundNamesAll parts
  | .node .recordTarget parts => boundNamesAll parts
  | .node (.entry _ _ _) parts => boundNamesAll parts
  | .node .rest parts => boundNamesAll parts
  | _ => []

/-- The names that some targets declare. -/
def boundNamesAll : List Tree → List Name
  | [] => []
  | t :: ts => boundNames t ++ boundNamesAll ts

/-- The names that the first of some targets declares. -/
def boundNamesFirst : List Tree → List Name
  | [] => []
  | t :: _ => boundNames t

end

mutual

/-- The variables of the function around that a statement declares. -/
def hoisted : Tree → List Name
  | .node kind parts =>
    if Scope.holdsBack kind then []
    else if kind == .declare .hoisted then boundNamesAll parts
    else hoistedAll parts

/-- The variables of the function around that some statements declare. -/
def hoistedAll : List Tree → List Name
  | [] => []
  | t :: ts => hoisted t ++ hoistedAll ts

end

/-- A declaration of some variables without values, if there are any. -/
def declaration? (names : List Name) : Option Tree :=
  if names.isEmpty then none
  else some (.declare .hoisted (names.eraseDups.map fun n => .declarator (.binding n) .absent))

/-- The variables of statements that are not run, that are used elsewhere. -/
def kept (a : Around) (names : List Name) : List Name :=
  names.filter fun n =>
    a.top || a.evaluates ||
      match n.symbol with
      | some symbol => (a.usage[symbol]?).all fun u => !u.isUnused
      | none => true

/-! ## Blocks -/

/-- Whether a statement declares something for the block around it. -/
def needsBlock : Tree → Bool
  | .node (.declare how) _ => how != .hoisted
  | .node .declareFunction _ => true
  | .node .declareClass _ => true
  | _ => false

/-- Whether a statement does nothing. -/
def isEmpty : Tree → Bool
  | .empty => true
  | .block [] => true
  | _ => false

/-- Whether a statement leaves the statements around it. -/
def isJump : Tree → Bool
  | .node (.leave _) _ => true
  | .node (.again _) _ => true
  | .result _ => true
  | .raise _ => true
  | _ => false

/-- Statements as one. -/
def blockOf (statements : List Tree) : Tree :=
  match statements with
  | [] => .empty
  | [t] => if needsBlock t then .block [t] else t
  | ts => .block ts

/-! ## Conditions -/

/-- A condition in a shorter form. -/
def branch? (condition yes no : Tree) : Option Tree :=
  let positive : Binary × Tree :=
    match condition with
    | .unary .not e => (.or, e)
    | e => (.and, e)
  let negative : Binary × Tree :=
    match condition with
    | .unary .not e => (.and, e)
    | e => (.or, e)
  let joinedWith (way : Binary × Tree) (e : Tree) : Tree :=
    .evaluate (joined depth way.1 way.2 e)
  match yes, no with
  | .evaluate e, .absent => some (joinedWith positive e)
  | .evaluate e, .evaluate f => some (.evaluate (chosen depth condition e f))
  | yes, no =>
    if isEmpty yes then
      match no with
      | .absent => some (.evaluate condition)
      | .evaluate e => some (joinedWith negative e)
      | no =>
        if isEmpty no then some (.evaluate condition)
        else match condition with
          | .unary .not e => some (.branch e no .absent)
          | e => some (.branch (negated depth e) no .absent)
    else match no with
      | .absent =>
        match yes with
        | .branch inner then_ .absent => some (.branch (joined depth .and condition inner) then_ .absent)
        | _ => none
      | no =>
        if isEmpty no then some (.branch condition yes .absent)
        else match condition, yes with
          | .unary .not _, .evaluate _ => none
          | .unary .not e, _ => some (.branch e no yes)
          | _, _ => none

/-- A condition that is known. -/
def settled? (a : Around) (condition yes no : Tree) : Option Tree :=
  match condition.truth? with
  | none => none
  | some value =>
    let (run, skipped) := if value then (yes, no) else (no, yes)
    let run := if run.kind == .absent then .empty else run
    let declared := (declaration? (kept a (hoisted skipped))).toList
    let first := if condition.hasEffects then [Tree.evaluate condition] else []
    some (blockOf (first ++ declared ++ (if isEmpty run then [] else [run])))

/-! ## Loops -/

/-- The body of a loop without its first statement, which may be replaced. -/
def withoutFirst (body : Tree) (by_ : Option Tree) : Tree :=
  match body with
  | .block (_ :: rest) => blockOf (by_.toList ++ rest)
  | _ => by_.getD .empty

/-- A loop that is left at its start under a condition. -/
def leftAtStart? (start condition step body : Tree) : Option Tree :=
  let first := match body with
    | .block (t :: _) => t
    | t => t
  let with_ (e : Tree) (t : Option Tree) : Tree :=
    let condition := if condition.kind == .absent then e else joined depth .and condition e
    .loop start condition step (withoutFirst body t)
  match first with
  | .branch test (.node (.leave none) _) no =>
    let e := match test with
      | .unary .not e => e
      | e => negated depth e
    some (with_ e (if no.kind == .absent then none else some no))
  | .branch test yes (.node (.leave none) _) => some (with_ test (some yes))
  | _ => none

/-- A loop of which the condition is known. -/
def settledLoop? (a : Around) (start condition step body : Tree) : Option Tree :=
  if condition.kind == .absent || condition.hasEffects then none
  else match condition.truth? with
    | none => none
    | some true => some (.loop start .absent step body)
    | some false =>
      let declared := kept a (hoisted body)
      match start with
      | .absent => some ((declaration? declared).getD .empty)
      | .declare .hoisted parts =>
        some (.declare .hoisted
          (parts ++ declared.map fun n => .declarator (.binding n) .absent))
      | .declare _ _ => none
      | e => some (blockOf (.evaluate e :: (declaration? declared).toList))

/-! ## Other statements -/

/-- A statement that may fail, or not. -/
def attempt? (a : Around) (tried handler last : Tree) : Option Tree :=
  match tried, handler, last with
  | .block [], .node .handler (_ :: body), .absent =>
    some ((declaration? (kept a (hoistedAll body))).getD .empty)
  | .block [], .node .handler (_ :: body), .block statements =>
    some (.block ((declaration? (kept a (hoistedAll body))).toList ++ statements))
  | .block [], .absent, .block statements =>
    some (if statements.isEmpty then .empty else .block statements)
  | tried, .absent, .block [] => some tried
  | tried, .node .handler parts, .block [] =>
    some (.node .attempt [tried, .node .handler parts, .absent])
  | _, _, _ => none

/-- A statement with a label that is left at once. -/
def labeled? (a : Around) (label : String) (t : Tree) : Option Tree :=
  let first := match t with
    | .block (t :: _) => t
    | t => t
  if isEmpty t then some .empty
  else match first with
    | .node (.leave (some other)) _ =>
      if other = label then some ((declaration? (kept a (hoisted t))).getD .empty) else none
    | _ => none

/-- A block of at most one statement. -/
def block? (parts : List Tree) : Option Tree :=
  match parts with
  | [] => some .empty
  | [t] => if needsBlock t then none else some t
  | _ => none

/-- A function or a class that is declared and not used. -/
def unusedDeclaration? (a : Around) (name : Option Name) : Bool :=
  match name with
  | some ⟨_, some symbol⟩ =>
    !a.top && !a.evaluates && (a.usage[symbol]?).any (·.isUnused)
  | _ => false

/-- A statement in a shorter form. The body of a function with an arrow may be an expression that
is its result; then `brief` says so. -/
def statement? (a : Around) (t : Tree) : Option Tree :=
  match t with
  | .block parts => block? parts
  | .branch condition yes no =>
    let shorter := Rule.condition depth condition
    match settled? a shorter yes no with
    | some t => some t
    | none =>
      match branch? shorter yes no with
      | some t => some t
      | none => if shorter.same condition then none else some (.branch shorter yes no)
  | .loop start condition step body =>
    let shorter := if condition.kind == .absent then condition else Rule.condition depth condition
    match settledLoop? a start shorter step body with
    | some t => some t
    | none =>
      match leftAtStart? start shorter step body with
      | some t => some t
      | none => if shorter.same condition then none else some (.loop start shorter step body)
  | .node .whileLoop [condition, body] => some (.loop .absent condition .absent body)
  | .node .untilLoop [body, condition] =>
    let shorter := Rule.condition depth condition
    if shorter.same condition then none else some (.node .untilLoop [body, shorter])
  | .node .attempt [tried, handler, last] => attempt? a tried handler last
  | .node (.labeled label) [t] => labeled? a label t
  | .node .declareFunction [.function h _ _] =>
    if unusedDeclaration? a h.name then some .empty else none
  | .node .declareClass [.node (.classOf name) parts] =>
    if unusedDeclaration? a name && !(Tree.node (.classOf name) parts).hasEffects then some .empty
    else none
  | .evaluate e =>
    match effects? a depth e with
    | none => some .empty
    | some f => if f.same e then none else some (.evaluate f)
  | .result e => if isUndefined e && !a.waits then some (.result .absent) else none
  | .node .debugger _ => some .empty
  | _ => none

/-- A statement in its shortest form, after at most so many steps. -/
def statement (a : Around) : Nat → Tree → Tree
  | 0, t => t
  | n + 1, t =>
    match statement? a t with
    | some t => statement a n t
    | none => t

end Rule

end Pagefold.Script
