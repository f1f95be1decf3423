import Pagefold.Script.Reader.Expression

/-!
# Reading scripts

The readers of each depth are made from those of the depth below. A text is a script if its
statements can be read up to its end, and if no object in it has an entry that only the target of
an assignment may have.
-/
namespace Pagefold.Script

/-!
## Reading statements

A statement is known by its first word or mark. Declarations stand only in lists of statements.
-/

namespace Reader

/-- The condition of a statement, in parentheses. -/
def condition (g : Grammar) (s : Setting) : Reader Tree := do
  need "("
  let e ← g.expression { s with membership := true }
  need ")"
  pure e

/-- Whether a target takes the parts of a value. -/
def takesParts : Tree → Bool
  | .node .arrayTarget _ => true
  | .node .recordTarget _ => true
  | _ => false

/-- The variables of a declaration. -/
def declarators (g : Grammar) (s : Setting) : Reader (List Tree) := do
  let found ← run (fun (found : List Tree) => do
    let target ← g.target s
    let value ← if ← mark "=" then g.assignment s else pure .absent
    let found := .declarator target value :: found
    if ← mark "," then pure (.inl found) else pure (.inr found)) []
  pure found.reverse

/-- Whether every variable has the value that its declaration asks for. -/
def areComplete (how : Declaring) (declarators : List Tree) : Bool :=
  declarators.all fun t =>
    match t with
    | .declarator target .absent => how != .fixed && !takesParts target
    | _ => true

/-- The declaration at this place: how it declares; nothing if none starts here. -/
def declaring? : Reader (Option Declaring) := do
  if ← isWord "var" then pure (some .hoisted)
  else if ← isWord "const" then pure (some .fixed)
  else if ← isWord "let" then
    match (← peekSecond).1 with
    | .name text _ => pure (if reserved.contains text then none else some .scoped)
    | .mark "[" => pure (some .scoped)
    | .mark "\x7b" => pure (some .scoped)
    | _ => pure none
  else pure none

/-- A body of a loop or of a condition. -/
def inner (g : Grammar) (s : Setting) : Reader Tree :=
  g.statement { s with membership := true } false

/-- The statements in braces. -/
def block (g : Grammar) (s : Setting) : Reader Tree := do
  need "\x7b"
  pure (.block (← blockUntil true (g.statement s true)))

/-- The statement that a condition leads to. A function may be declared in its place. -/
def branchBody (g : Grammar) (s : Setting) : Reader Tree := do
  if ← isWord "function" then
    match ← g.statement s true with
    | .node .declareFunction [.function h parameters body] =>
      if h.generates then failure else pure (.node .declareFunction [.function h parameters body])
    | t => pure t
  else inner g s

/-- The rest of a loop over the parts of a value, from the word between its target and the
value on. -/
def loopOver (g : Grammar) (s : Setting) (deferred : Bool) (target : Tree) : Reader Tree := do
  let inner' := { s with membership := true }
  if !deferred && (← word "in") then
    let right ← g.expression inner'
    need ")"
    pure (.node .loopIn [target, right, ← inner g s])
  else
    needWord "of"
    let right ← g.assignment inner'
    need ")"
    pure (.node (.loopOf deferred) [target, right, ← inner g s])

/-- The rest of a loop with a counter, from the first semicolon on. -/
def loopWith (g : Grammar) (s : Setting) (start : Tree) : Reader Tree := do
  let inner' := { s with membership := true }
  need ";"
  let condition ← if ← isMark ";" then pure .absent else g.expression inner'
  need ";"
  let step ← if ← isMark ")" then pure .absent else g.expression inner'
  need ")"
  pure (.loop start condition step (← inner g s))

/-- Whether the next token is between the target and the value of a loop. -/
def isBetween : Reader Bool := do pure ((← isWord "in") || (← isWord "of"))

/-- A loop after its word. -/
def loop (g : Grammar) (s : Setting) : Reader Tree := do
  let deferred ← if s.deferred then word "await" else pure false
  need "("
  let outer := { s with membership := false }
  match ← declaring? with
  | some how =>
    advance
    let found ← declarators g outer
    let single := match found with
      | [.declarator _ .absent] => true
      | [.declarator (.binding _) _] => how == .hoisted
      | _ => false
    if single && (← isBetween) then
      loopOver g s deferred (.declare how found)
    else if !areComplete how found || deferred then failure
    else loopWith g s (.declare how found)
  | none =>
    if ← isMark ";" then if deferred then failure else loopWith g s .absent
    else
      let e ← g.expression outer
      if ← isBetween then
        match Target.ofTree? false e with
        | some target => loopOver g s deferred target
        | none => failure
      else if deferred then failure
      else loopWith g s e

/-- The cases of a selection. -/
def option (g : Grammar) (s : Setting) : Reader Tree := do
  let test ←
    if ← word "case" then g.expression { s with membership := true }
    else
      needWord "default"
      pure .absent
  need ":"
  let statements ← run (fun (found : List Tree) => do
    if (← isMark "\x7d") || (← isWord "case") || (← isWord "default") then pure (.inr found)
    else
      let t ← g.statement { s with membership := true } true
      pure (.inl (t :: found))) []
  pure (.node .option (test :: statements.reverse))

/-- A statement that may fail, after its word. -/
def attempt (g : Grammar) (s : Setting) : Reader Tree := do
  let tried ← block g s
  let handler : Tree ←
    if ← word "catch" then
      let target : Tree ←
        if ← mark "(" then
          let target ← g.target s
          need ")"
          pure target
        else pure .absent
      pure (.node .handler [target, ← block g s])
    else pure .absent
  let last : Tree ← if ← word "finally" then block g s else pure .absent
  match handler, last with
  | .absent, .absent => failure
  | _, _ => pure (.node .attempt [tried, handler, last])

/-- A function or a class that is declared. -/
def declaredFunction (g : Grammar) (s : Setting) (deferred : Bool) : Reader Tree := do
  pure (.node .declareFunction [← function g s deferred true])

/-- A statement that is an expression, or one with a label. -/
def plain (g : Grammar) (s : Setting) : Reader Tree := do
  match ← peek, ← peekSecond with
  | .name text _, (.mark ":", _) =>
    if !canName s text then failure
    advance
    advance
    let t ← branchBody g s
    pure (.node (.labeled text) [t])
  | _, _ =>
    let e ← g.expression { s with membership := true }
    finishStatement
    pure (.evaluate e)

/-- A statement that starts with a word. -/
def wordStatement (g : Grammar) (s : Setting) (listed : Bool) (text : String) : Reader Tree := do
  match text with
  | "if" =>
    advance
    let e ← condition g s
    let yes ← branchBody g s
    let no ← if ← word "else" then branchBody g s else pure .absent
    pure (.branch e yes no)
  | "for" => advance; loop g s
  | "while" =>
    advance
    let e ← condition g s
    pure (.node .whileLoop [e, ← inner g s])
  | "do" =>
    advance
    let t ← inner g s
    needWord "while"
    let e ← condition g s
    let _ ← mark ";"
    pure (.node .untilLoop [t, e])
  | "return" =>
    if !s.returns then failure
    advance
    let ends := (← isMark ";") || (← isMark "\x7d") || (← peek) == .finish || (← atLine)
    let e ← if ends then pure .absent else g.expression { s with membership := true }
    finishStatement
    pure (.result e)
  | "throw" =>
    advance
    if ← atLine then failure
    let e ← g.expression { s with membership := true }
    finishStatement
    pure (.raise e)
  | "try" => advance; attempt g s
  | "switch" =>
    advance
    let e ← condition g s
    need "\x7b"
    let options ← blockUntil true (option g s)
    pure (.node .select (e :: options))
  | "break" =>
    advance
    let label ← label?
    finishStatement
    pure (.node (.leave label) [])
  | "continue" =>
    advance
    let label ← label?
    finishStatement
    pure (.node (.again label) [])
  | "with" =>
    advance
    let e ← condition g s
    pure (.node .within [e, ← inner g s])
  | "debugger" =>
    advance
    finishStatement
    pure (.node .debugger [])
  | "function" => if listed then do advance; declaredFunction g s false else failure
  | "class" =>
    if listed then do
      advance
      pure (.node .declareClass [← classOf g s true (g.operand s)])
    else failure
  | "async" =>
    let (second, line) ← peekSecond
    if second == .name "function" true && !line then
      if !listed then failure
      advance
      advance
      declaredFunction g s true
    else plain g s
  | _ => plain g s

/-- A statement; whether it stands in a list. -/
def statement (g : Grammar) (s : Setting) (listed : Bool) : Reader Tree := do
  match ← peek with
  | .mark "\x7b" => block g s
  | .mark ";" => advance; pure .empty
  | .name text true =>
    match ← declaring? with
    | some how =>
      if how ≠ .hoisted && !listed then failure
      advance
      let found ← declarators g { s with membership := true }
      if !areComplete how found then failure
      finishStatement
      pure (.declare how found)
    | none => wordStatement g s listed text
  | _ => plain g s

end Reader

namespace Reader

/-- The readers of the next depth. -/
def deeper (g : Grammar) : Grammar where
  expression := expression g
  assignment := assignment g
  operators := operators g
  operand := operand g
  maker s := reference g s false
  target := target g
  statement := statement g

/-- The readers of a depth. -/
def grammar (depth : Nat) : Grammar := (List.range depth).foldl (fun g _ => deeper g) .empty

/-- The line at the start of a script that names its program, and what follows. -/
def opening (text : List Char) : Option String × List Char :=
  match text with
  | '#' :: '!' :: r =>
    (some (String.ofList (r.takeWhile fun c => !Lexeme.endsLine c)), Lexeme.fromLineEnd r)
  | text => (none, text)

end Reader

/-- The script that a text is, if it can be read. -/
def Tree.read? (source : String) : Option Tree := do
  let bound := source.length + 2
  let (opening, remaining) := Reader.opening source.toList
  let start ← Source.at? bound true remaining
  let ((directives, statements), _) ← Reader.bodyOf (Reader.grammar bound) {} false start
  let script := Tree.node (.script opening directives) statements
  if script.holds Target.isUnfinished then none else pure script

end Pagefold.Script
