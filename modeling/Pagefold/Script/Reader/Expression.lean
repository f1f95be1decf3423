import Pagefold.Script.Reader.Grammar

/-!
# Reading expressions

An expression is read from its first operand on: what may follow the operand, the operators
between operands by their levels, then a choice, an assignment or an arrow.
-/
namespace Pagefold.Script

namespace Reader

/-! ## Operands -/

/-- The text between grave accents from its first piece on, with the expressions in it. An escape
that means nothing is allowed only if `free` says so. -/
def template (g : Grammar) (s : Setting) (free : Bool) : Reader (List String × List Tree) := do
  let (pieces, parts) ← run (fun (state : List String × List Tree) => do
    match ← peek with
    | .piece source codes last =>
      if codes.isNone && !free then failure
      advance
      let pieces := source :: state.1
      if last then pure (.inr (pieces, state.2))
      else
        let e ← g.expression { s with membership := true }
        continuePiece
        pure (.inl (pieces, e :: state.2))
    | _ => failure) ([], [])
  pure (pieces.reverse, parts.reverse)

/-- What stands in parentheses: the parameters of a function if an arrow follows, or else an
expression. -/
def parenthesized (g : Grammar) (s : Setting) : Reader Tree := do
  need "("
  let s := { s with membership := true }
  -- The items so far, and whether the last of them asks for an arrow.
  let (items, special) ← run (fun (state : List Tree × Bool) => do
    if ← mark ")" then pure (.inr (state.1, true))
    else if ← mark "..." then
      let target ← g.target s
      need ")"
      pure (.inr (.rest target :: state.1, true))
    else
      let e ← g.assignment s
      if ← mark ")" then pure (.inr (e :: state.1, false))
      else
        need ","
        pure (.inl (e :: state.1, true))) ([], true)
  let items := items.reverse
  if (← isMark "=>") && !(← atLine) then
    match Target.ofElements? true items with
    | some targets => pure (.parameters targets)
    | none => failure
  else if special then failure
  else pure (.enclosed (Tree.inTurn items))

/-- The arguments of a call after the opening parenthesis. -/
def arguments (g : Grammar) (s : Setting) : Reader (List Tree) :=
  let s := { s with membership := true }
  listUntil ")" do
    if ← mark "..." then pure (.spread (← g.assignment s)) else g.assignment s

/-- An element of an array. -/
def arrayItem (g : Grammar) (s : Setting) : Reader Tree := do
  let s := { s with membership := true }
  if ← isMark "," then pure .absent
  else if ← mark "..." then pure (.spread (← g.assignment s))
  else g.assignment s

/-- An expression that starts with a word. -/
def wordOperand (g : Grammar) (s : Setting) (text : String) (plain : Bool) (extended : Reader Tree) :
    Reader Tree := do
  if !plain then
    if canName s text then
      advance
      pure (.name { text })
    else failure
  else
    match text with
    | "this" => advance; pure .this
    | "null" => advance; pure .null
    | "true" => advance; pure (.truth true)
    | "false" => advance; pure (.truth false)
    | "function" => advance; function g s false false
    | "class" => advance; classOf g s false extended
    | "super" =>
      advance
      if (← isMark ".") || (← isMark "[") || (← isMark "(") then pure (.node .parent []) else failure
    | "import" =>
      advance
      need "("
      let found ← arguments g s
      if found.isEmpty || 2 < found.length then failure
      pure (.node .fetch found)
    | "new" =>
      advance
      if ← mark "." then
        needWord "target"
        pure (.node .newTarget [])
      else
        let made ← g.maker s
        match made with
        | .node .fetch _ => failure
        | _ => pure ()
        let found ← if ← mark "(" then arguments g s else pure []
        pure (.create made found)
    | "async" =>
      let (second, line) ← peekSecond
      if second == .name "function" true && !line then
        advance
        advance
        function g s true false
      else
        advance
        pure (.name { text })
    | text => if canName s text then do advance; pure (.name { text }) else failure

/-- An expression without operators, and without what may follow it. -/
def primary (g : Grammar) (s : Setting) (extended : Reader Tree) : Reader Tree := do
  match ← peek with
  | .name text plain => wordOperand g s text plain extended
  | .number (.number value) => advance; pure (.number value)
  | .number (.big value) => advance; pure (.big (toString value))
  | .quoted _ codes => advance; pure (.text codes)
  | .piece _ _ _ =>
    let (pieces, parts) ← template g s false
    pure (.node (.template pieces) parts)
  | .mark "(" => parenthesized g s
  | .mark "[" => advance; pure (.array (← listUntil "]" (arrayItem g s)))
  | .mark "\x7b" => advance; pure (.record (← listUntil "\x7d" (entry g s)))
  | .mark "/" => regular
  | .mark "/=" => regular
  | _ => failure

/-- The name of a member after a point. -/
def property (optional : Bool) (e : Tree) : Reader Tree := do
  match ← peek with
  | .name text _ => advance; pure (.node (.member text optional) [e])
  | .hidden text => advance; pure (.node (.secret text optional) [e])
  | _ => failure

/-- An expression with what follows it: members, and calls if `calls` says so. A chain that may
stop ends where nothing more follows. -/
def suffixes (g : Grammar) (s : Setting) (calls : Bool) (e : Tree) : Reader Tree :=
  let inner := { s with membership := true }
  run (fun (state : Tree × Bool) => do
    let (e, stops) := state
    match ← peek with
    | .mark "." =>
      advance
      pure (.inl (← property false e, stops))
    | .mark "[" =>
      advance
      let key ← g.expression inner
      need "]"
      pure (.inl (.index e key, stops))
    | .mark "(" =>
      if calls then
        advance
        pure (.inl (.call e (← arguments g s), stops))
      else pure (.inr (if stops then .chain e else e))
    | .mark "?." =>
      if !calls then failure
      advance
      match ← peek with
      | .mark "[" =>
        advance
        let key ← g.expression inner
        need "]"
        pure (.inl (.node (.index true) [e, key], true))
      | .mark "(" =>
        advance
        pure (.inl (.node (.call true) (e :: (← arguments g s)), true))
      | .piece _ _ _ => failure
      | _ => pure (.inl (← property true e, true))
    | .piece _ _ _ =>
      if stops then failure
      let (pieces, parts) ← template g s true
      pure (.inl (.node (.tagged pieces) (e :: parts), stops))
    | _ => pure (.inr (if stops then .chain e else e))) (e, false)

/-- An expression with its members and, if `calls` says so, its calls. -/
def reference (g : Grammar) (s : Setting) (calls : Bool) : Reader Tree :=
  -- What a class extends is read in the same way, with calls.
  let extended : Reader Tree := g.operand s
  do
    let e ← primary g s extended
    match e with
    | .parameters _ => failure
    | e => suffixes g s calls e

/-- What follows an operand: the signs for one more and one less, on the same line. -/
def raised (e : Tree) : Reader Tree := do
  let up ← isMark "++"
  let down ← isMark "--"
  if (up || down) && !(← atLine) then
    match Target.simple? e with
    | some target =>
      advance
      pure (.node (.update up false) [target])
    | none => failure
  else pure e

/-- The operator in front of an expression. -/
def unary? : Lexeme → Option Unary
  | .mark text => Unary.all.find? fun operator => operator.text == text
  | .name text true => Unary.all.find? fun operator => operator.text == text
  | _ => none

/-- The operator between two expressions. -/
def binary? (s : Setting) : Lexeme → Option Binary
  | .mark text => Binary.all.find? fun operator => operator.text == text
  | .name "in" true => if s.membership then some .within else none
  | .name "instanceof" true => some .instanceOf
  | _ => none

/-- What stands in front of the equals sign of an assignment. -/
def assignment? : Lexeme → Option (Option Binary)
  | .mark "=" => some none
  | .mark text =>
    (Binary.assigning.find? fun operator => operator.text ++ "=" == text).map some
  | _ => none

/-- An expression with the operators in front of it and the signs after it. -/
def operand (g : Grammar) (s : Setting) : Reader Tree := do
  let token ← peek
  match unary? token with
  | some operator =>
    advance
    pure (.unary operator (← g.operand s))
  | none =>
    if token == .mark "++" || token == .mark "--" then
      advance
      match Target.simple? (← g.operand s) with
      | some target => pure (.node (.update (token == .mark "++") true) [target])
      | none => failure
    else if s.deferred && token == .name "await" true then
      advance
      pure (.node .wait [← g.operand s])
    else raised (← reference g s true)

/-! ## Operators -/

/-- Whether two operators need parentheses between them. -/
def clash (outer : Binary) (inner : Tree) : Bool :=
  match inner with
  | .node (.binary operator) _ =>
    (outer == .coalesce && (operator == .or || operator == .and)) ||
      ((outer == .or || outer == .and) && operator == .coalesce)
  | _ => false

/-- Whether an expression has an operator in front of it. -/
def isUnary : Tree → Bool
  | .node (.unary _) _ => true
  | _ => false

/-- An expression with the operators that follow it, as far as they bind at least as strongly as
`level`. -/
def operatorsFrom (g : Grammar) (s : Setting) (level : Nat) (left : Tree) : Reader Tree :=
  run (fun (left : Tree) => do
    match binary? s (← peek) with
    | none => pure (.inr left)
    | some operator =>
      if operator.level < level then pure (.inr left)
      else if operator == .power && isUnary left then failure
      else
        advance
        let right ← g.operators s (if operator == .power then operator.level else operator.level + 1)
        if clash operator left || clash operator right then failure
        pure (.inl (.binary operator left right))) left

/-- An operand with the operators that follow it. -/
def operators (g : Grammar) (s : Setting) (level : Nat) : Reader Tree := do
  match ← peek with
  | .hidden text =>
    advance
    if !(s.membership && (← word "in")) then failure
    let right ← g.operators s 11
    operatorsFrom g s level (.node (.owns text) [right])
  | _ => operatorsFrom g s level (← operand g s)

/-- The rest of a choice or of an assignment after its first expression. -/
def chosen (g : Grammar) (s : Setting) (e : Tree) : Reader Tree := do
  if ← mark "?" then
    let yes ← g.assignment { s with membership := true }
    need ":"
    let no ← g.assignment s
    pure (.choice e yes no)
  else
    match assignment? (← peek) with
    | none => pure e
    | some operator =>
      let target := if operator.isNone then Target.ofTree? false e else Target.simple? e
      match target with
      | none => failure
      | some target =>
        advance
        pure (.assign operator target (← g.assignment s))

/-- What a function gives while it runs, after its word. -/
def given (g : Grammar) (s : Setting) : Reader Tree := do
  let ends ←
    match ← peek with
    | .mark text => pure ([")", "]", "\x7d", ",", ";", ":", "?"].contains text)
    | .name text true => pure (text == "in" || text == "of")
    | .finish => pure true
    | _ => pure false
  if ends || (← atLine) then pure (.node (.give false) [.absent])
  else
    let all ← mark "*"
    pure (.node (.give all) [← g.assignment s])

/-- The arguments of a call of a word, which are the parameters of a function if an arrow
follows. -/
def deferredParameters? : Tree → Option (List Tree)
  | .call (.name ⟨"async", _⟩) items => Target.ofElements? true items
  | _ => none

/-- An expression without commas outside of brackets. -/
def assignment (g : Grammar) (s : Setting) : Reader Tree := do
  let token ← peek
  if s.generates && token == .name "yield" true then
    advance
    given g s
  else
    match token, ← peekSecond with
    | .name "async" true, (.name text _, false) =>
      if text ≠ "function" && canName { s with deferred := true } text then
        advance
        let name ← variableName s
        arrow g s true (.parameters [.binding name])
      else chosen g s (← operators g s 0)
    | .name text _, (.mark "=>", false) =>
      if !canName s text then failure
      advance
      arrow g s false (.parameters [.binding { text }])
    | .mark "(", _ =>
      match ← parenthesized g s with
      | .parameters targets => arrow g s false (.parameters targets)
      | e =>
        let e ← raised (← suffixes g s true e)
        chosen g s (← operatorsFrom g s 0 e)
    | _, _ =>
      let e ← operators g s 0
      if token == .name "async" true && (← isMark "=>") && !(← atLine) then
        match deferredParameters? e with
        | some targets => arrow g s true (.parameters targets)
        | none => failure
      else chosen g s e

/-- Expressions with commas between them. -/
def expression (g : Grammar) (s : Setting) : Reader Tree := do
  let found ← run (fun (found : List Tree) => do
    let e ← assignment g s
    if ← mark "," then pure (.inl (e :: found)) else pure (.inr (e :: found))) []
  pure (Tree.inTurn found.reverse)

end Reader

end Pagefold.Script
