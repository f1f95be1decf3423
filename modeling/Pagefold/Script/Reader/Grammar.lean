import Pagefold.Script.Reader.Source

/-!
# Readers of a depth

Expressions stand within expressions and statements within statements. The readers of one depth
read what is inside with the readers of the depth below, so that every reader is a plain function
of those; a script is read with more depths than it has characters.
-/
namespace Pagefold.Script

/-!
## Targets of assignments

The left side of an assignment and the parameters of a function with an arrow are first read as
expressions, because what they are shows only later. Then they are looked at again: names, members
of objects, and arrays and objects of such targets can take a value.
-/

namespace Target

/-- Whether an expression takes a single value. -/
def isSimple : Tree → Bool
  | .node (.name _) _ => true
  | .node (.member _ optional) _ => !optional
  | .node (.secret _ optional) _ => !optional
  | .node (.index optional) _ => !optional
  | _ => false

/-- An expression without the parentheses around it. -/
def bare : Nat → Tree → Tree
  | 0, t => t
  | n + 1, t =>
    match t with
    | .enclosed e => bare n e
    | t => t

/-- The target that takes a single value. -/
def simple? (t : Tree) : Option Tree :=
  let e := bare t.size t
  if isSimple e then some e else none

mutual

/-- The target that an expression is; `declares` says whether its names are declared. -/
def ofTree? (declares : Bool) : Tree → Option Tree
  | .node (.name n) parts =>
    if declares then some (.binding n) else some (.node (.name n) parts)
  | .node (.binding n) parts => some (.node (.binding n) parts)
  | .node (.assign none) parts =>
    match parts with
    | [target, value] => (ofTree? declares target).map fun target => .fallback target value
    | _ => none
  | .node .fallback parts =>
    match parts with
    | [target, value] => (ofTree? declares target).map fun target => .fallback target value
    | _ => none
  | .node .array parts => (ofElements? declares parts).map fun parts => .node .arrayTarget parts
  | .node .arrayTarget parts =>
    (ofElements? declares parts).map fun parts => .node .arrayTarget parts
  | .node .record parts => (ofEntries? declares parts).map fun parts => .node .recordTarget parts
  | .node .recordTarget parts =>
    (ofEntries? declares parts).map fun parts => .node .recordTarget parts
  | t => if declares then none else simple? t

/-- The targets of the elements of an array. Only the last one takes all that is left. -/
def ofElements? (declares : Bool) : List Tree → Option (List Tree)
  | [] => some []
  | .node .absent parts :: rest =>
    (ofElements? declares rest).map fun targets => .node .absent parts :: targets
  | .node .spread parts :: rest =>
    match parts, rest with
    | [e], [] => (ofTree? declares e).map fun target => [.rest target]
    | _, _ => none
  | .node .rest parts :: rest =>
    match parts, rest with
    | [e], [] => (ofTree? declares e).map fun target => [.rest target]
    | _, _ => none
  | t :: rest => do
    let target ← ofTree? declares t
    let targets ← ofElements? declares rest
    pure (target :: targets)

/-- The targets of the entries of an object. -/
def ofEntries? (declares : Bool) : List Tree → Option (List Tree)
  | [] => some []
  | .node .spread parts :: rest =>
    match parts, rest with
    | [e], [] => (ofTree? declares e).map fun target => [.rest target]
    | _, _ => none
  | .node .rest parts :: rest =>
    match parts, rest with
    | [e], [] => (ofTree? declares e).map fun target => [.rest target]
    | _, _ => none
  | .node (.entry .value shared key) parts :: rest => do
    let parts ← ofValue? declares parts
    let targets ← ofEntries? declares rest
    pure (.node (.entry .value shared key) parts :: targets)
  | _ :: _ => none

/-- An entry whose last part, its value, is a target. -/
def ofValue? (declares : Bool) : List Tree → Option (List Tree)
  | [] => none
  | [e] => (ofTree? declares e).map fun target => [target]
  | key :: rest => (ofValue? declares rest).map (key :: ·)

end

/-- Whether an entry has a value by default, which only a target may have. -/
def isUnfinished : Tree → Bool
  | .node .record entries =>
    entries.any fun entry =>
      match entry.parts.getLast? with
      | some (.node .fallback _) => true
      | _ => false
  | _ => false

end Target

/-- The readers that other readers call. -/
structure Grammar where
  /-- Expressions with commas between them. -/
  expression : Setting → Reader Tree
  /-- An expression without commas outside of brackets. -/
  assignment : Setting → Reader Tree
  /-- An operand with the operators after it, as far as they bind at least so strongly. -/
  operators : Setting → Nat → Reader Tree
  /-- An expression with the operators in front of it. -/
  operand : Setting → Reader Tree
  /-- What `new` makes: an expression and its members, without calls. -/
  maker : Setting → Reader Tree
  /-- A target of a declaration. -/
  target : Setting → Reader Tree
  /-- A statement; whether it stands in a list, where declarations may stand. -/
  statement : Setting → Bool → Reader Tree

namespace Grammar

/-- Readers that read nothing. -/
def empty : Grammar where
  expression _ := failure
  assignment _ := failure
  operators _ _ := failure
  operand _ := failure
  maker _ := failure
  target _ := failure
  statement _ _ := failure

end Grammar

namespace Reader

/-! ## Names of entries -/

/-- The name of an entry, and the expression that it is worked out from, if there is one. -/
def key (g : Grammar) (s : Setting) : Reader (Key × List Tree) := do
  match ← peek with
  | .name text _ => advance; pure (.name text, [])
  | .hidden text => advance; pure (.hidden text, [])
  | .quoted _ codes => advance; pure (.text codes, [])
  | .number (.number value) => advance; pure (.number value, [])
  | .number (.big value) => advance; pure (.text (codesOf (toString value)), [])
  | .mark "[" =>
    advance
    let e ← g.assignment { s with membership := true }
    need "]"
    pure (.computed, [e])
  | _ => failure

/-- Whether the next token is a word that says something about the entry after it, and not the
name of an entry itself. -/
def isModifier (text : String) : Reader Bool := do
  if ← isWord text then
    match ← peekSecond with
    | (.mark other, _) => pure (["[", "*"].contains other)
    | (.finish, _) => pure false
    | _ => pure true
  else pure false

/-! ## Targets of declarations -/

/-- A target with the value that it has by default, if there is one. -/
def element (g : Grammar) (s : Setting) : Reader Tree := do
  let target ← g.target s
  if ← mark "=" then
    let value ← g.assignment { s with membership := true }
    pure (.fallback target value)
  else pure target

/-- An element of an array that values are taken from; `stop` says that nothing may follow. -/
def arrayElement (g : Grammar) (s : Setting) : Reader Tree := do
  match ← peek with
  | .mark "," => pure .absent
  | .mark "..." =>
    advance
    let target ← g.target s
    if ← isMark "]" then pure (.rest target) else failure
  | _ => element g s

/-- An entry of an object that values are taken from. -/
def recordElement (g : Grammar) (s : Setting) : Reader Tree := do
  if ← mark "..." then
    let target ← g.target s
    if ← isMark "\x7d" then pure (.rest target) else failure
  else
    let token ← peek
    let (key, computed) ← key g s
    if ← mark ":" then
      let target ← element g s
      pure (.node (.entry .value false key) (computed ++ [target]))
    else
      match token, key with
      | .name text _, .name _ =>
        if !canName s text then failure
        let target := Tree.binding { text }
        if ← mark "=" then
          let value ← g.assignment { s with membership := true }
          pure (.node (.entry .value false key) [.fallback target value])
        else pure (.node (.entry .value false key) [target])
      | _, _ => failure

/-- A target of a declaration. -/
def target (g : Grammar) (s : Setting) : Reader Tree := do
  match ← peek with
  | .mark "[" =>
    advance
    pure (.node .arrayTarget (← listUntil "]" (arrayElement g s)))
  | .mark "\x7b" =>
    advance
    pure (.node .recordTarget (← listUntil "\x7d" (recordElement g s)))
  | _ => pure (.binding (← variableName s))

/-! ## Functions -/

/-- The parameters of a function, with the parentheses around them. -/
def parameters (g : Grammar) (s : Setting) : Reader Tree := do
  need "("
  let found ← listUntil ")" do
    if ← mark "..." then
      let target ← g.target s
      if ← isMark ")" then pure (.rest target) else failure
    else element g s
  pure (.parameters found)

/-- Statements up to a closing brace or the end, after the directives at their start. -/
def bodyOf (g : Grammar) (s : Setting) (inBraces : Bool) : Reader (List String × List Tree) := do
  let (directives, statements, _) ←
    run (fun (state : List String × List Tree × Bool) => do
      let (directives, statements, start) := state
      if (← peek) == .finish then if inBraces then failure else pure (.inr state)
      else if inBraces && (← mark "\x7d") then pure (.inr state)
      else
        let token ← peek
        let found ← g.statement s true
        match start, token, found with
        | true, .quoted source _, .evaluate (.text _) =>
          pure (.inl (source :: directives, statements, true))
        | _, _, found => pure (.inl (directives, found :: statements, false))) ([], [], true)
  pure (directives.reverse, statements.reverse)

/-- The body of a function in braces. -/
def body (g : Grammar) (s : Setting) : Reader Tree := do
  need "\x7b"
  let (directives, statements) ← bodyOf g s true
  pure (.body directives statements)

/-- What may stand in a function. -/
def inside (h : Header) : Setting :=
  { generates := h.generates, deferred := h.deferred, returns := true }

/-- The parameters and the body of a function. -/
def functionOf (g : Grammar) (h : Header) : Reader Tree := do
  let s := inside h
  let parameters ← parameters g s
  let body ← body g s
  pure (.function h parameters body)

/-- A function after its word; `named` says that it needs a name. -/
def function (g : Grammar) (s : Setting) (deferred named : Bool) : Reader Tree := do
  let generates ← mark "*"
  let own : Setting := if named then s else { s with generates, deferred }
  let name : Option Name ←
    if (← isMark "(") && !named then pure none else some <$> variableName own
  functionOf g { name, deferred, generates }

/-- What follows the arrow of a function. -/
def arrow (g : Grammar) (s : Setting) (deferred : Bool) (parameters : Tree) : Reader Tree := do
  need "=>"
  let h : Header := { arrow := true, deferred }
  if ← isMark "\x7b" then
    let body ← body g { (inside h) with generates := false }
    pure (.function h parameters body)
  else
    let e ← g.assignment { (inside h) with membership := s.membership, returns := s.returns }
    pure (.function { h with brief := true } parameters (.body [] [.evaluate e]))

/-- An entry that is a function: one that is called, or one that reads or writes a value. -/
def method (g : Grammar) (form : Form) (shared deferred generates : Bool) (key : Key)
    (computed : List Tree) : Reader Tree := do
  let f ← functionOf g { deferred, generates }
  let count := match f with
    | .function _ (.parameters ps) _ => ps.length
    | _ => 0
  if form = .getter ∧ count ≠ 0 then failure
  if form = .setter ∧ count ≠ 1 then failure
  pure (.node (.entry form shared key) (computed ++ [f]))

/-- Words in front of an entry: whether it waits, whether it gives values one by one, and whether
it reads or writes a value. -/
def modifiers : Reader (Bool × Bool × Form) := do
  if (← isModifier "async") && !(← peekSecond).2 then
    advance
    let generates ← mark "*"
    pure (true, generates, .method)
  else if ← mark "*" then pure (false, true, .method)
  else if ← isModifier "get" then
    if (← peekSecond).1 == .mark "*" then pure (false, false, .value)
    else
      advance
      pure (false, false, .getter)
  else if ← isModifier "set" then
    if (← peekSecond).1 == .mark "*" then pure (false, false, .value)
    else
      advance
      pure (false, false, .setter)
  else pure (false, false, .value)

/-! ## Objects and classes -/

/-- An entry of an object. A name alone is an entry of the variable of that name; with an equals
sign it can only be the target of an assignment. -/
def entry (g : Grammar) (s : Setting) : Reader Tree := do
  let s := { s with membership := true }
  if ← mark "..." then pure (.spread (← g.assignment s))
  else
    let (deferred, generates, form) ← modifiers
    let token ← peek
    let (key, computed) ← key g s
    if form ≠ .value then
      if (← isMark "(") then method g form false deferred generates key computed else failure
    else if ← isMark "(" then method g .method false false false key computed
    else if ← mark ":" then
      let value ← g.assignment s
      pure (.node (.entry .value false key) (computed ++ [value]))
    else
      match token, key with
      | .name text _, .name _ =>
        if !canName s text then failure
        let e := Tree.name { text }
        if ← mark "=" then
          let value ← g.assignment s
          pure (.node (.entry .value false key) [.fallback e value])
        else pure (.node (.entry .value false key) [e])
      | _, _ => failure

/-- An entry of a class, or the statements that are run once for it. -/
def classEntry (g : Grammar) (s : Setting) : Reader (Option Tree) := do
  if ← mark ";" then pure none
  else
    let second := (← peekSecond).1
    let shared := (← isWord "static") &&
      !(["(", "=", ";", "\x7d"].any fun text => second == .mark text)
    if shared then advance
    if shared && (← isMark "\x7b") then
      advance
      let statements ← blockUntil true (g.statement {} true)
      pure (some (.node .setup statements))
    else
      let (deferred, generates, form) ← modifiers
      let accessor ←
        if form == .value && (← isModifier "accessor") && !(← peekSecond).2 then
          advance
          pure true
        else pure false
      let (key, computed) ← key g s
      if form ≠ .value then
        if (← isMark "(") then some <$> method g form shared deferred generates key computed
        else failure
      else if ← isMark "(" then some <$> method g .method shared false false key computed
      else
        let value ← if ← mark "=" then g.assignment { s with membership := true } else pure .absent
        finishStatement
        pure (some (.node (.entry (if accessor then .accessor else .field) shared key)
          (computed ++ [value])))

/-- A class after its word; `extended` reads what it extends. -/
def classOf (g : Grammar) (s : Setting) (named : Bool) (extended : Reader Tree) : Reader Tree := do
  let name : Option Name ←
    match ← peek with
    | .name text _ =>
      if text == "extends" then pure none else some <$> variableName s
    | _ => pure none
  if named && name.isNone then failure
  let parent ← if ← word "extends" then extended else pure .absent
  need "\x7b"
  let entries ← blockUntil true (classEntry g s)
  pure (.node (.classOf name) (parent :: entries.filterMap id))

end Reader

end Pagefold.Script
