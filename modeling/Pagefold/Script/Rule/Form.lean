import Pagefold.Script.Lexeme
import Pagefold.Script.Rule.Method

/-!
# Shorter forms

Two forms of one meaning differ in length. Each rule here gives the shorter form of an expression
if it has one.
-/
namespace Pagefold.Script

open Number

namespace Rule

/-! ## Comparisons -/

/-- Whether an expression is a literal without parts. -/
def isPlainLiteral (e : Tree) : Bool :=
  match e.kind with
  | .number _ | .text _ | .truth _ | .null | .big _ | .regular _ _ => true
  | .template _ => e.parts.isEmpty
  | _ => isUndefined e

/-- A comparison with the literal on its right side. -/
def swapped? (operator : Binary) (left right : Tree) : Option Tree :=
  if operator.isEquality && isPlainLiteral left && !isPlainLiteral right then
    some (.binary operator right left)
  else none

/-- A comparison of the kinds of one name with itself. -/
def sameKind? (operator : Binary) (left right : Tree) : Option Tree :=
  match left, right with
  | .unary .kind (.name n), .unary .kind (.name m) =>
    if operator.isEquality ∧ n = m then
      some (.truth (operator == .same || operator == .equal))
    else none
  | _, _ => none

/-- A comparison of two values of one known kind, or of two truth values of which one is known. -/
def equality? (operator : Binary) (left right : Tree) : Option Tree :=
  let a := left.known
  let b := right.known
  if !operator.isEquality || a.kind == .unknown || b.kind == .unknown then none
  else
    let equal := operator == .same || operator == .equal
    match a.kind, b.kind, b.value with
    | .truth, .truth, some (.truth value) =>
      if b.effects then none
      else some (if value == equal then left else negated depth left)
    | x, y, _ =>
      if x == y && operator.loose != operator then some (.binary operator.loose left right) else none

/-- A comparison with the undefined value in the form of one with null, and one of a kind with
the undefined kind in the form of an order. -/
def absence (operator : Binary) (left right : Tree) : Option Tree :=
  let isWord : Bool := right.same (.text (codesOf "undefined"))
  let isKind : Bool :=
    match left with
    | .unary .kind _ => true
    | _ => false
  match operator with
  | .equal =>
    if isUndefined right then some (.binary .equal left .null)
    else if isKind && isWord then some (.binary .greater left (.text (codesOf "u")))
    else none
  | .unequal =>
    if isUndefined right then some (.binary .unequal left .null)
    else if isKind && isWord then some (.binary .less left (.text (codesOf "u")))
    else none
  | _ => none

/-- Operators put together from the left. -/
def rotated? (operator : Binary) (left right : Tree) : Option Tree :=
  match right with
  | .binary inner first second =>
    if inner = operator ∧ (operator.isBitwise ∨ operator.isLogical) then
      some (.binary operator (.binary operator left first) second)
    else none
  | _ => none

/-- A truth value on the right side of an operator that takes numbers. -/
def numberForTruth? (operator : Binary) (left right : Tree) : Option Tree :=
  match operator, right with
  | .plus, _ => none
  | .instanceOf, _ => none
  | .within, _ => none
  | .same, _ => none
  | .different, _ => none
  | operator, .truth value =>
    if operator.isLogical then none
    else some (.binary operator left (.number (Double.ofNat (if value then 1 else 0))))
  | _, _ => none

/-- Whether an operator makes numbers of its sides. -/
def makesNumbers : Binary → Bool
  | .minus | .times | .divide | .remainder | .power | .bitAnd | .bitOr | .bitXor | .shiftLeft
  | .shiftRight | .shiftZero => true
  | _ => false

/-- An operator on numbers without a plus sign in front of a side. -/
def withoutPlus? (operator : Binary) (left right : Tree) : Option Tree :=
  if !makesNumbers operator then none
  else match left, right with
    | .unary .plus e, right =>
      if right.known.kind == .number then some (.binary operator e right) else none
    | left, .unary .plus e =>
      if left.known.kind == .number then some (.binary operator left e) else none
    | _, _ => none

/-- The test that a value is an object and not null. -/
def objectTest? (operator : Binary) (left right : Tree) : Option Tree :=
  let isObjectWord (e : Tree) : Bool := e.same (.text (codesOf "object"))
  match operator, left, right with
  | .and, .binary kindTest (.unary .kind (.name n)) word, .binary .different e .null =>
    if (kindTest == .equal || kindTest == .same) && isObjectWord word && e.same (.name n) then
      some (.binary .and left (.unary .not (.unary .not e)))
    else none
  | .or, .binary kindTest (.unary .kind (.name n)) word, .binary .same e .null =>
    if (kindTest == .unequal || kindTest == .different) && isObjectWord word && e.same (.name n) then
      some (.binary .or left (.unary .not e))
    else none
  | _, _, _ => none

/-! ## Assignments -/

/-- An assignment that replaces a value by one made from it. -/
def assignment? (operator : Option Binary) (target value : Tree) : Option Tree :=
  match operator, target, value with
  | none, target, .binary inner left right =>
    if inner.isLogical then
      match target, left with
      | .name n, .name m =>
        if n = m ∧ n.symbol.isSome then some (.assign (some inner) target right) else none
      | _, _ => none
    else if Binary.assigning.contains inner && isSamePlace target left then
      some (.assign (some inner) target right)
    else none
  | some .minus, target, .number x =>
    if x.natural? = some 1 then some (.node (.update false true) [target])
    else if x.neg.natural? = some 1 then some (.node (.update true true) [target])
    else none
  | _, _, _ => none

/-! ## Names of entries -/

/-- The natural number that a text is the decimal text of. -/
def wholeText? (text : String) : Option Nat :=
  text.toNat?.bind fun n => if toString n = text ∧ n < 4294967296 then some n else none

/-- The name of an entry without marks where they are not needed. -/
def shortKey (key : Key) : Key :=
  match key with
  | .text codes =>
    match textOf? codes with
    | none => key
    | some text =>
      if Lexeme.isNameText text.toList then .name text
      else match wholeText? text with
        | some n => .number (Double.ofNat n)
        | none => key
  | key => key

/-- An entry of an object or a class with a shorter name. A name that would mean something else
stays worked out. -/
def entryShape? (inClass : Bool) (e : Tree) : Option Tree :=
  match e with
  | .node (.entry form shared .computed) (.text codes :: parts) =>
    let reserved := if inClass then [codesOf "constructor", codesOf "prototype"] else [codesOf "__proto__"]
    if reserved.contains codes then none
    else some (.node (.entry form shared (shortKey (.text codes))) parts)
  | .node (.entry form shared .computed) (.number x :: parts) =>
    if x.isNegative then none else some (.node (.entry form shared (.number x)) parts)
  | .node (.entry form shared (.text codes)) parts =>
    if inClass && codes == codesOf "constructor" then none
    else if shortKey (.text codes) == .text codes then none
    else some (.node (.entry form shared (shortKey (.text codes))) parts)
  | _ => none

/-- A member of an object by a name or a number where its key is a text. -/
def dotted? (optional : Bool) (object key : Tree) : Option Tree :=
  match key with
  | .text codes =>
    match textOf? codes with
    | none => none
    | some text =>
      if Lexeme.isNameText text.toList then some (.node (.member text optional) [object])
      else (wholeText? text).map fun n =>
        .node (.index optional) [object, .number (Double.ofNat n)]
  | _ => none

/-! ## Arrays and texts -/

/-- Elements or arguments in which arrays of known length stand for their elements. -/
def unspread (parts : List Tree) : List Tree :=
  parts.flatMap fun t =>
    match t with
    | .spread (.array inner) =>
      if inner.any (·.kind == .absent) then [t] else inner
    | t => [t]

/-- Entries in which objects stand for their entries. -/
def unspreadEntries (parts : List Tree) : List Tree :=
  parts.flatMap fun t =>
    match t with
    | .spread (.record inner) =>
      let isPlain (e : Tree) : Bool :=
        match e with
        | .node (.entry .value _ (.name name)) _ => name != "__proto__"
        | .node (.entry .value _ (.text codes)) _ => codes != codesOf "__proto__"
        | .node (.entry .value _ _) _ => true
        | .node .spread _ => true
        | _ => false
      if inner.all isPlain then inner else [t]
    | .spread e => if e.known.kind.isPlain && e.known.kind != .text && !e.hasEffects then [] else [t]
    | t => [t]

/-- A mark that none of some texts has, to put between them. -/
def divider? (texts : List Codes) : Option Codes :=
  if texts.all fun text => text.length == 1 then some []
  else
    ([['.'], [','], ['('], [')'], [' ']].map fun cs => cs.map Char.toNat).find? fun mark =>
      texts.all fun text => (Codes.indexFrom? mark 0 text).isNone

/-- A long array of texts as one text that is split. -/
def splitText? (parts : List Tree) : Option Tree := do
  if parts.length < 40 then none
  let texts ← parts.mapM fun e =>
    match e with
    | .text codes => some codes
    | _ => none
  let mark ← divider? texts
  pure (.call (.member (.text (mark.intercalate texts)) "split") [.text mark])

/-- A text between grave accents with the parts that are known written out. -/
def template? (pieces : List String) (parts : List Tree) : Option Tree :=
  match (Known.templateText? pieces (Tree.knownAll parts)) with
  | some codes => if parts.any (·.hasEffects) then none else some (.text codes)
  | none =>
    let join (first second : String) (k : Known) : Option String :=
      if k.effects || !k.kind.isPlain then none
      else k.text.map fun codes => first ++ String.ofList (Quote.grave.content codes) ++ second
    let rec go : List String → List Tree → List String × List Tree
      | piece :: next :: rest, e :: parts =>
        match join piece next e.known with
        | some piece =>
          -- The joined piece is looked at again together with the next part.
          let (pieces, left) := go (next :: rest) parts
          match pieces with
          | _ :: others =>
            let tail := (pieces.head?.getD "").drop next.length
            ((piece ++ tail) :: others, left)
          | [] => ([piece], left)
        | none =>
          let (pieces, left) := go (next :: rest) parts
          (piece :: pieces, e :: left)
      | pieces, parts => (pieces, parts)
    let (pieces', parts') := go pieces parts
    if parts'.length = parts.length then none else some (.node (.template pieces') parts')

/-! ## Functions that make objects -/

/-- Functions that make the same object with `new` and without it. -/
def makers : List String :=
  ["Error", "EvalError", "RangeError", "ReferenceError", "SyntaxError", "TypeError", "URIError",
   "AggregateError", "Function"]

/-- Arrays of numbers of a fixed size. -/
def typedArrays : List String :=
  ["Int8Array", "Uint8Array", "Uint8ClampedArray", "Int16Array", "Uint16Array", "Int32Array",
   "Uint32Array", "Float32Array", "Float64Array", "BigInt64Array", "BigUint64Array"]

/-- An object or an array that a function of that name makes. -/
def literalOf? (isNew : Bool) (name : String) (arguments : List Tree) : Option Tree :=
  match name, arguments with
  | "Object", [] => some (.record [])
  | "Array", [] => some (.array [])
  | "Array", [e] =>
    let k := e.known
    match e, k.value with
    | .spread _, _ => none
    | .number x, _ =>
      match x.natural? with
      | some n =>
        if n ≤ 6 then some (.array (List.replicate n .absent))
        else if isNew then some (.call (.name ⟨"Array", none⟩) arguments) else none
      | none => if isNew then some (.call (.name ⟨"Array", none⟩) arguments) else none
    | e, _ =>
      if k.kind == .unknown || k.kind == .number then
        if isNew then some (.call (.name ⟨"Array", none⟩) arguments) else none
      else some (.array [e])
  | "Array", arguments =>
    if arguments.any isSpread then
      if isNew then some (.call (.name ⟨"Array", none⟩) arguments) else none
    else some (.array arguments)
  | _, _ => none

/-- A call with `new` in a shorter form. -/
def created? (callee : Tree) (arguments : List Tree) : Option Tree :=
  match callee with
  | .name ⟨name, none⟩ =>
    if typedArrays.contains name then
      match arguments with
      | [.number x] => if x.natural? = some 0 then some (.create callee []) else none
      | _ => none
    else if makers.contains name then some (.call callee arguments)
    else if name = "RegExp" then
      match arguments with
      | [] => some (.call callee [])
      | e :: _ =>
        let kind := e.known.kind
        if kind == .unknown || kind == .object then none
        else some (.call callee arguments)
    else literalOf? true name arguments
  | _ => none

end Rule

end Pagefold.Script
