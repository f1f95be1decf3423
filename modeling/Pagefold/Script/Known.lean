import Pagefold.Script.Constant
import Pagefold.Script.Tree

/-!
# What is known about an expression

Without running a script much is known about its expressions: the kind of the value, sometimes the
value itself, and whether the evaluation can have an effect beside the value. All of it is worked
out from the same facts about the parts of an expression.
-/
namespace Pagefold.Script

open Number

/-- The kinds of values. -/
inductive ValueKind where
  | unknown
  | undefined
  | null
  | truth
  | number
  | big
  | text
  | object
  deriving DecidableEq, Repr

namespace ValueKind

/-- Whether a kind is known not to be an object. -/
def isPlain (kind : ValueKind) : Bool := kind != .unknown && kind != .object

end ValueKind

/-- What is known about an expression. -/
structure Known where
  kind : ValueKind := .unknown
  /-- The value, whatever effects its evaluation has. -/
  value : Option Constant := none
  /-- Whether the value counts as true. -/
  truth : Option Bool := none
  /-- The text that the value counts as. -/
  text : Option Codes := none
  /-- The number that the value counts as. -/
  number : Option Double := none
  /-- Whether the evaluation may have an effect. -/
  effects : Bool := true
  /-- Whether it is a literal, perhaps one of literals. -/
  literal : Bool := false

namespace Known

/-- The kind of a constant. -/
def kindOf : Constant → ValueKind
  | .undefined => .undefined
  | .null => .null
  | .truth _ => .truth
  | .number _ => .number
  | .text _ => .text

/-- What is known about a constant. -/
def ofConstant (x : Constant) (effects literal : Bool) : Known :=
  { kind := kindOf x, value := some x, truth := some x.toTruth, text := some x.toCodes,
    number := some x.toNumber, effects, literal }

/-- What is known about an object. -/
def ofObject (effects : Bool) : Known := { kind := .object, truth := some true, effects }

/-- What is known about a value of a kind. -/
def ofKind (kind : ValueKind) (effects : Bool) : Known := { kind, effects }

/-- Whether one of some expressions may have an effect. -/
def anyEffects (ks : List Known) : Bool := ks.any (·.effects)

/-! ## Names -/

/-- The names of values that every script has. -/
def constantNamed? (text : String) : Option Constant :=
  if text = "undefined" then some .undefined
  else if text = "NaN" then some (.number .undefined)
  else if text = "Infinity" then some (.number (.infinite false))
  else none

/-- What is known about a name. A name of the surroundings may be missing there. -/
def ofName (n : Name) : Known :=
  match n.symbol with
  | some _ => { effects := false }
  | none =>
    match constantNamed? n.text with
    | some x => ofConstant x false true
    | none => {}

/-- Functions of the surroundings whose call has no effect. -/
def harmlessFunctions : List String :=
  ["decodeURI", "decodeURIComponent", "encodeURI", "encodeURIComponent", "escape", "isFinite",
   "isNaN", "parseFloat", "parseInt", "Date", "Boolean", "Error", "EvalError", "RangeError",
   "ReferenceError", "SyntaxError", "TypeError", "URIError", "Number", "Object", "String", "Symbol"]

/-- Functions of the surroundings that make objects without an effect. -/
def harmlessMakers : List String :=
  ["Set", "Map", "WeakSet", "WeakMap", "ArrayBuffer", "Date", "Boolean", "Error", "EvalError",
   "RangeError", "ReferenceError", "SyntaxError", "TypeError", "URIError", "Number", "Object",
   "String", "Symbol"]

/-- Whether an expression is a name of the surroundings from a list. -/
def isNamedIn (names : List String) : Tree → Bool
  | .name ⟨text, none⟩ => names.contains text
  | _ => false

/-! ## Operators in front -/

/-- What is known about the number of an expression with a sign in front. -/
def numeric (e : Known) (f : Double → Double) : Known :=
  match e.number, e.kind with
  | some x, kind =>
    if kind == .big then { kind := .big, effects := e.effects }
    else ofConstant (.number (f x)) e.effects (e.literal && kind == .number)
  | none, .big => { kind := .big, effects := e.effects }
  | none, .unknown => {}
  | none, .object => {}
  | none, _ => { kind := .number, effects := e.effects }

/-- The number with all binary digits of its word turned around. -/
def complement (x : Double) : Double :=
  Double.ofInt (Double.signed (Double.wordCount - 1 - x.word))

/-- The word for the kind of a value, where it is known. -/
def kindWord? (e : Tree) (k : Known) : Option String :=
  match k.value with
  | some x => some x.kindWord
  | none =>
    match e.kind with
    | .function _ => some "function"
    | .classOf _ => some "function"
    | .array => some "object"
    | .record => some "object"
    | .regular _ _ => some "object"
    | _ => if k.kind == .big then some "bigint" else none

/-- What is known about an expression with an operator in front. -/
def ofUnary (operator : Unary) (e : Tree) (k : Known) : Known :=
  match operator with
  | .not =>
    match k.truth with
    | some value => ofConstant (.truth !value) k.effects k.literal
    | none => { kind := .truth, effects := k.effects }
  | .void => ofConstant .undefined k.effects k.literal
  | .kind =>
    let effects := match e with
      | .name _ => false
      | _ => k.effects
    match kindWord? e k with
    | some word => ofConstant (.text (codesOf word)) effects k.literal
    | none => { kind := .text, truth := some true, effects }
  | .minus => numeric k Double.neg
  | .plus => if k.kind == .big then {} else numeric k id
  | .complement => numeric k complement
  | .delete => { kind := .truth }

/-! ## Operators between -/

/-- The value of an operator between two constants, where it can be worked out exactly. -/
def combined? (operator : Binary) (a b : Constant) : Option Constant :=
  let x := a.toNumber
  let y := b.toNumber
  let ofWord (n : Nat) : Constant := .number (Double.ofInt (Double.signed (n % Double.wordCount)))
  let count := y.word % 32
  match operator with
  | .same => some (.truth (a.identical b))
  | .different => some (.truth !(a.identical b))
  | .equal => some (.truth (a.alike b))
  | .unequal => some (.truth !(a.alike b))
  | .less => some (.truth (a.below b))
  | .greater => some (.truth (b.below a))
  | .atMost => some (.truth (a.comparable b && !b.below a))
  | .atLeast => some (.truth (a.comparable b && !a.below b))
  | .minus => some (.number (x.sub y))
  | .times => some (.number (x.mul y))
  | .divide => some (.number (x.div y))
  | .remainder => some (.number (x.rem y))
  | .bitOr => some (ofWord (x.word ||| y.word))
  | .bitAnd => some (ofWord (x.word &&& y.word))
  | .bitXor => some (ofWord (x.word ^^^ y.word))
  | .shiftLeft => some (ofWord (x.word * Nat.pow 2 count))
  | .shiftRight => some (.number (Double.ofInt (Double.signed x.word / (Nat.pow 2 count : Int))))
  | .shiftZero => some (.number (Double.ofNat (x.word / Nat.pow 2 count)))
  | .power =>
    if y.isZero then some (.number (Double.ofNat 1))
    else if y == .undefined then some (.number .undefined)
    else if x == .undefined then some (.number .undefined)
    else none
  | _ => none

/-- What is known about a sum. A text makes it a text; objects count as texts. -/
def ofSum (a b : Known) : Known :=
  let effects := a.effects || b.effects
  let isText := a.kind == .text || b.kind == .text
  let hasObject := a.kind == .object || b.kind == .object
  if isText || hasObject then
    match a.text, b.text with
    | some s, some t => ofConstant (.text (Codes.paired (s ++ t))) effects false
    | _, _ =>
      if isText then
        let safe := a.kind.isPlain && b.kind.isPlain
        { kind := .text, effects := effects || !safe }
      else {}
  else if a.kind == .unknown || b.kind == .unknown then {}
  else if a.kind == .big || b.kind == .big then
    if a.kind == b.kind then { kind := .big, effects } else {}
  else match a.number, b.number with
    | some x, some y => ofConstant (.number (x.add y)) effects false
    | _, _ => { kind := .number, effects }

/-- What is known about an expression with an operator between two. -/
def ofBinary (operator : Binary) (a b : Known) : Known :=
  let effects := a.effects || b.effects
  let value : Option Constant :=
    match a.value, b.value with
    | some x, some y => combined? operator x y
    | _, _ => none
  match operator with
  | .plus => ofSum a b
  | .and =>
    let truth : Option Bool :=
      match a.truth, b.truth with
      | some true, some true => some true
      | some false, _ => some false
      | _, some false => some false
      | _, _ => none
    { kind := if a.kind == b.kind then a.kind else .unknown, truth, effects,
      value := match a.truth with
        | some true => b.value
        | some false => a.value
        | none => none }
  | .or =>
    let truth : Option Bool :=
      match a.truth, b.truth with
      | some false, some false => some false
      | some true, _ => some true
      | _, some true => some true
      | _, _ => none
    { kind := if a.kind == b.kind then a.kind else .unknown, truth, effects,
      value := match a.truth with
        | some true => a.value
        | some false => b.value
        | none => none }
  | .coalesce =>
    if a.kind == .undefined || a.kind == .null then { b with effects, literal := false }
    else if a.kind != .unknown then { a with effects, literal := false }
    else { effects }
  | .same | .different | .equal | .unequal | .less | .greater | .atMost | .atLeast =>
    match value with
    | some x => ofConstant x effects false
    | none =>
      let strict := operator == .same || operator == .different
      let apart := a.kind != .unknown && b.kind != .unknown && a.kind != b.kind
      if strict && apart then ofConstant (.truth (operator == .different)) effects false
      else { kind := .truth, effects }
  | .instanceOf => { kind := .truth }
  | .within => { kind := .truth }
  | _ =>
    match a.number, b.number with
    | some x, some y =>
      if a.kind == .big || b.kind == .big then { kind := .big }
      else match combined? operator (.number x) (.number y) with
        | some z => ofConstant z effects false
        | none => { kind := .number, effects }
    | _, _ =>
      let plain := a.kind.isPlain && b.kind.isPlain && a.kind != .big && b.kind != .big
      if operator == .shiftZero then { kind := .number, effects := effects || !plain }
      else if a.kind == .big || b.kind == .big then { kind := .big }
      else if plain then { kind := .number, effects }
      else if a.kind.isPlain || b.kind.isPlain then { kind := .number }
      else {}

/-! ## Arrays, objects and classes -/

/-- Whether an element that stands for the parts of a value has no effect. -/
def isHarmlessSpread : Tree → Known → Bool
  | .spread (.array _), k => !k.effects
  | .spread (.text _), _ => true
  | _, _ => false

/-- The text of an array, if that of each element is known. -/
def arrayText? (parts : List Tree) (ks : List Known) : Option Codes := do
  let texts ← (parts.zip ks).mapM fun (t, k) =>
    match t with
    | .node .absent _ => some []
    | .node .spread _ => none
    | _ => if k.kind == .undefined || k.kind == .null then some [] else k.text
  pure ([','.toNat].intercalate texts)

/-- What is known about an array. -/
def ofArray (parts : List Tree) (ks : List Known) : Known :=
  let effects := (parts.zip ks).any fun (t, k) =>
    match t with
    | .node .spread _ => !isHarmlessSpread t k
    | _ => k.effects
  let literal := (parts.zip ks).all fun (t, k) =>
    match t with
    | .node .absent _ => true
    | .node .spread _ => false
    | _ => k.literal
  let text := arrayText? parts ks
  { ofObject effects with text, number := text.map numberOf, literal }

/-- Keys that say how an object counts as a text. -/
def conversionKeys : List String := ["toString", "valueOf", "__proto__"]

/-- Whether an entry keeps the usual text of an object. -/
def isOrdinaryEntry : Tree → Bool
  | .node (.entry _ _ (.name text)) _ => !conversionKeys.contains text
  | .node (.entry _ _ (.number _)) _ => true
  | .node (.entry _ _ (.text codes)) _ => !conversionKeys.any fun key => codesOf key == codes
  | _ => false

/-- What is known about an object. -/
def ofRecord (parts : List Tree) (ks : List Known) : Known :=
  let effects := anyEffects ks
  let isOrdinary := parts.all isOrdinaryEntry
  { ofObject effects with
    text := if isOrdinary then some (codesOf "[object Object]") else none
    number := if isOrdinary then some .undefined else none
    literal := (parts.zip ks).all fun (t, k) =>
      match t with
      | .node .spread _ => false
      | _ => k.literal }

/-- What is known about an entry of an object or of a class: about its computed key and its
value together. -/
def ofEntry (form : Form) (shared : Bool) (key : Key) (ks : List Known) : Known :=
  let keyEffects := match key, ks with
    | .computed, k :: _ => k.effects || !k.kind.isPlain
    | _, _ => false
  let last := ks.getLast?.getD {}
  let effects := match form with
    | .value => last.effects
    | .field => shared && last.effects
    | .accessor => shared && last.effects
    | _ => false
  { effects := keyEffects || effects,
    literal := form == .value && key != .computed && last.literal }

/-! ## Members -/

/-- What is known about a member of a value. -/
def ofMember (property : String) (e : Tree) (k : Known) : Known :=
  if property = "length" then
    match k.value, e with
    | some (.text codes), _ =>
      ofConstant (.number (Double.ofNat (Codes.length codes))) k.effects false
    | _, .array parts =>
      if parts.any fun part => part.kind == .spread then { effects := k.effects }
      else ofConstant (.number (Double.ofNat parts.length)) k.effects false
    | _, _ => if k.kind == .text then { kind := .number, effects := k.effects } else {}
  else {}

/-- The whole number that a key is, if it is the place of an element. -/
def place? (k : Known) : Option Nat :=
  match k.value with
  | some (.number x) => x.natural?
  | _ => none

/-- The text of one unit of a text. -/
def unitAt? (codes : Codes) (n : Nat) : Option Codes :=
  ((Codes.units codes)[n]?).map fun unit => [unit]

/-- What is known about an element of a value. -/
def ofIndex (e : Tree) (a b : Known) : Known :=
  match a.value, place? b with
  | some (.text codes), some n =>
    match unitAt? codes n with
    | some unit => ofConstant (.text unit) (a.effects || b.effects) false
    | none => {}
  | _, some n =>
    match e with
    | .array parts =>
      if n < parts.length && !(parts.any fun part => part.kind == .spread) then
        { effects := a.effects || b.effects }
      else {}
    | _ => {}
  | _, _ => {}

/-! ## All expressions -/

/-- The meaning of a piece of text between grave accents. -/
def pieceCodes (piece : String) : Codes :=
  match Quote.grave.read? (piece.toList ++ [Quote.grave.char]) with
  | some (codes, _) => codes
  | none => []

/-- A text between grave accents as one text, if that of each part is known. -/
def templateText? : List String → List Known → Option Codes
  | [piece], [] => some (pieceCodes piece)
  | piece :: pieces, k :: ks => do
    let text ← if k.kind.isPlain then k.text else none
    pure (Codes.paired (pieceCodes piece ++ text ++ (← templateText? pieces ks)))
  | _, _ => none

/-- What is known about an expression by its kind and what is known about its parts. -/
def ofParts (kind : Kind) (parts : List Tree) (ks : List Known) : Known :=
  match kind, parts, ks with
  | .name n, _, _ => ofName n
  | .number x, _, _ => ofConstant (.number x) false true
  | .text codes, _, _ => ofConstant (.text codes) false true
  | .truth value, _, _ => ofConstant (.truth value) false true
  | .null, _, _ => ofConstant .null false true
  | .big digits, _, _ =>
    { kind := .big, truth := some (digits != "0"), text := some (codesOf digits), effects := false,
      literal := true }
  | .regular _ _, _, _ => { ofObject false with literal := true }
  | .this, _, _ => { effects := false }
  | .parent, _, _ => { effects := false }
  | .newTarget, _, _ => { effects := false }
  | .absent, _, _ => { effects := false }
  | .template pieces, _, _ =>
    match templateText? pieces ks with
    | some codes => ofConstant (.text codes) (anyEffects ks) parts.isEmpty
    | none =>
      let truth := if pieces.any (· != "") then some true else none
      { kind := .text, truth, effects := ks.any fun k => k.effects || !k.kind.isPlain }
  | .array, _, _ => ofArray parts ks
  | .record, _, _ => ofRecord parts ks
  | .entry form shared key, _, _ => ofEntry form shared key ks
  | .spread, [.array _], [k] => { effects := k.effects }
  | .spread, [.record _], [k] => { effects := k.effects }
  | .classOf _, .absent :: _, _ :: ks => ofObject (anyEffects ks)
  | .classOf _, _, _ => ofObject true
  | .setup, _, _ => { effects := !parts.isEmpty }
  | .unary operator, [e], [k] => ofUnary operator e k
  | .binary operator, _, [a, b] => ofBinary operator a b
  | .choice, _, [c, a, b] =>
    { kind := if a.kind == b.kind then a.kind else .unknown,
      truth := if a.truth == b.truth then a.truth else none,
      effects := c.effects || a.effects || b.effects }
  | .sequence, _, _ =>
    let last := ks.getLast?.getD {}
    { last with effects := anyEffects ks, literal := false }
  | .assign none, _, [_, k] => { k with effects := true, literal := false }
  | .assign (some .plus), _, [_, k] => { kind := if k.kind == .text then .text else .unknown }
  | .member property false, [e], [k] => ofMember property e k
  | .index false, [e, _], [a, b] => ofIndex e a b
  | .chain, _, [k] => { k with literal := false }
  | .call false, callee :: _, _ :: ks =>
    { effects := !isNamedIn harmlessFunctions callee || anyEffects ks }
  | .create, callee :: _, _ :: ks =>
    ofObject (!isNamedIn harmlessMakers callee || anyEffects ks)
  | .fetch, _, _ => {}
  | _, _, _ => {}

end Known

namespace Tree

mutual

/-- What is known about an expression. -/
def known : Tree → Known
  | .node kind parts =>
    if isBarrier kind then Known.ofObject false
    else Known.ofParts kind parts (knownAll parts)

/-- What is known about each of some expressions. -/
def knownAll : List Tree → List Known
  | [] => []
  | t :: ts => t.known :: knownAll ts

end

/-- Whether the evaluation of an expression may have an effect. -/
def hasEffects (t : Tree) : Bool := t.known.effects

/-- Whether the value of an expression counts as true, where that is known. -/
def truth? (t : Tree) : Option Bool := t.known.truth

/-- Whether the value of an expression counts as true, where that is known and nothing is lost
without the evaluation. -/
def idleTruth? (t : Tree) : Option Bool :=
  let k := t.known
  if k.effects then none else k.truth

/-- Whether an expression is a literal, perhaps a function. -/
def isLiteral (functions : Bool) (t : Tree) : Bool :=
  (functions && isBarrier t.kind) || t.known.literal

/-- The expression that writes a constant. -/
def ofConstant (x : Constant) : Tree :=
  match x with
  | .undefined => .undefined
  | .null => .null
  | .truth value => .truth value
  | .number value => .number value
  | .text codes => .text codes

end Tree

end Pagefold.Script
