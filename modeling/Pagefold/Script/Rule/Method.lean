import Pagefold.Script.Rule.Fold

/-!
# Calls with a known value

Calls of functions and methods that every script has are worked out where their arguments are
known.
-/
namespace Pagefold.Script

open Number

namespace Rule

/-! ## Reading numbers from texts -/

/-- The value of a digit of up to 36. -/
def digitOf36 (code : Nat) : Nat :=
  if 0x30 ≤ code ∧ code ≤ 0x39 then code - 0x30
  else if 0x61 ≤ code ∧ code ≤ 0x7A then code - 0x61 + 10
  else if 0x41 ≤ code ∧ code ≤ 0x5A then code - 0x41 + 10
  else 36

/-- The whole number at the start of a text, in a base; without digits it is no number. -/
def wholeAtStart (codes : Codes) (base : Option Nat) : Double :=
  let s := Codes.trimStart codes
  let negative := s.head? == some '-'.toNat
  let s := if negative ∨ s.head? = some '+'.toNat then s.drop 1 else s
  let isHex := s.head? == some '0'.toNat &&
    (s[1]? == some 'x'.toNat || s[1]? == some 'X'.toNat)
  let (base, s) :=
    match base with
    | some 16 => (16, if isHex then s.drop 2 else s)
    | some base => (base, s)
    | none => if isHex then (16, s.drop 2) else (10, s)
  let digits := s.takeWhile fun code => digitOf36 code < base
  if digits.isEmpty then .undefined
  else
    Double.ofScaled negative (digits.foldl (fun n code => base * n + digitOf36 code) 0) 0

/-- The longest text at the start of a text that writes a number, as that number. -/
def numberAtStart (codes : Codes) : Double :=
  let s := (Codes.trimStart codes).map Char.ofNat
  let (negative, s) := match s with
    | '-' :: r => (true, r)
    | '+' :: r => (false, r)
    | s => (false, s)
  if "Infinity".toList.isPrefixOf s then .infinite negative
  else
    let whole := s.takeWhile Char.isDigit
    let rest := s.dropWhile Char.isDigit
    let (part, rest) := match rest with
      | '.' :: r => (r.takeWhile Char.isDigit, r.dropWhile Char.isDigit)
      | rest => ([], rest)
    if whole.isEmpty ∧ part.isEmpty then .undefined
    else
      let power : Int := match rest with
        | e :: r =>
          if e = 'e' ∨ e = 'E' then
            match r with
            | '-' :: r => -(Numeral.valueOf 10 (r.takeWhile Char.isDigit) : Int)
            | '+' :: r => Numeral.valueOf 10 (r.takeWhile Char.isDigit)
            | r => Numeral.valueOf 10 (r.takeWhile Char.isDigit)
          else 0
        | [] => 0
      Double.ofScaled negative (Numeral.valueOf 10 (whole ++ part)) (power - part.length)

/-- The whole number that an argument is, which is zero where there is none. -/
def wholeArgument? (k : Option Known) (absent : Int) : Option Int :=
  match k with
  | none => some absent
  | some k =>
    match k.value with
    | some x => x.toNumber.truncated?.orElse fun _ =>
      if x.toNumber == .undefined then some 0 else none
    | none => none

/-! ## Functions -/

/-- The value of a call of a function, by what is known about its arguments. -/
def functionValue? (name : String) (ks : List Known) : Option Constant :=
  let number? : Option Double := (ks.head?.bind (·.value)).map Constant.toNumber
  let text? : Option Codes := (ks.head?.bind (·.value)).map Constant.toCodes
  match name with
  | "isNaN" => number?.map fun x => .truth (x == .undefined)
  | "isFinite" => number?.map fun x => .truth x.isFinite
  | "parseInt" => do
    let text ← text?
    let base ← wholeArgument? ks[1]? 0
    if base = 0 then pure (.number (wholeAtStart text none))
    else if base < 2 ∨ 36 < base then pure (.number .undefined)
    else pure (.number (wholeAtStart text (some base.natAbs)))
  | "parseFloat" => text?.map fun text => .number (numberAtStart text)
  | _ => none

/-! ## Methods of texts -/

/-- A text without letters beyond ASCII, in another case. -/
def recased? (codes : Codes) (f : Char → Char) : Option Constant :=
  if codes.all (· < 0x80) then some (.text (codes.map fun code => (f (Char.ofNat code)).toNat))
  else none

/-- The last place up to `bound` where some units stand in others. -/
def lastIndex? (wanted units : List Nat) : Nat → Option Nat
  | 0 => if wanted.isPrefixOf units then some 0 else none
  | bound + 1 =>
    if wanted.isPrefixOf (units.drop (bound + 1)) then some (bound + 1)
    else lastIndex? wanted units bound

/-- A place in a text, or minus one. -/
def place (found : Option Nat) : Constant :=
  match found with
  | some n => .number (Double.ofNat n)
  | none => .number (Double.ofInt (-1))

/-- Units in which the first place, or each, of some of them is replaced. The bound is their
number. -/
def replaced (wanted by_ : List Nat) (all : Bool) : Nat → List Nat → List Nat
  | 0, units => units
  | _, [] => []
  | n + 1, x :: rest =>
    if wanted.isPrefixOf (x :: rest) then
      let after := (x :: rest).drop wanted.length
      by_ ++ (if all then replaced wanted by_ all n after else after)
    else x :: replaced wanted by_ all n rest

/-- The value of a call of a method of a text. -/
def textMethod? (name : String) (codes : Codes) (ks : List Known) : Option Constant :=
  let units := Codes.units codes
  let first? : Option (List Nat) :=
    (ks.head?.bind (·.value)).bind fun x =>
      match x with
      | .text codes => some (Codes.units codes)
      | _ => none
  let whole? (i : Nat) (absent : Int) : Option Int := wholeArgument? ks[i]? absent
  match name with
  | "toLowerCase" => if ks.isEmpty then recased? codes Char.toLower else none
  | "toUpperCase" => if ks.isEmpty then recased? codes Char.toUpper else none
  | "trim" => if ks.isEmpty then some (.text (Codes.trim codes)) else none
  | "trimStart" => if ks.isEmpty then some (.text (Codes.trimStart codes)) else none
  | "trimEnd" => if ks.isEmpty then some (.text (Codes.trimEnd codes)) else none
  | "toString" => if ks.isEmpty then some (.text codes) else none
  | "charAt" => do
    let n ← whole? 0 0
    pure (.text (if n < 0 then [] else ((units[n.toNat]?).map fun unit => [unit]).getD []))
  | "charCodeAt" => do
    let n ← whole? 0 0
    let found := if n < 0 then none else units[n.toNat]?
    pure (.number ((found.map Double.ofNat).getD .undefined))
  | "indexOf" => do
    let wanted ← first?
    let start ← whole? 1 0
    let start := min start.toNat units.length
    pure (place (Codes.indexFrom? wanted start (units.drop start)))
  | "lastIndexOf" => do
    let wanted ← first?
    let start ← whole? 1 units.length
    pure (place (lastIndex? wanted units (min start.toNat units.length)))
  | "startsWith" => do
    let wanted ← first?
    let start ← whole? 1 0
    pure (.truth (wanted.isPrefixOf (units.drop start.toNat)))
  | "substring" | "slice" => do
    let start ← whole? 0 0
    let stop ← whole? 1 units.length
    if start < 0 ∨ stop < 0 ∨ (units.length : Int) < start ∨ (units.length : Int) < stop ∨
        stop < start then none
    pure (.text (Codes.ofUnits ((units.take stop.toNat).drop start.toNat)))
  | "replace" | "replaceAll" => do
    let wanted ← first?
    let by_ ← (ks[1]?.bind (·.value)).bind fun x =>
      match x with
      | .text codes => if codes.contains '$'.toNat then none else some (Codes.units codes)
      | _ => none
    if wanted.isEmpty then none
    pure (.text (Codes.ofUnits (replaced wanted by_ (name == "replaceAll") (units.length + 1) units)))
  | _ => none

/-- The digits of a natural number in a base of up to 36. -/
def digitsIn (base n : Nat) : Codes :=
  let digit (d : Nat) : Nat := if d < 10 then 0x30 + d else 0x61 + d - 10
  let rec go : Nat → Nat → Codes
    | 0, _ => []
    | bound + 1, n => if n = 0 then [] else go bound (n / base) ++ [digit (n % base)]
  if n = 0 then [0x30] else go (n + 1) n

/-- The value of a call of a method of a number. -/
def numberMethod? (name : String) (x : Double) (ks : List Known) : Option Constant :=
  match name, ks with
  | "toString", [] => some (.text (codesOf x.text))
  | "toString", [k] => do
    let base ← wholeArgument? (some k) 10
    let n ← x.whole?
    if base < 2 ∨ 36 < base ∨ 0x20000000000000 < n.natAbs then none
    let digits := digitsIn base.natAbs (min n.natAbs 0x20000000000000)
    pure (.text (if n < 0 then '-'.toNat :: digits else digits))
  | _, _ => none

/-! ## Methods of known objects -/

/-- A number without its binary places after the point: the greatest whole number that is not
greater. -/
def floor (x : Double) : Double :=
  match x with
  | .finite negative size =>
    let (num, den) := size.ratio
    let n := if negative then (num + den - 1) / den else num / den
    if n = 0 then Double.zero negative else Double.ofScaled negative n 0
  | x => x

/-- The least whole number that is not less. -/
def ceiling (x : Double) : Double := (floor x.neg).neg

/-- The nearest whole number, a half going up. -/
def rounded (x : Double) : Double :=
  let sum := floor (x.add (Double.ofRatio false 1 2))
  match x with
  | .finite true size => if sum.isZero then Double.zero true else if size.isZero then x else sum
  | .finite false _ => sum
  | x => x

/-- The number nearest to the square root. -/
def squareRoot (x : Double) : Double :=
  match x with
  | .finite negative size =>
    if size.isZero then x
    else if negative then .undefined
    else
      let (num, den) := size.ratio
      let wide := num * den * Nat.pow 4 128
      let root := wide.sqrt
      let sticky := if root * root = wide then 0 else 1
      Double.ofRatio false (2 * root + sticky) (2 * den * Nat.pow 2 128)
  | .infinite false => x
  | _ => .undefined

/-- The value of a call of a method for numbers. -/
def mathMethod? (name : String) (xs : List Double) : Option Double :=
  match name, xs with
  | "abs", [x] => some x.abs
  | "ceil", [x] => some (ceiling x)
  | "floor", [x] => some (floor x)
  | "round", [x] => some (rounded x)
  | "trunc", [x] => some (if x.isNegative then ceiling x else floor x)
  | "sqrt", [x] => some (squareRoot x)
  | "sign", [x] =>
    some (if x.isZero ∨ x = .undefined then x
      else if x.isNegative then Double.ofInt (-1) else Double.ofNat 1)
  | "clz32", [x] =>
    some (Double.ofNat (if x.word = 0 then 32 else 31 - x.word.log2))
  | "imul", [x, y] =>
    some (Double.ofInt (Double.signed ((x.word * y.word) % Double.wordCount)))
  | "min", xs => some (xs.foldl (fun least x =>
      if least = .undefined ∨ x = .undefined then .undefined
      else if x.below least ∨ (x.isZero ∧ least.isZero ∧ x.isNegative) then x else least)
      (.infinite false))
  | "max", xs => some (xs.foldl (fun most x =>
      if most = .undefined ∨ x = .undefined then .undefined
      else if most.below x ∨ (x.isZero ∧ most.isZero ∧ !x.isNegative) then x else most)
      (.infinite true))
  | _, _ => none

/-- The value of a call of a method of an object that every script has. -/
def objectMethod? (object name : String) (ks : List Known) : Option Constant :=
  let numbers? : Option (List Double) := ks.mapM fun k =>
    match k.value with
    | some (.number x) => some x
    | _ => none
  match object with
  | "Math" => (numbers?.bind (mathMethod? name)).map Constant.number
  | "Number" =>
    match name, ks.head?.bind (·.value) with
    | "isFinite", some (.number x) => some (.truth x.isFinite)
    | "isNaN", some (.number x) => some (.truth (x == .undefined))
    | "isInteger", some (.number x) => some (.truth x.whole?.isSome)
    | "isSafeInteger", some (.number x) =>
      some (.truth (x.whole?.any fun n => n.natAbs < 0x20000000000000))
    | "isFinite", some _ => some (.truth false)
    | "isNaN", some _ => some (.truth false)
    | "isInteger", some _ => some (.truth false)
    | "isSafeInteger", some _ => some (.truth false)
    | _, _ => none
  | "String" =>
    if name = "fromCharCode" then
      (ks.mapM fun (k : Known) => k.value.map fun x => x.toNumber.word % 0x10000).map fun units =>
        .text (Codes.ofUnits units)
    else none
  | _ => none

/-! ## Calls -/

/-- Whether an argument stands for the parts of a value. -/
def isSpread (t : Tree) : Bool := t.kind == .spread

/-- A number for an expression: itself if it is one, or else with a plus sign. -/
def asNumber (e : Tree) : Tree := if e.known.kind == .number then e else .unary .plus e

/-- A text between grave accents from a text and further texts and expressions. -/
def template (start : Codes) (arguments : List Tree) : Tree :=
  let (pieces, parts) := arguments.foldl (fun (state : List Codes × List Tree) e =>
    match state, e with
    | (piece :: pieces, parts), .text codes => (Codes.paired (piece ++ codes) :: pieces, parts)
    | (pieces, parts), e => ([] :: pieces, e :: parts)) ([start], [])
  .node (.template (pieces.reverse.map fun codes => String.ofList (Quote.grave.content codes)))
    parts.reverse

/-- A call of `concat`. -/
def concatenated? (object : Tree) (arguments : List Tree) : Option Tree :=
  match object with
  | .array parts =>
    let joins (e : Tree) : Bool :=
      e.kind == .array || (e.isLiteral false && e.known.kind.isPlain)
    let merged := arguments.takeWhile joins
    let left := arguments.dropWhile joins
    let elements := merged.flatMap fun e =>
      match e with
      | .array parts => parts
      | e => [e]
    if left.isEmpty then some (.array (parts ++ elements))
    else if merged.isEmpty then none
    else some (.call (.member (.array (parts ++ elements)) "concat") left)
  | .text codes =>
    let isText (e : Tree) : Bool :=
      match e with
      | .text _ => true
      | _ => false
    let count := (arguments.filter fun e => !isText e).length
    if arguments.isEmpty || arguments.any isSpread || 9 + arguments.length + 2 < 3 * count then none
    else some (template codes arguments)
  | _ => none

/-- A call of a method with a known value, or in a shorter form. -/
def methodCall? (object : Tree) (name : String) (arguments : List Tree) : Option Tree :=
  let ks := Tree.knownAll arguments
  let k := object.known
  let simple : Bool := !k.effects && !Known.anyEffects ks && !arguments.any isSpread
  let value : Option Constant :=
    if !simple then none
    else match k.value, object with
      | some (.text codes), _ => textMethod? name codes ks
      | some (.number x), _ => numberMethod? name x ks
      | some (.truth value), _ =>
        if name = "toString" ∧ ks.isEmpty then some (.text (Constant.truth value).toCodes) else none
      | _, _ => none
  match value with
  | some x => some (Tree.ofConstant x)
  | none =>
    match object, name with
    | .name ⟨"Array", none⟩, "of" => some (.array arguments)
    | .name ⟨"Math", none⟩, "pow" =>
      match arguments with
      | [a, b] => if arguments.any isSpread then none else some (.binary .power (asNumber a) (asNumber b))
      | _ => none
    | .name ⟨text, none⟩, name =>
      if Known.anyEffects ks || arguments.any isSpread then none
      else (objectMethod? text name ks).map Tree.ofConstant
    | object, "concat" => concatenated? object arguments
    | _, _ => none

/-- A call of a function with a known value, or in a shorter form. -/
def functionCall? (name : String) (arguments : List Tree) : Option Tree :=
  let ks := Tree.knownAll arguments
  if arguments.any isSpread then none
  else match name, arguments, ks with
    | "Boolean", [], _ => some (.truth false)
    | "Boolean", [e], _ => some (negated depth (negated depth e))
    | "String", [], _ => some (.text [])
    | "String", [_], [k] =>
      if k.effects || !k.kind.isPlain then none else k.text.map Tree.text
    | "Number", [], _ => some .zero
    | "Number", [_], [k] =>
      if k.effects || !k.kind.isPlain || k.kind == .big then none
      else k.number.map fun x => Tree.ofConstant (.number x)
    | "BigInt", [.big digits], _ => some (.big digits)
    | name, _, ks =>
      if Known.anyEffects ks then none else (functionValue? name ks).map Tree.ofConstant

/-- Calls of `concat` in turn as one. -/
def chainedCalls? (e : Tree) : Option Tree :=
  match e with
  | .call (.member (.call (.member object "concat") first) "concat") second =>
    match object with
    | .array _ => some (.call (.member object "concat") (first ++ second))
    | .text _ => some (.call (.member object "concat") (first ++ second))
    | _ => none
  | _ => none

/-- A call with a known value, or in a shorter form. -/
def call? (e : Tree) : Option Tree :=
  match chainedCalls? e with
  | some e => some e
  | none =>
    match e with
    | .call (.name ⟨name, none⟩) arguments => functionCall? name arguments
    | .call (.member object name) arguments => methodCall? object name arguments
    | _ => none

/-- The value of a property of an object that every script has. -/
def property? (e : Tree) : Option Tree :=
  let number (n : Nat) : Tree := .number (Double.ofNat n)
  let wide : Tree := .binary .minus (.binary .power (number 2) (number 53)) (number 1)
  match e with
  | .member (.name ⟨"Number", none⟩) name =>
    match name with
    | "POSITIVE_INFINITY" => some (.number (.infinite false))
    | "NEGATIVE_INFINITY" => some (.number (.infinite true))
    | "NaN" => some (.number .undefined)
    | "MAX_SAFE_INTEGER" => some wide
    | "MIN_SAFE_INTEGER" => some (.unary .minus wide)
    | "EPSILON" => some (.binary .power (number 2) (.number (Double.ofInt (-52))))
    | _ => none
  | _ => none

end Rule

end Pagefold.Script
