import Pagefold.Css.Quantity
import Pagefold.Number.Curve

/-!
# Calculations

A value may be calculated from numbers and quantities. What can be worked out at once is; the
rest stays a calculation, in which quantities of one unit are put together.
-/
namespace Pagefold.Css

open Number (Single)

/-- A function in a calculation that is kept. -/
inductive CalcFunction where
  | calc
  | min
  | max
  | clamp
  | round (strategy : String)
  | rem
  | mod
  | abs
  | sign
  | hypot
  deriving DecidableEq, Repr

/-- A calculation. -/
inductive Calc where
  | value (q : Quantity)
  | number (x : Single)
  | sum (left right : Calc)
  | product (x : Single) (c : Calc)
  | call (f : CalcFunction) (arguments : List Calc)
  deriving Repr

namespace CalcFunction

/-- How a function is written, with what stands in front of its arguments. -/
def text : CalcFunction → String
  | .calc => "calc("
  | .min => "min("
  | .max => "max("
  | .clamp => "clamp("
  | .round strategy => if strategy = "nearest" then "round(" else "round(" ++ strategy ++ ","
  | .rem => "rem("
  | .mod => "mod("
  | .abs => "abs("
  | .sign => "sign("
  | .hypot => "hypot("

end CalcFunction

namespace Calc

/-! ## Arithmetic -/

/-- A calculation times a number. -/
def times (c : Calc) (x : Single) : Calc :=
  if x.same .one then c
  else
    match c with
    | value q => .value (q.map (·.mul x))
    | number y => .number (y.mul x)
    | sum a b => .sum (a.times x) (b.times x)
    | product y c =>
      let factor := y.mul x
      if factor.same .one then c else .product factor c
    | call .calc [c] => .call .calc [c.times x]
    | call f arguments => .product x (.call f arguments)

/-- The number in front of a calculation that is a number or a quantity. -/
def front? : Calc → Option Single
  | value q => some q.value
  | number x => some x
  | _ => none

/-- Whether the sign of a calculation is known to be negative. -/
def isNegative (c : Calc) : Bool := c.front?.any (·.negative)

/-- Whether the sign of a calculation is known to be positive. -/
def isPositive (c : Calc) : Bool := c.front?.any (!·.negative)

/-- Whether adding a calculation changes nothing. -/
def isNothing : Calc → Bool
  | value q => q.isNothing
  | _ => false

mutual

/-- The sum of two calculations where a quantity of the second can be put into one of the first.
The bound is on their size. -/
def merged? : Nat → Calc → Calc → Option Calc
  | 0, _, _ => none
  | n + 1, a, b =>
    match a, b with
    | value p, value q => (Quantity.combine? (fun x y => some (x.add y)) p q).map .value
    | sum c d, other =>
      match merged? n c other with
      | some r => some (plus n r d)
      | none => (merged? n d other).map fun r => plus n c r
    | other, sum c d =>
      match merged? n other c with
      | some r => some (plus n r d)
      | none => (merged? n other d).map fun r => plus n c r
    | _, _ => none

/-- The sum of two quantities or sums of such. What is negative comes second. -/
def plus : Nat → Calc → Calc → Calc
  | 0, a, b => .sum a b
  | n + 1, a, b =>
    match merged? n a b with
    | some r => r
    | none =>
      if a.isNothing then b
      else if b.isNothing then a
      else if a.isNegative && b.isPositive then .sum b a
      else .sum a b

end

/-- How many pieces a calculation has, apart from the arguments of functions. -/
def size : Calc → Nat
  | sum a b => a.size + b.size + 1
  | _ => 1

/-- The sum of two calculations. -/
def add (a b : Calc) : Calc :=
  let bound := 2 * (a.size + b.size)
  match a, b with
  | number x, number y => .number (x.add y)
  | sum (number x) c, number y => .sum (.number (x.add y)) c
  | sum c (number x), number y => .sum c (.number (x.add y))
  | number x, sum (number y) c => .sum (.number (x.add y)) c
  | number x, sum c (number y) => .sum c (.number (x.add y))
  | number x, b => .sum (.number x) b
  | a, number y => .sum a (.number y)
  | product x c, b => .sum (.product x c) b
  | a, product y d => .sum a (.product y d)
  | call f arguments, b => .sum (.call f arguments) b
  | a, call g arguments => .sum a (.call g arguments)
  | a, b => plus bound a b

/-- The order of two values, if they can be compared. -/
def compare? : Calc → Calc → Option Ordering
  | value p, value q => p.compare? q
  | _, _ => none

/-- Of some values those that may be the least or, if `order` says so, the greatest one: of values
that can be compared only one stays. -/
def reduced (order : Ordering) (arguments : List Calc) : List Calc :=
  arguments.foldl (fun kept c =>
    match kept.findIdx? fun d => (compare? c d).isSome with
    | some i => if (kept[i]?.bind (compare? c)) = some order then kept.set i c else kept
    | none => kept ++ [c]) []

/-- A value between two others: what is known to be the result, or what is left to find out. -/
def clamped (least center greatest : Calc) : Calc :=
  let (center, open?) := match compare? center greatest with
    | some .gt => (greatest, none)
    | some _ => (center, none)
    | none => (center, some greatest)
  match compare? center least, open? with
  | some .lt, none => least
  | some .lt, some greatest => .call .min [least, greatest]
  | some _, none => center
  | some _, some greatest => .call .min [center, greatest]
  | none, none => .call .max [least, center]
  | none, some greatest => .call .clamp [least, center, greatest]

/-- Two values put together by an operation on their numbers, if that can be done at once. -/
def combine? (f : Single → Single → Option Single) : Calc → Calc → Option Calc
  | value p, value q => (Quantity.combine? f p q).map .value
  | number x, number y => (f x y).map .number
  | _, _ => none

/-- A number or quantity with an operation on its number. What a share stands for is not known,
so that nothing is done to it. -/
def map? (f : Single → Single) : Calc → Option Calc
  | number x => some (.number (f x))
  | value (.share _) => none
  | value q => some (.value (q.map f))
  | _ => none

/-! ## Writing -/

mutual

/-- How a calculation is written. -/
def text : Calc → String
  | value q => q.text
  | number x => x.text
  | sum a (value q) =>
    if q.value.negative then a.text ++ " - " ++ (q.map Single.neg).text
    else a.text ++ " + " ++ q.text
  | sum a (number x) =>
    if x.negative then a.text ++ " - " ++ x.neg.text else a.text ++ " + " ++ x.text
  | sum a b => a.text ++ " + " ++ b.text
  | product x c =>
    if x.abs.below .one then c.text ++ "/" ++ (Single.one.per x).text
    else x.text ++ "*" ++ c.text
  | call f arguments => f.text ++ ",".intercalate (texts arguments) ++ ")"

/-- How some calculations are written. -/
def texts : List Calc → List String
  | [] => []
  | c :: rest => c.text :: texts rest

end

end Calc

end Pagefold.Css
