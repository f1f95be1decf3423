import Pagefold.Number.Single

/-!
# Roots, powers and angles

Functions whose values are seldom fractions. They are worked out on integers that count parts of
a unit, with far more binary digits than a number of 24 of them needs, and rounded once at the end.
-/
namespace Pagefold.Number

/-- A number as a count of equal parts of one. -/
abbrev Fine := Int

namespace Fine

/-- How many parts one has. -/
def unit : Nat := Nat.pow 2 128

/-- A right angle: half of the ratio of a circle to its diameter. -/
def quarterTurn : Fine := 534514292032483373929840186580935391650

/-- The natural logarithm of two. -/
def logTwo : Fine := 235865763225513294137944142764154484399

/-- The number nearest to a count of parts. -/
def toSingle (x : Fine) : Single := .ofInts false x unit

/-- A number as a count of parts, cut to whole ones. -/
def ofSingle (s : Single) : Fine :=
  let (a, b) := s.ratio
  (a * unit).tdiv b

/-- The product of two counts. -/
def mul (x y : Fine) : Fine := ((x : Int) * (y : Int)).tdiv unit

/-- The quotient of two counts. -/
def div (x y : Fine) : Fine := ((x : Int) * unit).tdiv y

/-- The sum of a series in which each term follows from the one before it. The bound is on the
number of terms. -/
def series (next : Nat → Fine → Fine) : Nat → Nat → Fine → Fine
  | 0, _, term => term
  | bound + 1, n, term =>
    if term = 0 then 0 else (term : Int) + series next bound (n + 1) (next n term)

/-- The greatest natural number whose square is not above another one. The bound is on the number
of binary digits that are left to try. -/
def rootFrom (n : Nat) : Nat → Nat → Nat
  | 0, root => root
  | bits + 1, root =>
    let next := root + Nat.pow 2 bits
    rootFrom n bits (if next * next ≤ n then next else root)

/-- The square root of a count that is not negative. -/
def sqrt (x : Fine) : Fine :=
  let n := (x : Int).toNat * unit
  (rootFrom n (n.log2 / 2 + 1) 0 : Nat)

/-- The power of the base of the natural logarithm. -/
def exp (x : Fine) : Fine :=
  let twos := (x : Int).fdiv logTwo
  let rest : Fine := (x : Int) - twos * logTwo
  let value := series (fun n term => (mul term rest).tdiv (n + 1)) 200 0 unit
  if twos < 0 then (value : Int).tdiv (Nat.pow 2 twos.natAbs) else (value : Int) * Nat.pow 2 twos.natAbs

/-- The natural logarithm of a positive count. -/
def log (x : Fine) : Fine :=
  let n := (x : Int).toNat
  let twos : Int := (n.log2 : Int) - 128
  let scaled : Fine :=
    if twos < 0 then (x : Int) * Nat.pow 2 twos.natAbs else (x : Int).tdiv (Nat.pow 2 twos.natAbs)
  let t := div ((scaled : Int) - unit) ((scaled : Int) + unit)
  let square := mul t t
  -- The terms are the odd powers over their exponents.
  let rec terms : Nat → Nat → Fine → Fine
    | 0, _, _ => 0
    | bound + 1, n, power =>
      if power = 0 then 0 else (power : Int).tdiv (2 * n + 1) + terms bound (n + 1) (mul power square)
  2 * terms 200 0 t + twos * logTwo

/-- The sine of an angle that a right angle bounds on both sides. -/
def sinSmall (x : Fine) : Fine :=
  let square := mul x x
  series (fun n term => -(mul term square : Int).tdiv ((2 * n + 2) * (2 * n + 3))) 100 0 x

/-- The cosine of such an angle. -/
def cosSmall (x : Fine) : Fine :=
  let square := mul x x
  series (fun n term => -(mul term square : Int).tdiv ((2 * n + 1) * (2 * n + 2))) 100 0 unit

/-- The sine of an angle. -/
def sin (x : Fine) : Fine :=
  let quarters := ((x : Int) + quarterTurn / 2).fdiv quarterTurn
  let rest : Fine := (x : Int) - quarters * quarterTurn
  match (quarters % 4).toNat with
  | 0 => sinSmall rest
  | 1 => cosSmall rest
  | 2 => -(sinSmall rest : Int)
  | _ => -(cosSmall rest : Int)

/-- The cosine of an angle. -/
def cos (x : Fine) : Fine := sin ((x : Int) + quarterTurn)

/-- The angle of a tangent. The bound says how often the tangent is replaced by that of half the
angle. -/
def atanFrom : Nat → Fine → Fine
  | 0, x =>
    let square := mul x x
    let rec terms : Nat → Nat → Fine → Fine
      | 0, _, _ => 0
      | bound + 1, n, power =>
        if power = 0 then 0
        else (power : Int).tdiv (2 * n + 1) + terms bound (n + 1) (-(mul power square : Int))
    terms 200 0 x
  | n + 1, x => 2 * atanFrom n (div x ((unit : Int) + sqrt ((unit : Int) + mul x x)))

/-- The angle of a tangent. -/
def atan (x : Fine) : Fine := atanFrom 4 x

/-- The angle of a sine between minus one and one. -/
def asin (x : Fine) : Fine :=
  let rest := (unit : Int) - mul x x
  if rest ≤ 0 then if (x : Int) < 0 then -quarterTurn else quarterTurn
  else atan (div x (sqrt rest))

end Fine

namespace Single

/-- A function of counts as one of numbers. -/
def through (f : Fine → Fine) (s : Single) : Single := (f (Fine.ofSingle s)).toSingle

/-- The square root, if there is one. -/
def sqrt? (s : Single) : Option Single := if s.isNegative then none else some (s.through .sqrt)

/-- The natural logarithm, if there is one. -/
def log? (s : Single) : Option Single :=
  if s.isNegative || s.isZero then none else some (s.through .log)

/-- The power of the base of the natural logarithm, if it is not too large. -/
def exp? (s : Single) : Option Single :=
  if (ofNat 88).below s.abs then none else some (s.through .exp)

/-- A positive number raised to a power. -/
def powerOf (s t : Single) : Single :=
  if t.isZero then one
  else if s.isZero then zero
  else
    (Fine.exp (Fine.mul (Fine.log (Fine.ofSingle s)) (Fine.ofSingle t))).toSingle

/-- A number raised to a power, if there is such a number. -/
def pow? (s t : Single) : Option Single :=
  let even := (t.size.whole?.map (· % 2 == 0)).getD false
  if s.isZero && t.isNegative then none
  else if !s.isNegative then some (s.powerOf t)
  else if !t.isWhole then none
  else
    let size := s.abs.powerOf t
    some (if even then size else size.neg)

/-- The cube root. -/
def cbrt (s : Single) : Single :=
  let size := s.abs.powerOf (ofRatio false 1 3)
  if s.isZero then s else if s.negative then size.neg else size

/-- The angle of a point seen from the origin. -/
def atan2 (y x : Single) : Fine :=
  let a := Fine.ofSingle y
  let b := Fine.ofSingle x
  if b = 0 then if a = 0 then 0 else if (a : Int) < 0 then -Fine.quarterTurn else Fine.quarterTurn
  else
    let angle := Fine.atan (Fine.div a b)
    if 0 < (b : Int) then angle
    else if y.negative then (angle : Int) - 2 * Fine.quarterTurn
    else (angle : Int) + 2 * Fine.quarterTurn

end Single

end Pagefold.Number
