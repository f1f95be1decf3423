import Pagefold.Number.Nearest

/-!
# Numbers and their decimal texts

A format says how many binary digits a number has and how small its last one may get. Every
quotient has a nearest number in a format, a half going to the even neighbour; and every number
of a format has a shortest decimal text from which it is read back.
-/
namespace Pagefold.Number

/-!
## Decimal digits

A positive number as its decimal digits and the place of the point, and the texts such digits
have: in place, or with a power of ten. The digits are those that a number needs; how many it
needs is a question of its precision and is answered elsewhere.
-/

/-- Decimal digits, the first of them not zero, with the place of the point: the number is
`0.digits` times the power of ten. -/
structure Decimal where
  digits : List Nat
  point : Int
  deriving DecidableEq, Repr

namespace Decimal

/-- The digits of a natural number. -/
def digitsOf (n : Nat) : List Nat := (Nat.toDigits 10 n).map fun c => c.toNat - '0'.toNat

/-- The number that digits write. -/
def ofDigitList (digits : List Nat) : Nat := digits.foldl (fun n d => 10 * n + d) 0

/-- Digits without zeros at their end. -/
def stripZeros (digits : List Nat) : List Nat := (digits.reverse.dropWhile (· == 0)).reverse

/-- A natural number times a power of ten, in the fewest digits. -/
def ofScaled (n : Nat) (grid : Int) : Decimal :=
  let digits := digitsOf n
  ⟨stripZeros digits, grid + digits.length⟩

/-- The quotient times a power of ten. -/
def tenfold (num den : Nat) (exponent : Int) : Nat × Nat :=
  if exponent < 0 then (num, den * Nat.pow 10 exponent.natAbs)
  else (num * Nat.pow 10 exponent.natAbs, den)

/-- The place of the point: the power of ten above `num / den`, next to it. -/
def pointOf (num den : Nat) : Int :=
  let rough : Int := ((Nat.toDigits 10 num).length : Int) - (Nat.toDigits 10 den).length
  let (top, bottom) := tenfold 1 1 rough
  if num * bottom < top * den then rough else rough + 1

/-- Digits cut to six, a half going up. -/
def cut (d : Decimal) : Decimal :=
  match d.digits.drop 6 with
  | [] => d
  | next :: _ =>
    let kept := ofDigitList (d.digits.take 6) + (if next < 5 then 0 else 1)
    let digits := digitsOf kept
    ⟨stripZeros digits, d.point + (digits.length - 6 : Nat)⟩

/-- The digits as characters. -/
def characters (digits : List Nat) : List Char := digits.map fun d => Char.ofNat ('0'.toNat + d)

/-- The text of digits, in place or with a power of ten. -/
def text (d : Decimal) (positional : Bool) : List Char :=
  let digits := characters d.digits
  let n := digits.length
  if positional then
    if d.point ≤ 0 then '0' :: '.' :: List.replicate d.point.natAbs '0' ++ digits
    else
      let before := d.point.natAbs
      if n ≤ before then digits ++ List.replicate (before - n) '0'
      else digits.take before ++ '.' :: digits.drop before
  else
    let mantissa :=
      match digits with
      | [] => []
      | [c] => [c]
      | c :: rest => c :: '.' :: rest
    mantissa ++ 'e' :: (toString (d.point - 1)).toList

/-- Whether digits are written in place: with up to 21 places before the point, and up to five
zeros after it. -/
def isPositional (d : Decimal) : Bool := -6 < d.point && d.point ≤ 21

end Decimal

/-!
## Numbers of a fixed count of binary digits

A format says how many binary digits a number has and how small its last one may get. Every
quotient has a nearest number in a format, a half going to the even neighbour; and every number
of a format has a shortest decimal text from which it is read back.
-/

/-- A count of binary digits, with the least power of two that the last digit may stand for,
and a count of decimal digits that always suffices. -/
structure Format where
  digits : Nat
  least : Int
  decimals : Nat
  deriving DecidableEq, Repr

/-- The number `significand * 2 ^ exponent`. In a format it has all binary digits unless its
exponent is the least one; zero has that exponent too. -/
structure Magnitude where
  significand : Nat
  exponent : Int
  deriving DecidableEq, Repr

namespace Magnitude

/-- The quotient of two natural numbers times a power of two, as a quotient. -/
def shifted (num den : Nat) (exponent : Int) : Nat × Nat :=
  if exponent < 0 then (num, den * power exponent.natAbs) else (num * power exponent.natAbs, den)

/-- A number as a quotient. -/
def ratio (m : Magnitude) : Nat × Nat := shifted m.significand 1 m.exponent

/-- Whether a number is zero. -/
def isZero (m : Magnitude) : Bool := m.significand == 0

/-- Whether a number is less than another. -/
def below (m k : Magnitude) : Bool :=
  let (a, b) := m.ratio
  let (c, d) := k.ratio
  a * d < c * b

/-- The natural number that a number is, if it is whole. -/
def whole? (m : Magnitude) : Option Nat :=
  let (top, bottom) := m.ratio
  if top % bottom = 0 then some (top / bottom) else none

/-- The nearest whole number, a half going up. -/
def rounded (m : Magnitude) : Nat :=
  let (top, bottom) := m.ratio
  (2 * top + bottom) / (2 * bottom)

end Magnitude

namespace Format

open Magnitude

/-- Numbers of 24 binary digits. -/
def single : Format := ⟨24, -149, 9⟩

/-- Numbers of 53 binary digits. -/
def double : Format := ⟨53, -1074, 17⟩

/-- The number zero. -/
def zero (f : Format) : Magnitude := ⟨0, f.least⟩

/-- Whether `num / den` is less than the power of two. -/
def belowPower (num den : Nat) (exponent : Int) : Bool :=
  let (top, bottom) := shifted 1 1 exponent
  num * bottom < top * den

/-- The exponent with which `num / den` has all binary digits, but not less than the least. -/
def exponentOf (f : Format) (num den : Nat) : Int :=
  let rough : Int := (num.log2 : Int) - den.log2
  let exact := if belowPower num den rough then rough - 1 else rough
  max f.least (exact - (f.digits - 1 : Nat))

/-- The number nearest to `num / den`. -/
def ofRatio (f : Format) (num den : Nat) : Magnitude :=
  if num = 0 then f.zero
  else
    let exponent := f.exponentOf num den
    let (top, bottom) := shifted num den (-exponent)
    let significand := nearest top bottom
    if significand = power f.digits then ⟨power (f.digits - 1), exponent + 1⟩
    else if significand = 0 then f.zero
    else ⟨significand, exponent⟩

/-- The number nearest to a natural number times a power of ten. -/
def ofScaled (f : Format) (n : Nat) (grid : Int) : Magnitude :=
  let (num, den) := Decimal.tenfold n 1 grid
  f.ofRatio num den

/-- Whether a candidate on a decimal grid reads back as the number: it lies between the
midpoints to the neighbours, or on one of them if the significand is even. -/
def readsBack (f : Format) (m : Magnitude) (candidate : Nat) (grid : Int) : Bool :=
  let (top, bottom) := Decimal.tenfold candidate 1 grid
  let even := m.significand % 2 == 0
  let narrow := m.significand == power (f.digits - 1) && f.least < m.exponent
  let (highTop, highBottom) := shifted (2 * m.significand + 1) 1 (m.exponent - 1)
  let (lowTop, lowBottom) :=
    if narrow then shifted (4 * m.significand - 1) 1 (m.exponent - 2)
    else shifted (2 * m.significand - 1) 1 (m.exponent - 1)
  let high := top * highBottom
  let low := top * lowBottom
  if even then high ≤ highTop * bottom && lowTop * bottom ≤ low
  else high < highTop * bottom && lowTop * bottom < low

/-- The nearer of the two neighbours of a number on a decimal grid, of those that read back. -/
def onGrid? (f : Format) (m : Magnitude) (grid : Int) : Option Nat :=
  let (num, den) := m.ratio
  let (top, bottom) := Decimal.tenfold num den (-grid)
  let under := top / bottom
  let nearUnder := 2 * (top % bottom) ≤ bottom
  let candidates := if nearUnder then [under, under + 1] else [under + 1, under]
  candidates.find? fun c => f.readsBack m c grid

/-- The fewest digits that read back as a number other than zero. -/
def decimal (f : Format) (m : Magnitude) : Decimal :=
  let (num, den) := m.ratio
  let point := Decimal.pointOf num den
  let found := (List.range f.decimals).findSome? fun n =>
    let grid := point - (n + 1 : Nat)
    (f.onGrid? m grid).map fun c => Decimal.ofScaled c grid
  found.getD ⟨[], 0⟩

end Format

end Pagefold.Number
