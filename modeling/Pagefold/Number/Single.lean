import Pagefold.Number.Binary

/-!
# Signed numbers of 24 binary digits

A single-precision number is a number of 24 binary digits with a sign. It is written with the
fewest decimal digits that read back as it, cut to six of them.
-/
namespace Pagefold.Number

/-- A number of 24 binary digits, or its negation. -/
structure Single where
  negative : Bool := false
  size : Magnitude
  deriving DecidableEq, Repr

namespace Single

/-- The number zero. -/
def zero : Single := ⟨false, Format.single.zero⟩

/-- The number nearest to `num / den`, with a sign. -/
def ofRatio (negative : Bool) (num den : Nat) : Single := ⟨negative, Format.single.ofRatio num den⟩

/-- The nearest number to a natural number. -/
def ofNat (n : Nat) : Single := ofRatio false n 1

/-- The number that decimal digits write: whole part, fraction, and a power of ten. -/
def ofDigits (negative : Bool) (digits : Nat) (places : Nat) (exponent : Int) : Single :=
  ⟨negative, Format.single.ofScaled digits (exponent - places)⟩

/-- Whether a number is zero, of either sign. -/
def isZero (s : Single) : Bool := s.size.isZero

/-- Whether a number is less than zero. -/
def isNegative (s : Single) : Bool := s.negative && !s.isZero

/-- The number times a quotient, rounded. -/
def times (s : Single) (num den : Nat) : Single :=
  let (top, bottom) := s.size.ratio
  ofRatio s.negative (top * num) (bottom * den)

/-- Whether a number is less than another. -/
def below (s t : Single) : Bool :=
  match s.isNegative, t.isNegative with
  | true, true => t.size.below s.size
  | true, false => true
  | false, true => false
  | false, false => s.size.below t.size

/-- Two numbers are equal; both zeros are. -/
def same (s t : Single) : Bool := s == t || (s.isZero && t.isZero)

/-- Whether a number is whole. -/
def isWhole (s : Single) : Bool := s.size.whole?.isSome

/-- The nearest whole number to the size of a number, a half going up. -/
def rounded (s : Single) : Nat := s.size.rounded

/-- The fewest digits that read back as the size of a number other than zero. -/
def decimal (s : Single) : Decimal := Format.single.decimal s.size

/-- The size of a number as it is written, with a zero in front of the point. -/
def sizeText (s : Single) : List Char :=
  if s.isZero then ['0'] else s.decimal.cut.text s.decimal.isPositional

/-- A number as it is written, with a zero in front of the point. -/
def fullText (s : Single) : String :=
  String.ofList (if s.negative then '-' :: s.sizeText else s.sizeText)

/-- A number as it is written in the fewest characters: no zero stands in front of the point,
and zero has no sign. -/
def text (s : Single) : String :=
  let size := s.sizeText
  let brief := match size with
    | '0' :: '.' :: rest => '.' :: rest
    | size => size
  String.ofList (if s.isNegative then '-' :: brief else brief)

/-! ## Arithmetic -/

/-- The number one. -/
def one : Single := ofNat 1

/-- A number as an integer over a natural number. -/
def ratio (s : Single) : Int × Nat :=
  let (top, bottom) := s.size.ratio
  (if s.negative then -(top : Int) else top, bottom)

/-- The number nearest to an integer over a natural number; what is zero has the given sign. -/
def ofInts (zeroNegative : Bool) (num : Int) (den : Nat) : Single :=
  if num = 0 then ⟨zeroNegative, Format.single.zero⟩ else ofRatio (decide (num < 0)) num.natAbs den

/-- The number of the other sign. -/
def neg (s : Single) : Single := { s with negative := !s.negative }

/-- The number without its sign. -/
def abs (s : Single) : Single := { s with negative := false }

/-- The sum of two numbers. -/
def add (s t : Single) : Single :=
  let (a, b) := s.ratio
  let (c, d) := t.ratio
  ofInts (s.negative && t.negative) (a * d + c * b) (b * d)

/-- The difference of two numbers. -/
def sub (s t : Single) : Single := s.add t.neg

/-- The product of two numbers. -/
def mul (s t : Single) : Single :=
  let (a, b) := s.size.ratio
  let (c, d) := t.size.ratio
  ofRatio (s.negative != t.negative) (a * c) (b * d)

/-- The quotient of two numbers, if the second is not zero. -/
def div? (s t : Single) : Option Single :=
  if t.isZero then none
  else
    let (a, b) := s.size.ratio
    let (c, d) := t.size.ratio
    some (ofRatio (s.negative != t.negative) (a * d) (b * c))

/-- The quotient of two numbers, and zero where the second is zero. -/
def per (s t : Single) : Single := (s.div? t).getD zero

/-- What remains of a number after whole multiples of another one; it has the sign of the first. -/
def rem? (s t : Single) : Option Single :=
  if t.isZero then none
  else
    let (a, b) := s.size.ratio
    let (c, d) := t.size.ratio
    some (ofRatio s.negative ((a * d) % (c * b)) (b * d))

/-- The greatest whole number that is not above a number. -/
def floor (s : Single) : Single :=
  let (a, b) := s.ratio
  ofInts s.negative (a.fdiv b) 1

/-- The least whole number that is not below a number. -/
def ceiling (s : Single) : Single := s.neg.floor.neg

/-- The nearest whole number, a half going away from zero. -/
def nearestWhole (s : Single) : Single := ⟨s.negative, (ofNat s.rounded).size⟩

/-- The whole number between a number and zero that is next to the number. -/
def towardZero (s : Single) : Single := if s.isNegative then s.ceiling else s.floor

/-- The order of two numbers. -/
def compare (s t : Single) : Ordering := if s.below t then .lt else if t.below s then .gt else .eq

/-- The number of an interval that is next to a number. -/
def clamp (s least greatest : Single) : Single :=
  if s.below least then least else if greatest.below s then greatest else s

/-- Minus one, zero or one by the sign of a number. -/
def sign (s : Single) : Single := if s.isZero then s else ⟨s.negative, one.size⟩

end Single

end Pagefold.Number
