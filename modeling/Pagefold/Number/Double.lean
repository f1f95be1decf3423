import Pagefold.Number.Binary

/-!
# Numbers of 53 binary digits with a sign

Beside the finite numbers, among them two zeros, there are two infinities and a value that
stands for no number. The sum, the product, the quotient and the remainder of two numbers are
worked out exactly and then replaced by the nearest number of 53 binary digits.
-/
namespace Pagefold.Number

/-- A number of 53 binary digits. -/
inductive Double where
  | undefined
  | infinite (negative : Bool)
  | finite (negative : Bool) (size : Magnitude)
  deriving DecidableEq, Repr

namespace Double

/-! ## Making numbers -/

/-- A finite number, or infinity where its size is beyond all of them. -/
def bounded (negative : Bool) (size : Magnitude) : Double :=
  if 971 < size.exponent then .infinite negative else .finite negative size

/-- The number nearest to a quotient. -/
def ofRatio (negative : Bool) (num den : Nat) : Double :=
  bounded negative (Format.double.ofRatio num den)

/-- The zero of a sign. -/
def zero (negative : Bool) : Double := .finite negative Format.double.zero

/-- The number nearest to a natural number times a power of ten. Powers that no number can
reach are not worked out. -/
def ofScaled (negative : Bool) (n : Nat) (grid : Int) : Double :=
  let reach := grid + (Nat.toDigits 10 n).length
  if n = 0 ∨ reach < -330 then zero negative
  else if 310 < reach then .infinite negative
  else bounded negative (Format.double.ofScaled n grid)

/-- The number nearest to a natural number. -/
def ofNat (n : Nat) : Double := ofScaled false n 0

/-- The number nearest to an integer. -/
def ofInt (n : Int) : Double := ofScaled (decide (n < 0)) n.natAbs 0

/-! ## Looking at numbers -/

/-- Whether a number is zero. -/
def isZero : Double → Bool
  | .finite _ size => size.isZero
  | _ => false

/-- Whether a number has the negative sign. -/
def isNegative : Double → Bool
  | .undefined => false
  | .infinite negative => negative
  | .finite negative _ => negative

/-- Whether a number is finite. -/
def isFinite : Double → Bool
  | .finite _ _ => true
  | _ => false

/-- The integer that a number is, if it is one. -/
def whole? : Double → Option Int
  | .finite negative size => size.whole?.map fun n => if negative then -(n : Int) else n
  | _ => none

/-- The natural number that a number is, if it is one and not the negative zero. -/
def natural? : Double → Option Nat
  | .finite false size => size.whole?
  | _ => none

/-- A finite number without its binary places after the point. -/
def truncated? : Double → Option Int
  | .finite negative size =>
    let (num, den) := size.ratio
    some (if negative then -((num / den : Nat) : Int) else (num / den : Nat))
  | _ => none

/-- A finite number as an integer over a natural number. -/
def ratio? : Double → Option (Int × Nat)
  | .finite negative size =>
    let (num, den) := size.ratio
    some (if negative then -(num : Int) else num, den)
  | _ => none

/-! ## Order -/

/-- Whether two numbers are equal. The zeros are; what is no number equals nothing. -/
def equals : Double → Double → Bool
  | .infinite a, .infinite b => a == b
  | .finite a m, .finite b k => (m.isZero && k.isZero) || (a == b && m == k)
  | _, _ => false

/-- Whether a number is less than another. -/
def below : Double → Double → Bool
  | .undefined, _ => false
  | _, .undefined => false
  | .infinite a, .infinite b => a && !b
  | .infinite a, .finite _ _ => a
  | .finite _ _, .infinite b => !b
  | .finite a m, .finite b k =>
    if m.isZero && k.isZero then false
    else match a, b with
      | false, false => m.below k
      | true, true => k.below m
      | true, false => true
      | false, true => false

/-! ## Arithmetic -/

/-- The number of the other sign. -/
def neg : Double → Double
  | .undefined => .undefined
  | .infinite negative => .infinite !negative
  | .finite negative size => .finite (!negative) size

/-- The number without its sign. -/
def abs : Double → Double
  | .undefined => .undefined
  | .infinite _ => .infinite false
  | .finite _ size => .finite false size

/-- The sum of two numbers. A sum that is zero is positive unless both numbers are negative. -/
def add : Double → Double → Double
  | .undefined, _ => .undefined
  | _, .undefined => .undefined
  | .infinite a, .infinite b => if a = b then .infinite a else .undefined
  | .infinite a, .finite _ _ => .infinite a
  | .finite _ _, .infinite b => .infinite b
  | .finite a m, .finite b k =>
    let (top, bottom) := m.ratio
    let (num, den) := k.ratio
    let left : Int := if a then -((top * den : Nat) : Int) else (top * den : Nat)
    let right : Int := if b then -((num * bottom : Nat) : Int) else (num * bottom : Nat)
    let sum := left + right
    if sum = 0 then zero (a && b) else ofRatio (decide (sum < 0)) sum.natAbs (bottom * den)

/-- The difference of two numbers. -/
def sub (x y : Double) : Double := x.add y.neg

/-- The product of two numbers. -/
def mul : Double → Double → Double
  | .undefined, _ => .undefined
  | _, .undefined => .undefined
  | .infinite a, .infinite b => .infinite (a != b)
  | .infinite a, .finite b k => if k.isZero then .undefined else .infinite (a != b)
  | .finite a m, .infinite b => if m.isZero then .undefined else .infinite (a != b)
  | .finite a m, .finite b k =>
    let (top, bottom) := m.ratio
    let (num, den) := k.ratio
    ofRatio (a != b) (top * num) (bottom * den)

/-- The quotient of two numbers. -/
def div : Double → Double → Double
  | .undefined, _ => .undefined
  | _, .undefined => .undefined
  | .infinite _, .infinite _ => .undefined
  | .infinite a, .finite b _ => .infinite (a != b)
  | .finite a _, .infinite b => zero (a != b)
  | .finite a m, .finite b k =>
    let (top, bottom) := m.ratio
    let (num, den) := k.ratio
    if k.isZero then if m.isZero then .undefined else .infinite (a != b)
    else ofRatio (a != b) (top * den) (bottom * num)

/-- What remains of a number after whole multiples of another; it has the sign of the first. -/
def rem : Double → Double → Double
  | .undefined, _ => .undefined
  | _, .undefined => .undefined
  | .infinite _, _ => .undefined
  | x, .infinite _ => x
  | .finite a m, .finite _ k =>
    if k.isZero then .undefined
    else
      let (top, bottom) := m.ratio
      let (num, den) := k.ratio
      ofRatio a ((top * den) % (num * bottom)) (bottom * den)

/-! ## Words of 32 bits -/

/-- The numbers of 32 bits. -/
def wordCount : Nat := Nat.pow 2 32

/-- A number cut to its 32 lowest binary digits before the point. -/
def word (x : Double) : Nat := ((x.truncated?.getD 0) % (wordCount : Int)).toNat

/-- A word read as a number with a sign. -/
def signed (word : Nat) : Int :=
  if 2 * word < wordCount then word else (word : Int) - wordCount

/-! ## Texts -/

/-- The digits of a finite number without its sign. -/
def digits? : Double → Option Decimal
  | .finite _ size => if size.isZero then none else some (Format.double.decimal size)
  | _ => none

/-- A number that two infinities and no number bound, in decimal digits: in place where they are
few, or with a signed power of ten. -/
def text : Double → String
  | .undefined => "NaN"
  | .infinite negative => if negative then "-Infinity" else "Infinity"
  | x@(.finite negative _) =>
    match x.digits? with
    | none => "0"
    | some d =>
      let digits :=
        if d.isPositional then d.text true
        else match d.digits.length with
          | 0 => []
          | _ =>
            let plain := d.text false
            let mantissa := plain.takeWhile (· != 'e')
            let power := plain.dropWhile (· != 'e')
            match power with
            | 'e' :: '-' :: r => mantissa ++ 'e' :: '-' :: r
            | 'e' :: r => mantissa ++ 'e' :: '+' :: r
            | r => mantissa ++ r
      String.ofList (if negative then '-' :: digits else digits)

/-- A number that is read back from its own text in all cases, with its digits in place. -/
def placedText : Double → String
  | .undefined => "NaN"
  | .infinite negative => if negative then "-inf" else "inf"
  | x@(.finite negative _) =>
    let digits := match x.digits? with
      | none => ['0']
      | some d => d.text true
    String.ofList (if negative then '-' :: digits else digits)

end Double

end Pagefold.Number
