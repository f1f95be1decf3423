import Pagefold.Css.Calc.Reader

/-!
# Measures

Readings of numbers, shares, lengths, angles, times and resolutions where a property asks for
them. Each may be calculated. A number, a share, an angle and a time have to come out of the
calculation at once; a length may stay one that is left to calculate.
-/
namespace Pagefold.Css

open Number (Single)

namespace Reading

/-- A number. -/
def number : Reading Single := firstOf [plainNumber, Calc.readNumber fun _ => none]

/-- A quantity of one kind that comes out of a calculation. -/
def calculated (kind : QuantityKind) : Reading Quantity := do
  match ← Calc.read [kind] with
  | .value q => pure q
  | _ => refuse

/-- A percentage, as the fraction that it stands for. -/
def percentage : Reading Single :=
  firstOf [plainPercentage, return (← calculated .share).value]

/-- A number, or a percentage as the fraction that it stands for. -/
def fraction : Reading Single := firstOf [number, percentage]

/-- A number or a percentage, as it is written. -/
def amount : Reading String :=
  firstOf [return (← number).text, return shareText (← percentage)]

end Reading

/-! ## Lengths -/

/-- A length, a share of one, or a calculation of both. -/
inductive Extent where
  | length (l : Length)
  | share (fraction : Single)
  | calculated (c : Calc)
  deriving Repr

namespace Extent

/-- The extent of no size. -/
def zero : Extent := .length .zero

/-- Whether an extent is a length or share of zero. -/
def isZero : Extent → Bool
  | length l => l.value.isZero
  | share f => f.isZero
  | calculated _ => false

/-- How an extent is written. -/
def text : Extent → String
  | length l => l.text
  | share f => shareText f
  | calculated c => c.text

/-- Two extents of one kind, unit and size. -/
def same : Extent → Extent → Bool
  | length a, length b => a.same b
  | share a, share b => a.same b
  | calculated a, calculated b => a.text == b.text
  | _, _ => false

/-- What comes out of a calculation, as an extent. -/
def ofCalc : Calc → Extent
  | .value (.length l) => length l
  | .value (.share f) => share f
  | c => calculated c

/-- A length. -/
def readLength : Reading Extent :=
  Reading.firstOf [return length (← Length.read), return ofCalc (← Calc.read [.length])]

/-- A length or a percentage. -/
def read : Reading Extent :=
  Reading.firstOf
    [return length (← Length.read), return share (← Reading.plainPercentage),
     return ofCalc (← Calc.read [.length, .share])]

/-- A length or a number, as it is written. A length without a unit is a number. -/
def readLengthOrNumber : Reading String :=
  Reading.firstOf [return (← Reading.number).text, return (← readLength).text]

end Extent

/-! ## Angles, times and resolutions -/

namespace Angle

/-- The angle that a part is. -/
def ofPart? (p : Part) : Option Angle :=
  match Quantity.ofPart? [.angle] p with
  | some (.angle a) => some a
  | _ => none

/-- An angle. -/
def read : Reading Angle :=
  Reading.firstOf
    [do Reading.orRefuse (ofPart? (← Reading.next)),
     do
      match ← Reading.calculated .angle with
      | .angle a => pure a
      | _ => Reading.refuse]

/-- An angle, where zero needs no unit. -/
def readOrZero : Reading Angle :=
  Reading.firstOf
    [read,
     do if (← Reading.plainNumber).isZero then pure zero else Reading.refuse]

end Angle

namespace Time

/-- The time that a part is. -/
def ofPart? (p : Part) : Option Time :=
  match Quantity.ofPart? [.time] p with
  | some (.time t) => some t
  | _ => none

/-- A time. -/
def read : Reading Time :=
  Reading.firstOf
    [do Reading.orRefuse (ofPart? (← Reading.next)),
     do
      match ← Reading.calculated .time with
      | .time t => pure t
      | _ => Reading.refuse]

/-- Two times of one size. -/
def same (s t : Time) : Bool := s.text == t.text

end Time

/-- A resolution, as it is written. -/
def readResolution : Reading String := do
  match ← Reading.next with
  | .token ⟨.dimension n unit, _⟩ =>
    let small := Text.lower unit
    if ["dpi", "dpcm", "dppx", "x"].contains small then pure (quantityText n.value unit)
    else Reading.refuse
  | _ => Reading.refuse

end Pagefold.Css
