import Pagefold.Css.Reading
import Pagefold.Css.Token

/-!
# Numbers with units

Lengths, shares, angles, times and resolutions. Each is written in its shortest form: units in
small letters, a time in seconds or milliseconds by its size, an angle in degrees rather than
radians. Two quantities of one kind can be added and compared where their units allow it.
-/
namespace Pagefold.Css

open Number (Single)

/-- A unit as it is written after a number. One that would be read as the exponent of the number
is escaped. -/
def unitText (unit : String) : String :=
  match unit.toList with
  | ['e'] | ['E'] => "\\65 "
  | 'e' :: '-' :: rest | 'E' :: '-' :: rest =>
    "\\65 " ++ String.ofList (Literal.nameRest ('-' :: rest))
  | _ => Literal.name unit

/-- A number and its unit as they are written together. -/
def dimensionText (value : Single) (unit : String) : String :=
  (if value.isZero ∧ value.negative then "-0" else value.text) ++ unitText unit

/-- A number that nothing is known about keeps its sign and shows whether it was written as a
whole number. -/
def exactText (n : Numeric) (value : Single) : String :=
  let sign := if n.signed && !value.negative then "+" else ""
  let mark := if n.whole?.isNone && value.isWhole && value.decimal.point ≤ 21 then ".0" else ""
  sign ++ value.fullText ++ mark

/-- How a share is written, as a percentage. -/
def shareText (fraction : Single) : String := (fraction.times 100 1).text ++ "%"

/-! ## Lengths -/

/-- A length in one of the known units. -/
structure Length where
  value : Single
  unit : String
  deriving DecidableEq, Repr

namespace Length

/-- The units of lengths. -/
def units : List String :=
  ["px", "in", "cm", "mm", "q", "pt", "pc", "em", "rem", "ex", "rex", "ch", "rch", "cap", "rcap",
   "ic", "ric", "lh", "rlh", "vw", "lvw", "svw", "dvw", "cqw", "vh", "lvh", "svh", "dvh", "cqh",
   "vi", "svi", "lvi", "dvi", "cqi", "vb", "svb", "lvb", "dvb", "cqb", "vmin", "svmin", "lvmin",
   "dvmin", "cqmin", "vmax", "svmax", "lvmax", "dvmax", "cqmax"]

/-- The length with a unit, which may be in letters of any case. -/
def ofUnit? (value : Single) (unit : String) : Option Length :=
  let small := Text.lower unit
  if units.contains small then some ⟨value, small⟩ else none

/-- The length that a part is. A number without a unit is one in pixels. -/
def ofPart? : Part → Option Length
  | .token t =>
    match t.kind with
    | .dimension n unit => ofUnit? n.value unit
    | .number n => some ⟨n.value, "px"⟩
    | _ => none
  | .block .. => none

/-- The length zero. -/
def zero : Length := ⟨.zero, "px"⟩

/-- Two lengths of one unit and size. -/
def same (a b : Length) : Bool := a.value.same b.value && a.unit == b.unit

/-- How a length is written: zero without a unit. -/
def text (l : Length) : String := if l.value.isZero then "0" else dimensionText l.value l.unit

/-- A length. -/
def read : Reading Length := do Reading.orRefuse (ofPart? (← Reading.next))

/-- How many pixels a unit has that does not depend on anything. -/
def pixelsOf? (unit : String) : Option Single :=
  let inch := Single.ofNat 96
  let centimetre := Single.ofRatio false 9600 254
  match unit with
  | "px" => some .one
  | "in" => some inch
  | "cm" => some centimetre
  | "mm" => some (centimetre.times 1 10)
  | "q" => some (centimetre.times 1 40)
  | "pt" => some (inch.times 1 72)
  | "pc" => some (inch.times 1 6)
  | _ => none

/-- A length in pixels, if its unit does not depend on anything. -/
def pixels? (l : Length) : Option Single := (pixelsOf? l.unit).map l.value.mul

/-- Two lengths as numbers of one unit, if they can have the same. -/
def common? (a b : Length) : Option (Single × Single × String) :=
  if a.unit = b.unit then some (a.value, b.value, a.unit)
  else
    match a.pixels?, b.pixels? with
    | some x, some y => some (x, y, "px")
    | _, _ => none

end Length

/-! ## Times -/

/-- A time in seconds or milliseconds. -/
structure Time where
  value : Single
  milli : Bool
  deriving DecidableEq, Repr

namespace Time

/-- The time with a unit. -/
def ofUnit? (value : Single) (unit : String) : Option Time :=
  match Text.lower unit with
  | "s" => some ⟨value, false⟩
  | "ms" => some ⟨value, true⟩
  | _ => none

/-- How a time is written: milliseconds if they are above zero and less than a hundred. -/
def text (t : Time) : String :=
  if t.milli then
    if t.value.isZero || !t.value.below (.ofNat 100) then
      dimensionText (t.value.times 1 1000) "s"
    else dimensionText t.value "ms"
  else if Single.zero.below t.value && t.value.below (.ofRatio false 1 10) then
    dimensionText (t.value.times 1000 1) "ms"
  else dimensionText t.value "s"

/-- Two times as numbers of the unit of the first one. -/
def common (a b : Time) : Single × Single :=
  if a.milli = b.milli then (a.value, b.value)
  else (a.value, if a.milli then b.value.times 1000 1 else b.value.times 1 1000)

end Time

/-! ## Angles -/

/-- An angle in one of the known units. -/
structure Angle where
  value : Single
  unit : String
  deriving DecidableEq, Repr

namespace Angle

/-- The units of angles. -/
def units : List String := ["deg", "grad", "rad", "turn"]

/-- The angle with a unit, which may be in letters of any case. -/
def ofUnit? (value : Single) (unit : String) : Option Angle :=
  let small := Text.lower unit
  if units.contains small then some ⟨value, small⟩ else none

/-- The angle zero. -/
def zero : Angle := ⟨.zero, "deg"⟩

/-- An angle in degrees. -/
def degrees (a : Angle) : Single :=
  match a.unit with
  | "grad" => a.value.times 9 10
  | "rad" => a.value.mul (.ofRatio false 18000000000000 314159265359)
  | "turn" => a.value.times 360 1
  | _ => a.value

/-- How an angle is written: in degrees instead of radians. -/
def text (a : Angle) : String :=
  if a.unit = "rad" then dimensionText a.degrees "deg" else dimensionText a.value a.unit

/-- How an angle is written where zero needs no unit. -/
def shortText (a : Angle) : String := if a.value.isZero then "0" else a.text

/-- Two angles as numbers of one unit. -/
def common (a b : Angle) : Single × Single × String :=
  if a.unit = b.unit then (a.value, b.value, a.unit) else (a.degrees, b.degrees, "deg")

end Angle

/-- How a number with a unit is written where nothing is known about its use. -/
def quantityText (value : Single) (unit : String) : String :=
  let small := Text.lower unit
  match Length.ofUnit? value unit, Time.ofUnit? value unit, Angle.ofUnit? value unit with
  | some l, _, _ => dimensionText l.value l.unit
  | none, some t, _ => t.text
  | none, none, some a => a.text
  | none, none, none =>
    if small = "dpi" ∨ small = "dpcm" then dimensionText value small
    else if small = "dppx" ∨ small = "x" then dimensionText value "x"
    else dimensionText value unit

/-! ## All kinds -/

/-- The kinds of quantities. -/
inductive QuantityKind where
  | length
  | share
  | angle
  | time
  deriving DecidableEq, Repr

/-- A number with a unit, or a share. -/
inductive Quantity where
  | length (l : Length)
  | share (fraction : Single)
  | angle (a : Angle)
  | time (t : Time)
  deriving DecidableEq, Repr

namespace Quantity

/-- What kind a quantity is of. -/
def kind : Quantity → QuantityKind
  | length _ => .length
  | share _ => .share
  | angle _ => .angle
  | time _ => .time

/-- The number in front of the unit. -/
def value : Quantity → Single
  | length l => l.value
  | share x => x
  | angle a => a.value
  | time t => t.value

/-- A quantity of the same unit with its number changed. -/
def map (f : Single → Single) : Quantity → Quantity
  | length l => .length { l with value := f l.value }
  | share x => .share (f x)
  | angle a => .angle { a with value := f a.value }
  | time t => .time { t with value := f t.value }

/-- Two quantities put together by an operation on their numbers, in a unit that they have in
common, if there is one. -/
def combine? (f : Single → Single → Option Single) : Quantity → Quantity → Option Quantity
  | length a, length b => do
    let (x, y, unit) ← Length.common? a b
    return .length ⟨← f x y, unit⟩
  | share x, share y => (f x y).map .share
  | angle a, angle b =>
    let (x, y, unit) := Angle.common a b
    (f x y).map fun value => .angle ⟨value, unit⟩
  | time a, time b =>
    let (x, y) := Time.common a b
    (f x y).map fun value => .time ⟨value, a.milli⟩
  | _, _ => none

/-- The order of two quantities, if they can be compared. -/
def compare? (a b : Quantity) : Option Ordering :=
  match a, b with
  | length a, length b => (Length.common? a b).map fun (x, y, _) => x.compare y
  | share x, share y => some (x.compare y)
  | angle a, angle b =>
    let (x, y, _) := Angle.common a b
    some (x.compare y)
  | time a, time b =>
    let (x, y) := Time.common a b
    some (x.compare y)
  | _, _ => none

/-- Whether adding a quantity changes nothing. -/
def isNothing : Quantity → Bool
  | length l => l.value.isZero
  | share x => x.isZero
  | _ => false

/-- How a quantity is written in a calculation, where also zero needs its unit. -/
def text : Quantity → String
  | length l => dimensionText l.value l.unit
  | share x => shareText x
  | angle a => a.text
  | time t => t.text

/-- The quantity that a part is, if it is of one of some kinds. -/
def ofPart? (kinds : List QuantityKind) : Part → Option Quantity
  | .token t =>
    let found : Option Quantity := match t.kind with
      | .dimension n unit =>
        ((Length.ofUnit? n.value unit).map .length) <|> ((Angle.ofUnit? n.value unit).map .angle)
          <|> ((Time.ofUnit? n.value unit).map .time)
      | .percentage n => some (.share n.value)
      | _ => none
    found.filter fun q => kinds.contains q.kind
  | .block .. => none

end Quantity

end Pagefold.Css
