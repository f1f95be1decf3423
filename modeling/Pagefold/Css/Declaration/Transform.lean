import Pagefold.Css.Declaration.Image

/-!
# Transformations

How an element is moved, turned, scaled and slanted. A transformation is written in its shortest
form, with nothing between two of them.
-/
namespace Pagefold.Css

open Number (Single)

/-- A transformation. -/
inductive Transform where
  | translate (x y : Extent)
  | translateY (y : Extent)
  | translateZ (z : Extent)
  | translate3d (x y z : Extent)
  | scale (x y : Single)
  /-- A scale along one direction, one of `X`, `Y` and `Z`. -/
  | scaleAlong (axis : String) (x : Single)
  | scale3d (x y z : Single)
  /-- A turn round the given axis, one of `X`, `Y` and `Z`. -/
  | rotate (axis : String) (a : Angle)
  | rotate3d (x y z : Single) (a : Angle)
  | skew (x y : Angle)
  | skewY (y : Angle)
  | perspective (distance : Extent)
  | matrix (name : String) (entries : List Single)
  deriving Repr

namespace Transform

/-- A call with some arguments. -/
def callText (name : String) (arguments : List String) : String :=
  name ++ "(" ++ ",".intercalate arguments ++ ")"

/-- How a scale along two directions is written. -/
def scaleText (x y : Single) : String :=
  let isOne (c : Single) : Bool := c.same .one
  if isOne x && !isOne y then callText "scaleY" [y.text]
  else if !isOne x && isOne y then callText "scaleX" [x.text]
  else callText "scale" (x.text :: if x.same y then [] else [y.text])

/-- How a transformation is written. -/
def text : Transform → String
  | translate x y =>
    if x.isZero && !y.isZero then callText "translateY" [y.text]
    else callText "translate" (x.text :: if y.isZero then [] else [y.text])
  | translateY y => callText "translateY" [y.text]
  | translateZ z => callText "translateZ" [z.text]
  | translate3d x y z =>
    match x.isZero, y.isZero, z.isZero with
    | false, true, true => callText "translate" [x.text]
    | true, false, true => callText "translateY" [y.text]
    | true, true, false => callText "translateZ" [z.text]
    | _, _, true => callText "translate" [x.text, y.text]
    | _, _, false => callText "translate3d" [x.text, y.text, z.text]
  | scale x y => scaleText x y
  | scaleAlong axis x => callText ("scale" ++ axis) [x.text]
  | scale3d x y z =>
    let isOne (c : Single) : Bool := c.same .one
    if isOne z && x.same y then callText "scale" [x.text]
    else if isOne z then
      if isOne x || isOne y then scaleText x y else callText "scale" [x.text, y.text]
    else if isOne x && isOne y then callText "scaleZ" [z.text]
    else callText "scale3d" [x.text, y.text, z.text]
  | rotate axis a => callText (if axis = "Z" then "rotate" else "rotate" ++ axis) [a.shortText]
  | rotate3d x y z a =>
    match x.same .one, y.same .one, z.same .one, x.isZero, y.isZero, z.isZero with
    | true, _, _, _, true, true => callText "rotateX" [a.shortText]
    | _, true, _, true, _, true => callText "rotateY" [a.shortText]
    | _, _, true, true, true, _ => callText "rotate" [a.shortText]
    | _, _, _, _, _, _ => callText "rotate3d" [x.text, y.text, z.text, a.shortText]
  | skew x y =>
    if x.value.isZero && !y.value.isZero then callText "skewY" [y.shortText]
    else callText "skew" (x.shortText :: if y.value.isZero then [] else [y.shortText])
  | skewY y => callText "skewY" [y.shortText]
  | perspective distance => callText "perspective" [distance.text]
  | matrix name entries => callText name (entries.map Single.text)

/-- What follows a comma, or the given value without one. -/
def after {α : Type} (r : Reading α) (usual : α) : Reading α := do
  match ← Reading.attempt (Reading.token .comma) with
  | some () => r
  | none => pure usual

/-- What follows a comma. -/
def next {α : Type} (r : Reading α) : Reading α := do
  Reading.token .comma
  r

/-- The given number of numbers between commas. -/
def readNumbers : Nat → Reading (List Single)
  | 0 => pure []
  | 1 => return [← Reading.number]
  | n + 1 => do
    let x ← Reading.number
    return x :: (← next (readNumbers n))

/-- The arguments of a transformation by its name in small letters. -/
def readArguments (name : String) : Reading Transform := do
  let extent : Reading Extent := Extent.read
  let number : Reading Single := Reading.fraction
  let angle : Reading Angle := Angle.readOrZero
  match name with
  | "translate" =>
    let x ← extent
    return translate x (← after extent .zero)
  | "translatex" => return translate (← extent) .zero
  | "translatey" => return translateY (← extent)
  | "translatez" => return translateZ (← Extent.readLength)
  | "translate3d" =>
    let x ← extent
    let y ← next extent
    return translate3d x y (← next Extent.readLength)
  | "scale" =>
    let x ← number
    return scale x (← after number x)
  | "scalex" => return scaleAlong "X" (← number)
  | "scaley" => return scaleAlong "Y" (← number)
  | "scalez" => return scaleAlong "Z" (← number)
  | "scale3d" =>
    let x ← number
    let y ← next number
    return scale3d x y (← next number)
  | "rotate" | "rotatez" => return rotate "Z" (← angle)
  | "rotatex" => return rotate "X" (← angle)
  | "rotatey" => return rotate "Y" (← angle)
  | "rotate3d" =>
    let x ← Reading.number
    let y ← next Reading.number
    let z ← next Reading.number
    return rotate3d x y z (← next angle)
  | "skew" =>
    let x ← angle
    return skew x (← after angle .zero)
  | "skewx" => return skew (← angle) .zero
  | "skewy" => return skewY (← angle)
  | "perspective" => return perspective (← Extent.readLength)
  | "matrix" => return matrix name (← readNumbers 6)
  | "matrix3d" => return matrix name (← readNumbers 16)
  | _ => Reading.refuse

/-- A transformation. -/
def read : Reading Transform := do
  let (name, content) ← Reading.call
  Reading.within content (readArguments (Text.lower name))

/-- Transformations one after the other; an empty list is none. -/
def readList : Reading Value := do
  match ← Reading.attempt (Reading.word "none") with
  | some () => pure (.word "none")
  | none =>
    let list ← Reading.many read (← get).length
    pure (if list.isEmpty then .word "none" else .word ("".intercalate (list.map text)))

/-! ## One kind of transformation -/

/-- A move of an element with up to three distances, and how it is written among others. -/
def readTranslate : Reading (Value × Transform) := do
  match ← Reading.attempt (Reading.word "none") with
  | some () => pure (.word "none", translate3d .zero .zero .zero)
  | none =>
    let x ← Extent.read
    let y ← Reading.attempt Extent.read
    let z ← if y.isSome then Reading.attempt Extent.readLength else pure none
    let y := y.getD .zero
    let z := z.getD .zero
    let more := if z.isZero then if y.isZero then [] else [y.text] else [y.text, z.text]
    return (.word (" ".intercalate (x.text :: more)), translate3d x y z)

/-- An axis, as its three components and how it is written. -/
def readAxis : Reading ((Single × Single × Single) × String) := do
  let o : Single := .zero
  match ← Reading.attempt (Reading.wordOf ["x", "y", "z"]) with
  | some "x" => pure ((.one, o, o), "x ")
  | some "y" => pure ((o, .one, o), "y ")
  | some _ => pure ((o, o, .one), "")
  | none =>
    let x ← Reading.number
    let y ← Reading.number
    let z ← Reading.number
    let written :=
      if x.same .one && y.isZero && z.isZero then "x "
      else if x.isZero && y.same .one && z.isZero then "y "
      else if x.isZero && y.isZero && z.same .one then ""
      else " ".intercalate [x.text, y.text, z.text, ""]
    pure ((x, y, z), written)

/-- A turn of an element, and how it is written among others. -/
def readRotate : Reading (Value × Transform) := do
  match ← Reading.attempt (Reading.word "none") with
  | some () => pure (.word "none", rotate3d .zero .zero .one .zero)
  | none =>
    let early ← Reading.attempt Angle.read
    let ((x, y, z), axis) := (← Reading.attempt readAxis).getD ((.zero, .zero, .one), "")
    let a ← match early with
      | some a => pure a
      | none => Angle.read
    let written := if axis = "" && a.value.isZero then "none" else axis ++ a.text
    pure (.word written, rotate3d x y z a)

/-- A scale of an element, and how it is written among others. -/
def readScale : Reading (Value × Transform) := do
  match ← Reading.attempt (Reading.word "none") with
  | some () => pure (.word "none", scale3d .one .one .one)
  | none =>
    let x ← Reading.fraction
    let y ← Reading.attempt Reading.fraction
    let z ← if y.isSome then Reading.attempt Reading.fraction else pure none
    let y := y.getD x
    let z := z.getD .one
    let more :=
      if z.same .one then if x.same y then [] else [y.text] else [y.text, z.text]
    return (.word (" ".intercalate (x.text :: more)), scale3d x y z)

/-- The properties for one kind of transformation. -/
def single? (name : String) : Option (Reading (Value × Transform)) :=
  match name with
  | "translate" => some readTranslate
  | "rotate" => some readRotate
  | "scale" => some readScale
  | _ => none

end Transform

end Pagefold.Css
