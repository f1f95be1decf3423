import Pagefold.Css.Value

/-!
# Places and images

Where something stands in a box, and what is drawn there: images by their addresses, gradients and
sets of images.
-/
namespace Pagefold.Css

/-!
## Places

Where something stands in a box: along both directions, or along one of them. A place is written
as a distance from the start where it is one.
-/

/-- Where an image stands along one direction: in the middle, at a distance from the start, or
at a side and a distance from it. `isEnd` tells that the side is the right or the lower one. -/
inductive Place where
  | middle
  | distance (e : Extent)
  | side (isEnd : Bool) (offset : Option Extent)
  deriving Repr

namespace Place

/-- One of the two sides along a direction. -/
def readSide (start stop : String) : Reading Bool := do
  return (← Reading.wordOf [start, stop]) = stop

/-- A place along a direction. -/
def read (start stop : String) : Reading Place :=
  Reading.firstOf
    [do Reading.word "center"; pure middle, return distance (← Extent.read),
     do
      let isEnd ← readSide start stop
      return side isEnd (← Reading.attempt Extent.read)]

/-- A place from the left to the right. -/
def readAcross : Reading Place := read "left" "right"

/-- A place from the top to the bottom. -/
def readDown : Reading Place := read "top" "bottom"

/-- What follows a side from left to right with its offset: without a place from top to bottom
the offset is such a place. -/
def readAfterSide (isEnd : Bool) (offset : Option Extent) : Reading (Place × Place) := do
  match ← Reading.attempt (Reading.word "center") with
  | some () => pure (side isEnd offset, middle)
  | none =>
    match ← Reading.attempt (readSide "top" "bottom") with
    | some down => return (side isEnd offset, side down (← Reading.attempt Extent.read))
    | none => pure (side isEnd none, (offset.map distance).getD middle)

/-- A place from left to right behind a side from top to bottom. -/
def readLate : Reading (Option Extent × Place) := do
  let offset ← Reading.attempt Extent.read
  match ← Reading.attempt (readSide "left" "right") with
  | some isEnd => return (offset, side isEnd (← Reading.attempt Extent.read))
  | none => do
    Reading.word "center"
    pure (offset, middle)

/-- The places along both directions, in either order. -/
def readBoth : Reading (Place × Place) := do
  match ← Reading.attempt readAcross with
  | some middle =>
    match ← Reading.attempt readDown with
    | some down => pure (middle, down)
    | none => return ((← Reading.attempt readAcross).getD middle, middle)
  | some (distance e) =>
    match ← Reading.attempt (readSide "top" "bottom") with
    | some down => pure (distance e, side down none)
    | none =>
      match ← Reading.attempt Extent.read with
      | some f => pure (distance e, distance f)
      | none => do
        let _ ← Reading.attempt (Reading.word "center")
        pure (distance e, middle)
  | some (side isEnd offset) => readAfterSide isEnd offset
  | none => do
    let down ← readSide "top" "bottom"
    match ← Reading.attempt readLate with
    | some (offset, across) => pure (across, side down offset)
    | none => pure (middle, side down none)

/-- One half, as a share. -/
def half : Extent := .share (.ofRatio false 1 2)

/-- The distance from the start that a place is, if it is one. -/
def fromStart? : Place → Option Extent
  | middle => some half
  | distance e => some e
  | side false offset => some (offset.getD .zero)
  | side true none => some (.share (.ofNat 1))
  | side true (some _) => none

/-- Whether a place is the middle. -/
def isMiddle (p : Place) : Bool := p.fromStart?.any half.same

/-- Whether a place is at the start. -/
def isStart (p : Place) : Bool := p.fromStart?.any Extent.isZero

/-- How a place is written that has to name its side. -/
def textWithSide (start stop : String) : Place → String
  | middle => "center"
  | distance e => start ++ " " ++ e.text
  | side isEnd offset =>
    (if isEnd then stop else start) ++ (offset.map fun e => " " ++ e.text).getD ""

/-- How the places along both directions are written: as distances where that is possible, and
without the second one if it is the middle. -/
def textOfBoth (across down : Place) : String :=
  match across.fromStart?, down.fromStart? with
  | some x, some y =>
    let brief (e : Extent) : String := if e.isZero then "0" else e.text
    match down with
    | side _ none =>
      if across.isMiddle then down.textWithSide "top" "bottom" else brief x ++ " " ++ brief y
    | _ => if down.isMiddle then brief x else brief x ++ " " ++ brief y
  | _, _ =>
    let middleOr (p : Place) (written : String) : String := if p.isMiddle then "center" else written
    middleOr across (across.textWithSide "left" "right") ++ " " ++
      middleOr down (down.textWithSide "top" "bottom")

end Place

/-!
## Images

Images by their addresses, gradients and sets of images. A gradient is written without what
follows from the rest of it: the usual direction, hints in the middle, the usual shape. A gradient
that runs upwards is turned round if its stops are shares.
-/

open Number (Single)

/-- A stop of a gradient, or a hint where the middle between two stops is. -/
inductive GradientItem where
  | hint (place : Extent)
  | stop (color : Paint) (place : Option Extent)

namespace GradientItem

/-- How a stop or a hint is written. -/
def text : GradientItem → String
  | hint place => place.text
  | stop color place => color.text ++ (place.map (" " ++ ·.text)).getD ""

/-- A hint that says what holds without it. -/
def isUseless : GradientItem → Bool
  | hint place => place.same (.share (.ofRatio false 1 2))
  | stop .. => false

/-- A place seen from the other end of the gradient, if it is a share. -/
def flippedPlace? : Extent → Option Extent
  | .share f => some (.share (Single.one.sub f))
  | _ => none

/-- An item seen from the other end of the gradient, if its place is a share. -/
def flipped? : GradientItem → Option GradientItem
  | hint place => (flippedPlace? place).map hint
  | stop color none => some (stop color none)
  | stop color (some place) => (flippedPlace? place).map fun p => stop color (some p)

/-- The items between two commas. A hint stands only behind a stop, and a stop with two places
is two stops. -/
def readGroup (place : Reading Extent) (behindStop : Bool) : Reading (List GradientItem) := do
  let lone ← if behindStop then Reading.attempt (do
      let p ← place
      Reading.finish
      pure p) else pure none
  match lone with
  | some p => pure [hint p]
  | none =>
    let color ← Paint.read
    match ← Reading.attempt place with
    | none => pure [stop color none]
    | some first =>
      match ← Reading.attempt place with
      | none => pure [stop color (some first)]
      | some second => pure [stop color (some first), stop color (some second)]

/-- The items between the commas that are left. -/
def readGroups (place : Reading Extent) : Bool → List (List Part) → Reading (List GradientItem)
  | _, [] => pure []
  | behindStop, group :: rest => do
    let items ← Reading.within group (readGroup place behindStop)
    let isHint := items.any fun
      | hint _ => true
      | stop .. => false
    return items ++ (← readGroups place (!isHint) rest)

/-- The items of a gradient. -/
def readAll (place : Reading Extent) : Reading (List GradientItem) := do
  readGroups place false (Part.commaLists (← Reading.takeAll))

/-- How the items after an item are written. Two stops of one colour are written as one with two
places. `open?` is the colour of a stop that may get a second place. -/
def textsAfter : Option Paint → List GradientItem → String
  | _, [] => ""
  | last, item :: rest =>
    match last, item with
    | some c, stop d (some p) =>
      if c = d then " " ++ p.text ++ textsAfter none rest
      else "," ++ item.text ++ textsAfter (some d) rest
    | _, stop d place =>
      "," ++ item.text ++ textsAfter (if place.isSome then some d else none) rest
    | _, hint _ => "," ++ item.text ++ textsAfter none rest

/-- How the items of a gradient are written. -/
def textOfAll (items : List GradientItem) : String :=
  String.ofList ((textsAfter none (items.filter (!·.isUseless))).toList.drop 1)

end GradientItem

namespace Gradient

/-- The direction of a gradient along a line. -/
inductive Direction where
  | angle (a : Angle)
  | across (toRight : Bool)
  | down (toBottom : Bool)
  | corner (toRight toBottom : Bool)

/-- A direction. The word in front of a side is missing in the older form. -/
def readDirection (older : Bool) : Reading Direction := do
  match ← Reading.attempt Angle.readOrZero with
  | some a => pure (.angle a)
  | none =>
    if !older then Reading.word "to"
    match ← Reading.attempt (Place.readSide "left" "right") with
    | some right =>
      match ← Reading.attempt (Place.readSide "top" "bottom") with
      | some bottom => pure (.corner right bottom)
      | none => pure (.across right)
    | none =>
      let bottom ← Place.readSide "top" "bottom"
      match ← Reading.attempt (Place.readSide "left" "right") with
      | some right => pure (.corner right bottom)
      | none => pure (.down bottom)

/-- How a direction is written. -/
def directionText (older : Bool) : Direction → String
  | .angle a => a.text
  | .across toRight => if toRight then "90deg" else "270deg"
  | .down toBottom => if toBottom then "180deg" else "0deg"
  | .corner toRight toBottom =>
    (if older then "" else "to ") ++ (if toBottom then "bottom" else "top") ++ " " ++
      (if toRight then "right" else "left")

/-- The angle of a direction that is straight up or down, or given as one. -/
def degrees? : Direction → Option Single
  | .angle a => some a.degrees
  | .down toBottom => some (if toBottom then .ofNat 180 else .zero)
  | _ => none

/-- The arguments of a gradient along a line. -/
def readLinear (older : Bool) : Reading String := do
  let direction ← Reading.attempt do
    let d ← readDirection older
    Reading.token .comma
    pure d
  let items ← GradientItem.readAll Extent.read
  let written := GradientItem.textOfAll items
  match direction with
  | none => pure written
  | some d =>
    let full := directionText older d ++ "," ++ written
    match degrees? d with
    | none => pure full
    | some angle =>
      if angle.same (.ofNat 180) then pure written
      else if angle.isZero then
        match items.reverse.mapM GradientItem.flipped? with
        | some flipped => pure (GradientItem.textOfAll flipped)
        | none => pure full
      else pure full

/-- The words for how far a gradient around a point reaches. -/
def reaches : List String := ["closest-side", "farthest-side", "closest-corner", "farthest-corner"]

/-- An ellipse, as it is written; the usual one needs not be. -/
def readEllipse : Reading String := do
  let sizes : Reading String := do
    let x ← Extent.read
    return x.text ++ " " ++ (← Extent.read).text
  let reach : Reading String := do
    let word ← Reading.wordOf reaches
    pure (if word = "farthest-corner" then "" else word)
  match ← Reading.attempt (Reading.firstOf [reach, sizes]) with
  | some written =>
    if (← Reading.attempt (Reading.word "circle")).isSome then Reading.refuse
    let _ ← Reading.attempt (Reading.word "ellipse")
    pure written
  | none =>
    Reading.word "ellipse"
    return (← Reading.attempt (Reading.firstOf [reach, sizes])).getD ""

/-- A circle, as it is written. -/
def readCircle : Reading String := do
  let circle (reach : String) : String :=
    if reach = "farthest-corner" then "circle" else "circle " ++ reach
  match ← Reading.attempt (Reading.wordOf reaches) with
  | some reach =>
    Reading.word "circle"
    pure (circle reach)
  | none =>
    match ← Reading.attempt Extent.readLength with
    | some radius =>
      let _ ← Reading.attempt (Reading.word "circle")
      pure radius.text
    | none =>
      Reading.word "circle"
      match ← Reading.attempt (Reading.wordOf reaches) with
      | some reach => pure (circle reach)
      | none => return ((← Reading.attempt Extent.readLength).map Extent.text).getD "circle"

/-- The word `at` and a place; the place in the middle needs not be written. -/
def readAt : Reading String := do
  Reading.word "at"
  let (across, down) ← Place.readBoth
  if across.isMiddle && down.isMiddle then pure ""
  else return "at " ++ Place.textOfBoth across down

/-- What stands in front of the items of a gradient: two things that may be missing. -/
def readFront (first second : Reading String) : Reading String := do
  let a ← Reading.attempt first
  let b ← Reading.attempt second
  if a.isSome || b.isSome then Reading.token .comma
  match (a.toList ++ b.toList).filter (· ≠ "") with
  | [] => pure ""
  | texts => return " ".intercalate texts ++ ","

/-- The arguments of a gradient around a point. -/
def readRadial : Reading String := do
  let front ← readFront (Reading.firstOf [readEllipse, readCircle]) readAt
  return front ++ GradientItem.textOfAll (← GradientItem.readAll Extent.read)

/-- An angle or a share of a full turn. -/
def readTurn : Reading Extent := do
  match ← Reading.attempt Angle.read with
  | some a => return .calculated (.value (.angle a))
  | none => return .share (← Reading.percentage)

/-- The arguments of a gradient that turns round a point. -/
def readConic : Reading String := do
  let start : Reading String := do
    Reading.word "from"
    let a ← Angle.readOrZero
    if a.value.isZero then pure "" else return "from " ++ a.text
  let front ← readFront start readAt
  return front ++ GradientItem.textOfAll (← GradientItem.readAll readTurn)

/-- One coordinate of a point in the oldest form of gradients. -/
def readCoordinate (start stop : String) : Reading String :=
  Reading.firstOf
    [do Reading.word "center"; pure "50%", return (← Reading.number).text,
     do
      let share ← Reading.percentage
      pure (if share.isZero then "0" else shareText share),
     return if ← Place.readSide start stop then "100%" else "0"]

/-- A stop in the oldest form of gradients. -/
def readOldStop : Reading String := do
  let (name, content) ← Reading.call
  let color : Reading String := return (← Paint.read).text
  let ending (position : Single) (color : String) : String :=
    if position.isZero then "from(" ++ color ++ ")"
    else if position.same .one then "to(" ++ color ++ ")"
    else "color-stop(" ++ position.text ++ "," ++ color ++ ")"
  Reading.within content do
    match Text.lower name with
    | "from" => return ending .zero (← color)
    | "to" => return ending .one (← color)
    | "color-stop" =>
      let position ← Reading.fraction
      Reading.token .comma
      return ending position (← color)
    | _ => Reading.refuse

/-- The arguments of a gradient in the oldest form. -/
def readOldest : Reading String := do
  let point : Reading String := do
    let x ← readCoordinate "left" "right"
    let y ← readCoordinate "top" "bottom"
    Reading.token .comma
    pure (x ++ " " ++ y)
  let radius : Reading String := do
    let r ← Reading.number
    Reading.token .comma
    pure r.text
  let kind ← Reading.wordOf ["linear", "radial"]
  Reading.token .comma
  let line ←
    if kind = "linear" then do
      let start ← point
      pure [start, ← point]
    else do
      let start ← point
      let inner ← radius
      let stop ← point
      pure [start, inner, stop, ← radius]
  return ",".intercalate (kind :: line ++ (← Reading.commaSeparated readOldStop))

/-- The marks that a gradient may carry. -/
def marks : List String := ["-webkit-", "-moz-", "-o-"]

/-- The arguments of a gradient by its name in small letters. -/
def arguments? (name : String) : Option (Reading String) :=
  let mark := (marks.find? fun mark => name.startsWith mark).getD ""
  match String.ofList (name.toList.drop mark.length) with
  | "linear-gradient" | "repeating-linear-gradient" => some (readLinear (mark ≠ ""))
  | "radial-gradient" | "repeating-radial-gradient" => some readRadial
  | "conic-gradient" | "repeating-conic-gradient" => if mark = "" then some readConic else none
  | "gradient" => if mark = "-webkit-" then some readOldest else none
  | _ => none

/-- A gradient. -/
def read : Reading Value := do
  let (name, content) ← Reading.call
  let small := Text.lower name
  let r ← Reading.orRefuse (arguments? small)
  return .word (small ++ "(" ++ (← Reading.within content r) ++ ")")

end Gradient

namespace Image

/-- The kind of file of an image in a set. -/
def readKind : Reading String := do
  return "type(" ++ Literal.quoted (← Reading.within (← Reading.callOf "type") Reading.quoted) ++ ")"

/-- What distinguishes an image in a set: its resolution, which is one if it is not given, and
the kind of its file. -/
def readVersion : Reading String := do
  match ← Reading.attempt readResolution with
  | some resolution =>
    let kind ← Reading.attempt readKind
    return " ".intercalate (resolution :: kind.toList)
  | none =>
    let kind ← Reading.attempt readKind
    let resolution := (← Reading.attempt readResolution).getD "1x"
    return " ".intercalate (resolution :: kind.toList)

/-- A set of images, of which one image is read by `image`. Its addresses are not those of files
that belong to a page. -/
def readSet (image : Reading Value) : Reading Value := do
  let (name, content) ← Reading.call
  let small := Text.lower name
  if !(["image-set", "-webkit-image-set"].contains small) then Reading.refuse
  let version : Reading Value := do
    let shown ← Reading.firstOf
      [do
        let link ← Reading.linkOrQuoted
        pure (.word (if small = "image-set" then Literal.quoted link else Literal.url link)),
       image]
    return shown ++ [.text (" " ++ (← readVersion))]
  let versions ← Reading.within content (Reading.commaSeparated version)
  return .text (small ++ "(") :: Value.listed versions ++ [.text ")"]

/-- An image with sets of images up to a depth. -/
def readUpTo : Nat → Reading Value
  | 0 => Reading.refuse
  | n + 1 =>
    Reading.firstOf
      [do Reading.word "none"; pure (.word "none"), return [.url (← Reading.link)],
       Gradient.read, readSet (readUpTo n)]

/-- An image, or none. -/
def read : Reading Value := do
  let some p := (Part.skipSpace (← get)).head? | throw .ended
  readUpTo p.size

/-- A list of images. -/
def readList : Reading (List Value) := Reading.commaSeparated read

/-- Whether an image is written in the older form of one engine. -/
def isMarked (v : Value) : Bool := Gradient.marks.any fun mark => v.text.startsWith mark

end Image

end Pagefold.Css
