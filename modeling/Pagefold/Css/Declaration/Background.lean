import Pagefold.Css.Declaration
import Pagefold.Css.Declaration.Box
import Pagefold.Css.Declaration.Image

/-!
# Backgrounds

The layers that are painted behind an element. The parts of a layer may come in any order and are
written in a fixed one, without those that are usual.
-/
namespace Pagefold.Css

/-- One layer of a background, with what is said about it. Words are in small letters. -/
structure Layer where
  color : Option Paint := none
  place : Option (Place × Place) := none
  /-- The size, as it is written. -/
  size : Option String := none
  image : Option Value := none
  /-- How the image is repeated across and down. -/
  repeated : Option (String × String) := none
  attachment : Option String := none
  origin : Option String := none
  clip : Option String := none

namespace Layer

/-- The size of an image, as it is written. -/
def readSize : Reading String :=
  Reading.firstOf
    [Reading.wordOf ["cover", "contain"],
     do
      let width ← Box.readExtentOrAuto
      match ← Reading.attempt Box.readExtentOrAuto with
      | some (some height) => return Box.extentText width ++ " " ++ height.text
      | _ => return Box.extentText width]

/-- How an image is repeated. -/
def readRepeated : Reading (String × String) := do
  let words := ["repeat", "space", "round", "no-repeat"]
  match ← Reading.wordOf ("repeat-x" :: "repeat-y" :: words) with
  | "repeat-x" => pure ("repeat", "no-repeat")
  | "repeat-y" => pure ("no-repeat", "repeat")
  | across => return (across, (← Reading.attempt (Reading.wordOf words)).getD across)

/-- How the way in which an image is repeated is written. -/
def repeatedText : String × String → String
  | ("repeat", "no-repeat") => "repeat-x"
  | ("no-repeat", "repeat") => "repeat-y"
  | (across, down) => if across = down then across else across ++ " " ++ down

/-- The boxes that an image may be placed in. -/
def boxes : List String := ["border-box", "padding-box", "content-box"]

/-- A place, and the size that may follow it. -/
def readPlace : Reading ((Place × Place) × Option String) := do
  let place ← Place.readBoth
  return (place, ← Reading.attempt (do Reading.delim '/'; readSize))

/-- A reading for what is not said yet. -/
def vacant {α β : Type} (said : Option α) (r : Reading β) (put : β → Layer) : Reading Layer :=
  if said.isSome then Reading.refuse else return put (← r)

/-- One more part of a layer. -/
def step (l : Layer) : Reading Layer :=
  Reading.firstOf
    [vacant l.color Paint.read ({ l with color := some · }),
     vacant l.place readPlace (fun (place, size) => { l with place := some place, size := size }),
     vacant l.image Image.read ({ l with image := some · }),
     vacant l.repeated readRepeated ({ l with repeated := some · }),
     vacant l.attachment (Reading.wordOf ["scroll", "fixed", "local"])
      ({ l with attachment := some · }),
     vacant l.origin (Reading.wordOf boxes) ({ l with origin := some · }),
     vacant l.clip (Reading.wordOf (boxes ++ ["border", "text"])) ({ l with clip := some · })]

/-- Parts as long as there are any; no more than seven are possible. -/
def readFrom : Nat → Layer → Reading Layer
  | 0, l => pure l
  | n + 1, l => do
    match ← Reading.attempt l.step with
    | some l => readFrom n l
    | none => pure l

/-- The place and the size of the image, where one of them is not the usual one. -/
def placeText (l : Layer) : List String :=
  let (across, down) := l.place.getD (.distance .zero, .distance .zero)
  let size := l.size.filter (· ≠ "auto")
  if across.isStart && down.isStart && size.isNone then []
  else [Place.textOfBoth across down ++ (size.map ("/" ++ ·)).getD ""]

/-- The boxes that the image is placed in and cut off at. -/
def boxTexts (l : Layer) : List String :=
  let origin := l.origin.getD "padding-box"
  let clip := (l.clip <|> l.origin).getD "border-box"
  let originNeeded := origin ≠ "padding-box" || (clip ≠ "border-box" && boxes.contains clip)
  (if originNeeded then [origin] else []) ++
    (if (originNeeded && clip ≠ origin) || clip ≠ "border-box" then [clip] else [])

/-- How a layer is written. One that is usual in all its parts is the place of an image. -/
def value (l : Layer) : Value :=
  let words (texts : List String) : List Value := texts.map Value.word
  let color := (l.color.filter (· ≠ .transparent)).map Paint.text
  let image := l.image.filter (· ≠ .word "none")
  let repeated := (l.repeated.filter (· ≠ ("repeat", "repeat"))).map repeatedText
  let attachment := l.attachment.filter (· ≠ "scroll")
  let parts := words color.toList ++ image.toList ++ words l.placeText ++
    words (repeated.toList ++ attachment.toList ++ l.boxTexts)
  if parts.isEmpty then .word "0 0" else .spaced parts

/-- The layers of a background. -/
def readLayers : Reading (List Layer) := Reading.commaSeparated (readFrom 7 {})

/-- A place in full, from which it can be read again. -/
def placeValue (start stop : String) : Place → Value
  | .middle => .word "50%"
  | .distance e => .word e.text
  | p => .word (p.textWithSide start stop)

/-- The properties of a background. -/
def properties : List String :=
  ["background-color", "background-image", "background-position-x", "background-position-y",
   "background-repeat", "background-size", "background-attachment", "background-origin",
   "background-clip"]

/-- What is said about one layer, by the properties of a background but its colour. -/
def said (l : Layer) : List Value :=
  let (across, down) := l.place.getD (.distance .zero, .distance .zero)
  let origin := l.origin.getD "padding-box"
  [l.image.getD (.word "none"), placeValue "left" "right" across, placeValue "top" "bottom" down,
   .word ((l.repeated.map repeatedText).getD "repeat"), .word (l.size.getD "auto"),
   .word (l.attachment.getD "scroll"), .word origin,
   .word ((l.clip <|> l.origin).getD "border-box")]

/-- The layer that some values describe. The colour is given for the last layer alone. -/
def ofSaid? (color : Option Paint) : List Value → Option Layer
  | [image, across, down, repeated, size, attachment, origin, clip] => do
    let parts (v : Value) : List Part := Part.list v.text.toList
    let x ← (Place.readAcross.whole (parts across)).toOption
    let y ← (Place.readDown.whole (parts down)).toOption
    let r ← (readRepeated.whole (parts repeated)).toOption
    pure {
      color
      place := some (x, y)
      size := some size.text
      image := some image
      repeated := some r
      attachment := some attachment.text
      origin := some origin.text
      clip := some clip.text }
  | _ => none

/-- The layers that lists of values describe, if the lists are of one length. -/
def ofAllSaid? : List (List Value) → Option (List Layer)
  | [color] :: images :: rest => do
    let paint ← (Paint.read.whole (Part.list color.text.toList)).toOption
    if !rest.all (·.length == images.length) then none
    let rows := images.zipIdx.map fun (image, n) => image :: rest.map fun vs => (vs[n]?).getD []
    rows.zipIdx.mapM fun (row, n) => ofSaid? (if n + 1 = images.length then some paint else none) row
  | _ => none

/-- The property for a background in all its parts. -/
def shorthand : Shorthand :=
  .of "background" properties
    (do
      let layers ← readLayers
      let color := ((layers.getLast?.bind (·.color)).getD .transparent).text
      let rows := layers.map said
      let column (n : Nat) : List Value := rows.map fun row => (row[n]?).getD []
      return [.word color] :: (List.range 8).map column)
    fun said => do
      let layers ← ofAllSaid? said
      return .listed (layers.map value)

/-- The property for both places of each layer. -/
def position : Shorthand :=
  .of "background-position" ["background-position-x", "background-position-y"]
    (do
      let places ← Reading.commaSeparated Place.readBoth
      return [places.map fun (x, _) => placeValue "left" "right" x,
        places.map fun (_, y) => placeValue "top" "bottom" y])
    fun
    | [across, down] => do
      if across.length ≠ down.length then none
      let places ← (across.zip down).mapM fun (x, y) => do
        let x ← (Place.readAcross.whole (Part.list x.text.toList)).toOption
        let y ← (Place.readDown.whole (Part.list y.text.toList)).toOption
        pure (Value.word (Place.textOfBoth x y))
      pure (.listed places)
    | _ => none

/-- The reading for one thing that may be said about each layer, by the end of the name of the
property. -/
def detail? (name : String) : Option (Reading Value) :=
  match name with
  | "position-x" => some do return placeValue "left" "right" (← Place.readAcross)
  | "position-y" => some do return placeValue "top" "bottom" (← Place.readDown)
  | "size" => some (.valued readSize)
  | "repeat" => some do return .word (repeatedText (← readRepeated))
  | "attachment" => some (.keyword ["scroll", "fixed", "local"])
  | "origin" => some (.keyword boxes)
  | "clip" => some (.keyword (boxes ++ ["border", "text"]))
  | "image" => some Image.read
  | _ => none

end Layer

end Pagefold.Css
