import Pagefold.Css.Declaration.Background
import Pagefold.Css.Declaration.Border
import Pagefold.Css.Declaration.Image

/-!
# Shapes and masks

The shapes that an element is cut to, the paints of drawings, and the layers that an element is
seen through.
-/

/-!
## Shapes

The shapes that an element is cut to, and the paints of drawings. A radius or a place that is
usual is left out.
-/
namespace Pagefold.Css.Shape

/-- The boxes that a shape may be measured by. -/
def boxes : List String := Property.words
  ["border-box padding-box content-box margin-box fill-box stroke-box view-box"]

/-- A rectangle inside of a box, with the rounding of its corners. -/
def readInset : Reading String := do
  let offsets ← Border.readAround Border.readExtent
  match ← Reading.attempt (Reading.word "round") with
  | some () =>
    let (radius, _) ← Border.radius.read
    pure ("inset(" ++ offsets.text ++ (if radius = .word "0" then "" else " round " ++ radius.text)
      ++ ")")
  | none => pure ("inset(" ++ offsets.text ++ ")")

/-- A radius; the usual one reaches to the nearest side. -/
def readRadius : Reading String :=
  Reading.firstOf
    [return (← Extent.read).text, Reading.wordOf ["closest-side", "farthest-side"]]

/-- The middle of a shape with the word `at`, unless it is the middle of the box. -/
def readMiddle : Reading (Option String) := do
  match ← Reading.attempt (Reading.word "at") with
  | some () =>
    let (across, down) ← Place.readBoth
    pure (if across.isMiddle && down.isMiddle then none
      else some ("at " ++ Place.textOfBoth across down))
  | none => pure none

/-- A shape by its radii and its middle. -/
def roundText (name : String) (radii : List String) (middle : Option String) : String :=
  let radii := if radii.all (· = "closest-side") then [] else radii
  name ++ "(" ++ " ".intercalate (radii ++ middle.toList) ++ ")"

/-- A circle. -/
def readCircle : Reading String := do
  let radius := (← Reading.attempt readRadius).getD "closest-side"
  return roundText "circle" [radius] (← readMiddle)

/-- An ellipse. -/
def readEllipse : Reading String := do
  let radii ← Reading.attempt do
    let x ← readRadius
    return [x, ← readRadius]
  return roundText "ellipse" (radii.getD []) (← readMiddle)

/-- Points with lines between them. -/
def readPolygon : Reading String := do
  let rule ← Reading.attempt do
    let rule ← Reading.wordOf ["nonzero", "evenodd"]
    Reading.token .comma
    pure rule
  let point : Reading String := do
    let x ← Extent.read
    return x.text ++ " " ++ (← Extent.read).text
  let points ← Reading.commaSeparated point
  return "polygon(" ++ ",".intercalate ((rule.filter (· = "evenodd")).toList ++ points) ++ ")"

/-- A shape. -/
def read : Reading String := do
  let (name, content) ← Reading.call
  Reading.within content do
    match Text.lower name with
    | "inset" => readInset
    | "circle" => readCircle
    | "ellipse" => readEllipse
    | "polygon" => readPolygon
    | _ => Reading.refuse

/-- What an element is cut to: a drawing by its address, a shape, or a box. -/
def readClip : Reading Value := do
  let shaped : Reading Value := do
    match ← Reading.anyOrder [read, Reading.wordOf boxes] with
    | [some shape, some box] =>
      pure (.word (if box = "border-box" then shape else shape ++ " " ++ box))
    | [some shape, none] => pure (.word shape)
    | [none, some box] => pure (.word box)
    | _ => Reading.refuse
  Reading.firstOf [.keyword ["none"], return [.url (← Reading.link)], shaped]

/-! ### Drawings -/

/-- A paint of a drawing: none, one by its address with what is used where that is missing, a
colour, or the one of the surroundings. -/
def readPaint : Reading Value := do
  let color : Reading Value := return .word (← Paint.read).text
  let linked : Reading Value := do
    let link ← Reading.link
    match ← Reading.attempt (Reading.firstOf [.keyword ["none"], color]) with
    | some other => pure (.spaced [[.url link], other])
    | none => pure [.url link]
  Reading.firstOf [.keyword ["none", "context-fill", "context-stroke"], linked, color]

/-- A length as it is written in a drawing, where pixels need no unit. -/
def dashText : Extent → String
  | .length ⟨value, "px"⟩ => value.text
  | e => e.text

/-- The dashes of a line in a drawing, with blanks or commas between them. -/
def readDashes : Reading Value := do
  match ← Reading.attempt (Reading.word "none") with
  | some () => pure (.word "none")
  | none =>
    let first ← Extent.read
    let rest ← Reading.many
      (do
        let _ ← Reading.attempt (Reading.token .comma)
        Extent.read) (← get).length
    return .word (" ".intercalate ((first :: rest).map dashText))

/-- The marks at the points of a line in a drawing. -/
def readMarker : Reading Value :=
  Reading.firstOf [.keyword ["none"], return [.url (← Reading.link)]]

end Pagefold.Css.Shape

/-!
## Masks

The layers that an element is seen through. They are like the layers of a background, measured by
more boxes and put together in several ways.
-/
namespace Pagefold.Css

/-- One layer of a mask, with what is said about it. -/
structure MaskLayer where
  image : Option Value := none
  place : Option (Place × Place) := none
  size : Option String := none
  repeated : Option (String × String) := none
  origin : Option String := none
  clip : Option String := none
  composite : Option String := none
  mode : Option String := none

namespace MaskLayer

/-- The boxes that a layer may be cut off at. -/
def clips : List String := Shape.boxes ++ ["no-clip"]

/-- The ways in which layers are put together. -/
def composites : List String := ["add", "subtract", "intersect", "exclude"]

/-- What is seen of an image. -/
def modes : List String := ["luminance", "alpha", "match-source"]

/-- A reading for what is not said yet. -/
def vacant {α β : Type} (said : Option α) (r : Reading β) (put : β → MaskLayer) :
    Reading MaskLayer :=
  if said.isSome then Reading.refuse else return put (← r)

/-- One more part of a layer. -/
def step (l : MaskLayer) : Reading MaskLayer :=
  Reading.firstOf
    [vacant l.image Image.read ({ l with image := some · }),
     vacant l.place Layer.readPlace
      (fun (place, size) => { l with place := some place, size := size }),
     vacant l.repeated Layer.readRepeated ({ l with repeated := some · }),
     vacant l.origin (Reading.wordOf Shape.boxes) ({ l with origin := some · }),
     vacant l.clip (Reading.wordOf clips) ({ l with clip := some · }),
     vacant l.composite (Reading.wordOf composites) ({ l with composite := some · }),
     vacant l.mode (Reading.wordOf modes) ({ l with mode := some · })]

/-- Parts as long as there are any; no more than seven are possible. -/
def readFrom : Nat → MaskLayer → Reading MaskLayer
  | 0, l => pure l
  | n + 1, l => do
    match ← Reading.attempt l.step with
    | some l => readFrom n l
    | none => pure l

/-- How a layer is written. -/
def value (l : MaskLayer) : Value :=
  let part (said : Option String) (usual : String) : List String :=
    (said.filter (· ≠ usual)).toList
  let (across, down) := l.place.getD (.distance .zero, .distance .zero)
  let size := part l.size "auto"
  let place :=
    if across.isStart && down.isStart && size.isEmpty then []
    else ["/".intercalate (Place.textOfBoth across down :: size)]
  let repeated := (l.repeated.filter (· ≠ ("repeat", "repeat"))).map Layer.repeatedText
  let origin := l.origin.getD "border-box"
  let clip := (l.clip <|> l.origin).getD "border-box"
  let boxes :=
    if origin = "border-box" && clip = "border-box" then []
    else origin :: if clip = origin then [] else [clip]
  let words := place ++ repeated.toList ++ boxes ++ part l.composite "add" ++
    part l.mode "match-source"
  .spaced (l.image.getD (.word "none") :: words.map Value.word)

/-- The properties of a mask. -/
def properties : List String :=
  ["mask-image", "mask-position", "mask-size", "mask-repeat", "mask-clip", "mask-origin",
   "mask-composite", "mask-mode"]

/-- What is said about one layer, by the properties of a mask. -/
def said (l : MaskLayer) : List Value :=
  let (across, down) := l.place.getD (.distance .zero, .distance .zero)
  [l.image.getD (.word "none"), .word (Place.textOfBoth across down), .word (l.size.getD "auto"),
   .word ((l.repeated.map Layer.repeatedText).getD "repeat"),
   .word ((l.clip <|> l.origin).getD "border-box"), .word (l.origin.getD "border-box"),
   .word (l.composite.getD "add"), .word (l.mode.getD "match-source")]

/-- The layer that some values describe. -/
def ofSaid? : List Value → Option MaskLayer
  | [image, place, size, repeated, clip, origin, composite, mode] => do
    let parts (v : Value) : List Part := Part.list v.text.toList
    let place ← (Place.readBoth.whole (parts place)).toOption
    let r ← (Layer.readRepeated.whole (parts repeated)).toOption
    pure {
      image := some image
      place := some place
      size := some size.text
      repeated := some r
      origin := some origin.text
      clip := some clip.text
      composite := some composite.text
      mode := some mode.text }
  | _ => none

/-- The property for a mask in all its parts. -/
def shorthand : Shorthand :=
  .of "mask" properties
    (do
      let rows := (← Reading.commaSeparated (readFrom 7 {})).map said
      return (List.range properties.length).map fun n => rows.map fun row => (row[n]?).getD [])
    fun columns => do
      let images ← columns.head?
      if !columns.all (·.length == images.length) then none
      let layers ← (List.range images.length).mapM fun n =>
        ofSaid? (columns.map fun vs => (vs[n]?).getD [])
      pure (.listed (layers.map value))

/-- The reading for one thing that may be said about each layer, by the end of the name of the
property. -/
def detail? (name : String) : Option (Reading Value) :=
  match name with
  | "image" => some Image.read
  | "position" => some do
    let (across, down) ← Place.readBoth
    pure (.word (Place.textOfBoth across down))
  | "position-x" => some do return Layer.placeValue "left" "right" (← Place.readAcross)
  | "position-y" => some do return Layer.placeValue "top" "bottom" (← Place.readDown)
  | "size" => some (.valued Layer.readSize)
  | "repeat" => some do return .word (Layer.repeatedText (← Layer.readRepeated))
  | "clip" => some (.keyword clips)
  | "origin" => some (.keyword Shape.boxes)
  | "composite" => some (.keyword composites)
  | "mode" => some (.keyword modes)
  | "source-type" => some (.keyword ["auto", "luminance", "alpha"])
  | _ => none

end MaskLayer

end Pagefold.Css
