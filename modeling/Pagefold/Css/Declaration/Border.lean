import Pagefold.Css.Declaration.Box
import Pagefold.Css.Declaration.Image
import Pagefold.Css.Declaration.Property

/-!
# Borders and outlines

The lines around a box: their widths, styles and colours, alone and together, the rounding of
corners and the images that stand for lines.
-/
namespace Pagefold.Css

namespace Border

/-- The styles of lines. -/
def styles : List String := Property.words
  ["none hidden inset groove outset ridge dotted dashed solid double"]

/-- A style of a line. -/
def readStyle : Reading Value := .keyword styles

/-- A style of an outline. -/
def readOutlineStyle : Reading Value := .keyword ("auto" :: styles)

/-- A width of a line. -/
def readWidth : Reading Value :=
  Reading.firstOf
    [.keyword ["thin", "medium", "thick"], return .word (← Extent.readLength).text]

/-- A colour. -/
def readColor : Reading Value := return .word (← Paint.read).text

/-- The usual colour of a line. -/
def usualColor : Value := .word (Paint.text .current)

/-- The width, the style and the colour of a line, by the start of the names of its properties. -/
def slots (start : String) (style : Reading Value) : List Shorthand.Slot :=
  [⟨start ++ "-width", readWidth, .word "medium"⟩, ⟨start ++ "-style", style, .word "none"⟩,
   ⟨start ++ "-color", readColor, usualColor⟩]

/-- The line along one side of a box. -/
def line (name : String) : Shorthand := .ofSlots name (name ++ "-style") (slots name readStyle)

/-- The line around a box outside of its border. -/
def outline : Shorthand := .ofSlots "outline" "outline-style" (slots "outline" readOutlineStyle)

/-- The four sides of a box. -/
def sides : List String := ["top", "right", "bottom", "left"]

/-- The two directions of a text, with the sides along each of them. -/
def flows : List (String × List String) :=
  [("block", ["block-start", "block-end"]), ("inline", ["inline-start", "inline-end"])]

/-- The three things about a line that have properties of their own. -/
def traits : List (String × Reading Value) :=
  [("width", readWidth), ("style", readStyle), ("color", readColor)]

/-- The name of a property about a side, or about one thing of it. -/
def named (side trait : String) : String := "border-" ++ side ++ "-" ++ trait

/-- The properties that speak of one thing on all four sides. -/
def ofAllSides : List Shorthand :=
  traits.map fun (trait, r) => .ofSides ("border-" ++ trait) (sides.map (named · trait)) r

/-- The properties that speak of one thing along a direction of the text. -/
def ofFlows : List Shorthand :=
  flows.flatMap fun (flow, ends) =>
    traits.map fun (trait, r) => .ofPair (named flow trait) (ends.map (named · trait)) r

/-- A line that holds on several sides. -/
def lineOn (name : String) (sides : List String) : Shorthand where
  name
  parts := sides.flatMap fun side => traits.map fun (trait, _) => named side trait
  read := do
    let found ← Shorthand.readSlots (slots name readStyle)
    return (Shorthand.unusual (slots name readStyle) (name ++ "-style") found,
      (sides.flatMap fun _ => found).map ([·]))
  join? _ := none

/-- The properties that speak of whole lines. -/
def lines : List Shorthand :=
  lineOn "border" sides :: flows.map (fun (flow, ends) => lineOn ("border-" ++ flow) ends) ++
    (sides ++ flows.flatMap (·.2)).map fun side => line ("border-" ++ side)

/-! ## Corners -/

/-- The corners of a box in the order of writing. -/
def corners : List String :=
  ["border-top-left-radius", "border-top-right-radius", "border-bottom-right-radius",
   "border-bottom-left-radius"]

/-- The corners of a box by the directions of the text. -/
def flowCorners : List String :=
  ["border-start-start-radius", "border-start-end-radius", "border-end-end-radius",
   "border-end-start-radius"]

/-- An extent as a value. -/
def readExtent : Reading Value := return .word (← Extent.read).text

/-- The two radii of a corner. -/
def readCorner : Reading (List Value) := do
  let across ← readExtent
  return [across, (← Reading.attempt readExtent).getD across]

/-- How the radii of a corner are written. -/
def cornerValue : List Value → Value
  | [across, down] => .pair across down
  | values => .spaced values

/-- The radii of all corners: those across, and those down if they are others. -/
def radius : Shorthand :=
  .of "border-radius" corners
    (do
      let across ← Shorthand.readFour readExtent
      let down ← match ← Reading.attempt (Reading.delim '/') with
        | some () => Shorthand.readFour readExtent
        | none => pure across
      return (across.zip down).map fun (x, y) => [x, y])
    fun said => do
      let across ← said.mapM fun radii => radii[0]?
      let down ← said.mapM fun radii => radii[1]?
      let written (values : List Value) : Value := .spaced (Shorthand.needed (· == ·) values)
      pure (if across = down then written across
        else written across ++ .text "/" :: written down)

/-! ## Images -/

/-- Four things around a box, as a value. -/
def readAround (side : Reading Value) : Reading Value := do
  return .spaced (Shorthand.needed (· == ·) (← Shorthand.readFour side))

/-- How an image is cut, and whether its middle is kept. -/
def readSlice : Reading Value := do
  let early ← Reading.attempt (Reading.word "fill")
  let offsets ← readAround (.valued Reading.amount)
  let late ← if early.isNone then Reading.attempt (Reading.word "fill") else pure none
  pure (if (early <|> late).isSome then .spaced [offsets, .word "fill"] else offsets)

/-- The widths of the lines that an image stands for. -/
def readImageWidth : Reading Value :=
  readAround (Reading.firstOf
    [.valued (return (← Reading.number).text), readExtent, .keyword ["auto"]])

/-- How far an image reaches out of its box. -/
def readOutset : Reading Value := readAround (.valued Extent.readLengthOrNumber)

/-- How an image is repeated along the lines. -/
def readRepeat : Reading Value := do
  let one : Reading Value := .keyword ["stretch", "repeat", "round", "space"]
  let across ← one
  return .pair across ((← Reading.attempt one).getD across)

/-- The usual slice of an image. -/
def usualSlice : Value := .word "100%"

/-- The slice of an image with the widths and the distances that may follow it. -/
def readCut : Reading (List Value) := do
  let slice ← readSlice
  let more ← Reading.attempt do
    Reading.delim '/'
    let width ← Reading.attempt readImageWidth
    let outset ← Reading.attempt do
      Reading.delim '/'
      readOutset
    if width.isNone && outset.isNone then Reading.refuse
    pure (width, outset)
  let (width, outset) := more.getD (none, none)
  pure [slice, width.getD (.word "1"), outset.getD (.word "0")]

/-- How the parts of an image for lines are written. -/
def imageValue : List Value → Value
  | [source, slice, width, outset, repeated] =>
    let hasWidth := width ≠ .word "1"
    let hasOutset := outset ≠ .word "0"
    let cut : Value :=
      if slice ≠ usualSlice || hasWidth || hasOutset then
        .text " " :: slice ++ (if hasWidth || hasOutset then [.text "/"] else []) ++
          (if hasWidth then width else []) ++ if hasOutset then .text "/" :: outset else []
      else []
    let written := (if source = .word "none" then [] else source) ++ cut ++
      if repeated = .word "stretch" then [] else .text " " :: repeated
    if written.isEmpty then .word "none" else written
  | values => .spaced values

/-- The parts of an image for lines in any order. -/
def readImage : Reading (List Value) := do
  let single (r : Reading Value) : Reading (List Value) := return [← r]
  match ← Reading.someOf [readCut, single Image.read, single readRepeat] with
  | [cut, source, repeated] =>
    let first (found : Option (List Value)) (usual : String) : Value :=
      (found.bind (·.head?)).getD (.word usual)
    pure (first source "none" ::
      cut.getD [usualSlice, .word "1", .word "0"] ++ [first repeated "stretch"])
  | _ => Reading.refuse

/-- The things about an image that stands for lines, with their readings. -/
def imageTraits : List (String × Reading Value) :=
  [("source", Image.read), ("slice", readSlice), ("width", readImageWidth),
   ("outset", readOutset), ("repeat", readRepeat)]

/-- A property for an image that stands for lines. -/
def image (name : String) : Shorthand :=
  .ofSingles name (imageTraits.map fun (trait, _) => name ++ "-" ++ trait) readImage imageValue

end Border

end Pagefold.Css
