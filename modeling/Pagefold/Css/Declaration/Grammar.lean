import Pagefold.Css.Declaration.Background
import Pagefold.Css.Declaration.Decoration
import Pagefold.Css.Declaration.Flex
import Pagefold.Css.Declaration.Font
import Pagefold.Css.Declaration.Grid
import Pagefold.Css.Declaration.Mask
import Pagefold.Css.Declaration.Transform
import Pagefold.Css.Declaration.Transition

/-!
# What properties are set to

The reading for the values of each property. Shorthands are readings of several properties at
once; of lists each item is read alone.
-/
namespace Pagefold.Css

namespace Content

/-- A content of one value. -/
def ofValue (r : Reading Value) : Reading Content := return .known (← r)

/-- A content of a list of values. -/
def ofList (name : String) (r : Reading Value) : Reading Content := do
  let values ← Reading.commaSeparated r
  return .known (.listed values) [⟨name, values⟩]

/-- A colour, as a value. -/
def readPaint : Reading Value := return .word (← Paint.read).text

/-- A colour, or the word for the usual one. -/
def readPaintOrAuto : Reading Value := Reading.firstOf [.keyword ["auto"], readPaint]

/-- An extent, as a value. -/
def readExtent : Reading Value := return .word (← Extent.read).text

/-- A length, as a value. -/
def readLength : Reading Value := return .word (← Extent.readLength).text

/-- A name of one's own, as a value. -/
def readOwnName : Reading Value := return .word (Literal.name (← Reading.ownName))

/-! ## Words -/

/-- Properties whose values are words. -/
def words : List (String × List String) :=
  let entry (name listed : String) : String × List String := (name, listed.splitOn " ")
  [entry "visibility" "visible hidden collapse", entry "box-sizing" "content-box border-box",
   entry "text-overflow" "clip ellipsis",
   entry "white-space" "normal pre nowrap pre-wrap break-spaces pre-line",
   entry "word-break" "normal keep-all break-all break-word",
   entry "line-break" "auto loose normal strict anywhere", entry "hyphens" "none manual auto",
   entry "overflow-wrap" "normal anywhere break-word",
   entry "word-wrap" "normal anywhere break-word",
   entry "text-align" "start end left right center justify match-parent justify-all",
   entry "text-align-last" "auto start end left right center justify match-parent",
   entry "text-justify" "auto none inter-word inter-character",
   entry "text-decoration-style" "solid double dotted dashed wavy",
   entry "text-decoration-skip-ink" "auto none all", entry "direction" "ltr rtl",
   entry "unicode-bidi" "normal embed isolate bidi-override isolate-override plaintext",
   entry "box-decoration-break" "slice clone",
   entry "resize" "none both horizontal vertical block inline",
   entry "caret-shape" "auto bar block underscore",
   entry "user-select" "auto text none contain all", entry "list-style-position" "inside outside",
   entry "marker-side" "match-self match-parent", entry "fill-rule" "nonzero evenodd",
   entry "clip-rule" "nonzero evenodd", entry "stroke-linecap" "butt round square",
   entry "stroke-linejoin" "miter miter-clip round bevel arcs",
   entry "color-interpolation" "auto srgb linearrgb",
   entry "color-interpolation-filters" "auto srgb linearrgb",
   entry "color-rendering" "auto optimizespeed optimizequality",
   entry "shape-rendering" "auto optimizespeed crispedges geometricprecision",
   entry "text-rendering" "auto optimizespeed optimizelegibility geometricprecision",
   entry "image-rendering" "auto optimizespeed optimizequality",
   entry "mask-type" "luminance alpha", entry "transform-style" "flat preserve-3d",
   entry "transform-box" "content-box border-box fill-box stroke-box view-box",
   entry "backface-visibility" "visible hidden", entry "container-type" "normal inline-size size",
   entry "print-color-adjust" "economy exact", entry "mask-border-mode" "luminance alpha",
   entry "flex-direction" "row row-reverse column column-reverse",
   entry "flex-wrap" "nowrap wrap wrap-reverse"]

/-- The looks of controls that are known. -/
def looks : List String := Property.words
  ["none auto textfield menulist-button button checkbox listbox menulist meter progress-bar",
   "push-button radio searchfield slider-horizontal square-button textarea"]

/-! ## Sizes and numbers -/

/-- Properties whose values are extents or the word `auto`. -/
def spaces : List String :=
  let ends := ["top", "right", "bottom", "left", "block-start", "block-end", "inline-start",
    "inline-end"]
  ["margin-", "padding-", "scroll-margin-", "scroll-padding-"].flatMap (fun start =>
    ends.map (start ++ ·)) ++
    ["top", "right", "bottom", "left", "inset-block-start", "inset-block-end",
     "inset-inline-start", "inset-inline-end", "flex-basis"]

/-- Properties whose values are colours. -/
def paints : List String := Property.words
  ["color background-color outline-color text-decoration-color text-emphasis-color"]

/-- Properties whose values are numbers, which may be given as shares. -/
def shares : List String := ["opacity", "fill-opacity", "stroke-opacity"]

/-- A ratio of the sides of a box, and whether its own sides come first. -/
def readAspect : Reading Value := do
  let auto : Reading String := Reading.wordOf ["auto"]
  let ratio : Reading String := do
    let width ← Reading.number
    let height := (← Reading.attempt (do Reading.delim '/'; Reading.number)).getD .one
    pure (if height.same .one then width.text else width.text ++ "/" ++ height.text)
  return .word (" ".intercalate ((← Reading.someOf [auto, ratio]).filterMap id))

/-- How colours of the surroundings are chosen. -/
def readScheme : Reading Value := do
  let words ← Reading.many (Reading.wordOf ["normal", "only", "light", "dark"]) (← get).length
  let onlyInside := (words.drop 1).dropLast.contains "only"
  if words.isEmpty || onlyInside || (words.contains "normal" && words.length ≠ 1) then
    Reading.refuse
  else if words = ["normal"] then pure (.word "normal")
  else
    let shown := ["light", "dark", "only"].filter words.contains
    pure (.word (" ".intercalate shown))

/-- The names of a box that is asked for its size, or none. -/
def readContainerName : Reading Value := do
  let name : Reading String := do
    let name ← Reading.ownName
    if ["none", "and", "not", "or"].contains (Text.lower name) then Reading.refuse
    else pure (Literal.name name)
  Reading.firstOf
    [.keyword ["none"],
     do
      let names ← Reading.many name (← get).length
      if names.isEmpty then Reading.refuse else pure (.word (" ".intercalate names))]

/-- The names of a box and what may be asked of it. -/
def container : Shorthand :=
  .ofSingles "container" ["container-name", "container-type"]
    (do
      let name ← readContainerName
      let kind ← Reading.attempt do
        Reading.delim '/'
        .keyword ["normal", "inline-size", "size"]
      pure [name, kind.getD (.word "normal")])
    fun
    | [name, kind] => if kind = .word "normal" then name else name ++ .text "/" :: kind
    | values => .spaced values

/-- The colour and the shape of a text cursor. -/
def caret : Shorthand :=
  .ofSlots "caret" "caret-color"
    [⟨"caret-color", readPaintOrAuto, .word "auto"⟩,
     ⟨"caret-shape", .keyword ["auto", "bar", "block", "underscore"], .word "auto"⟩]

/-- The two directions in which content may be more than its box can hold. -/
def overflow : Shorthand :=
  .ofPair "overflow" ["overflow-x", "overflow-y"]
    (.keyword ["visible", "hidden", "clip", "scroll", "auto"])

/-! ## Properties -/

/-- The shorthands. -/
def shorthands : List Shorthand :=
  let ends (start : String) : List String := Border.sides.map fun side => start ++ side
  let flow (start flow : String) : List String := [start ++ flow ++ "-start", start ++ flow ++ "-end"]
  let spaced (name : String) : List Shorthand :=
    [Box.space name (ends (name ++ "-")),
     .ofPair (name ++ "-block") (flow (name ++ "-") "block") Box.readSide,
     .ofPair (name ++ "-inline") (flow (name ++ "-") "inline") Box.readSide]
  spaced "margin" ++ spaced "padding" ++ spaced "scroll-margin" ++ spaced "scroll-padding" ++
    [Box.space "inset" Border.sides,
     .ofPair "inset-block" (flow "inset-" "block") Box.readSide,
     .ofPair "inset-inline" (flow "inset-" "inline") Box.readSide] ++
    Border.ofAllSides ++ Border.ofFlows ++ Border.lines ++
    [Border.outline, Border.radius, Border.image "border-image", Border.image "mask-border",
     Border.image "mask-box-image", Flex.flow, Flex.flex, Flex.gap] ++ Flex.places ++
    [Grid.template, Grid.grid, Grid.ends "grid-row", Grid.ends "grid-column", Grid.area,
     Font.shorthand, TextStyle.decoration, TextStyle.emphasis, Marker.shorthand,
     Transition.shorthand, Animation.range, Layer.shorthand, Layer.position, MaskLayer.shorthand,
     container, caret, overflow]

/-- The reading for a property of the lines around a box. -/
def borderReading? (name : String) : Option (Reading Content) :=
  if name = "border-spacing" then
    some (ofValue do
      let across ← readLength
      return .pair across ((← Reading.attempt readLength).getD across))
  else if (Border.corners ++ Border.flowCorners).contains name then
    some do
      let radii ← Border.readCorner
      return .known (Border.cornerValue radii) [⟨name, radii⟩]
  else
    let image := ["border-image-", "mask-border-", "mask-box-image-"].findSome? fun start =>
      if name.startsWith start then
        Border.imageTraits.lookup (String.ofList (name.toList.drop start.length))
      else none
    let trait := ["border-", "outline-"].findSome? fun start =>
      if name.startsWith start then
        Border.traits.findSome? fun (trait, r) => if name.endsWith ("-" ++ trait) then some r else none
      else none
    if name = "outline-style" then some (ofValue Border.readOutlineStyle)
    else (image <|> trait).map ofValue

/-- The reading for a property with a list of values. -/
def listReading? (name : String) : Option (Reading Value) :=
  let after (start : String) : Option String :=
    if name.startsWith start then some (String.ofList (name.toList.drop start.length)) else none
  match (after "background-").bind Layer.detail?, (after "mask-").bind MaskLayer.detail? with
  | some r, _ => some r
  | none, some r => some r
  | none, none =>
    match name with
    | "transition-property" => some (.valued Transition.readProperty)
    | "transition-duration" | "transition-delay" | "animation-duration" | "animation-delay" =>
      some do return .word (← Time.read).text
    | "transition-timing-function" | "animation-timing-function" =>
      some do return .word (← Course.read).text
    | "animation-iteration-count" =>
      some do return .word (((← Animation.readRuns).map Number.Single.text).getD "infinite")
    | "animation-direction" => some (.keyword Animation.directions)
    | "animation-play-state" => some (.keyword Animation.plays)
    | "animation-fill-mode" => some (.keyword Animation.fills)
    | "animation-composition" => some (.keyword ["replace", "add", "accumulate"])
    | "animation-timeline" => some (.valued Animation.readTimeline)
    | "animation-range-start" => some do return .word (← Animation.readStart).2
    | "animation-range-end" => some do return .word (← Animation.readStop).2
    | "font-family" => some Font.readFamily
    | _ => none

/-- The reading for a property that stands alone. -/
def singleReading? (name : String) : Option (Reading Value) :=
  match name with
  | "display" => some Display.readValue
  | "position" => some Box.readPlace
  | "width" | "height" | "min-width" | "min-height" | "block-size" | "inline-size"
  | "min-block-size" | "min-inline-size" => some Box.readSize
  | "max-width" | "max-height" | "max-block-size" | "max-inline-size" => some Box.readLimit
  | "aspect-ratio" => some readAspect
  | "overflow-x" | "overflow-y" => some (.keyword ["visible", "hidden", "clip", "scroll", "auto"])
  | "box-shadow" => some (Shadow.read true)
  | "text-shadow" => some (Shadow.read false)
  | "flex-grow" | "flex-shrink" | "stroke-miterlimit" => some Flex.readNumber
  | "order" => some Flex.readInteger
  | "z-index" => some (Reading.firstOf [.keyword ["auto"], Flex.readInteger])
  | "align-content" => some Flex.readAlignContent
  | "justify-content" => some Flex.readJustifyContent
  | "align-self" => some Flex.readAlignSelf
  | "justify-self" => some Flex.readJustifySelf
  | "align-items" => some Flex.readAlignItems
  | "justify-items" => some Flex.readJustifyItems
  | "row-gap" | "column-gap" => some Flex.readGap
  | "grid-template-columns" | "grid-template-rows" =>
    some do return .word (Grid.templateText (← Grid.readTemplate))
  | "grid-template-areas" => some do return .word (Grid.areasText (← Grid.readAreas))
  | "grid-auto-columns" | "grid-auto-rows" => some (.valued Grid.readAutoSizes)
  | "grid-auto-flow" => some (.valued Grid.readFlow)
  | "grid-row-start" | "grid-row-end" | "grid-column-start" | "grid-column-end" =>
    some do return .word (← Grid.readLine).text
  | "font-size" => some Font.readSize
  | "font-stretch" => some Font.readWidth
  | "font-style" => some Font.readStyle
  | "font-variant-caps" => some Font.readCaps
  | "line-height" => some Font.readHeight
  | "font-palette" => some (TextStyle.orElse ["normal", "light", "dark"]
      do return .word (Literal.name (← Reading.dashedName)))
  | "vertical-align" => some (TextStyle.orElse
      ["baseline", "sub", "super", "top", "text-top", "middle", "bottom", "text-bottom"] readExtent)
  | "transform" => some Transform.readList
  | "translate" | "rotate" | "scale" => (Transform.single? name).map fun r => return (← r).1
  | "transform-origin" | "perspective-origin" => some do
    let (across, down) ← Place.readBoth
    pure (.word (Place.textOfBoth across down))
  | "perspective" => some (TextStyle.orElse ["none"] readLength)
  | "text-transform" => some TextStyle.readTransform
  | "tab-size" => some (.valued Extent.readLengthOrNumber)
  | "word-spacing" | "letter-spacing" => some (TextStyle.orElse ["normal"] readLength)
  | "text-indent" => some TextStyle.readIndent
  | "text-decoration-line" => some TextStyle.readLines
  | "text-decoration-thickness" => some (TextStyle.orElse ["auto", "from-font"] readExtent)
  | "text-emphasis-style" => some TextStyle.readMarks
  | "text-emphasis-position" => some TextStyle.readMarkPlace
  | "text-size-adjust" =>
    some (TextStyle.orElse ["auto", "none"] do return .word (shareText (← Reading.percentage)))
  | "cursor" => some Cursor.read
  | "caret-color" | "accent-color" => some readPaintOrAuto
  | "appearance" =>
    some (TextStyle.orElse looks do return .word (Literal.name (← Reading.ident)))
  | "list-style-type" => some TextStyle.readMarker
  | "list-style-image" => some Image.read
  | "fill" | "stroke" => some Shape.readPaint
  | "stroke-width" | "stroke-dashoffset" => some readExtent
  | "stroke-dasharray" => some Shape.readDashes
  | "marker" | "marker-start" | "marker-mid" | "marker-end" => some Shape.readMarker
  | "clip-path" => some Shape.readClip
  | "filter" | "backdrop-filter" => some Filter.read
  | "container-name" => some readContainerName
  | "view-transition-name" => some (TextStyle.orElse ["none", "auto"] readOwnName)
  | "view-transition-group" =>
    some (TextStyle.orElse ["normal", "contain", "nearest"] readOwnName)
  | "view-transition-class" => some do
    let names ← Reading.many readOwnName (← get).length
    if names.isEmpty then Reading.refuse else pure (.spaced names)
  | "color-scheme" => some readScheme
  | _ => none

/-- The reading for the values of a property, by its mark and the rest of its name. -/
def reading? (mark name : String) : Option (Reading Content) :=
  match name with
  | "animation" => some readAnimations
  | "animation-name" => some readAnimationNames
  | "font-weight" => some do
    let weight ← Font.readWeight
    return .known (Font.weightValue weight) [⟨name, [weight]⟩]
  | _ =>
    match shorthands.find? (·.name = name), words.lookup name, listReading? name with
    | some s, _, _ => some s.content
    | none, some words, _ => some (ofValue (.keyword words))
    | none, none, some r => some (ofList name r)
    | none, none, none =>
      if spaces.contains name then some (ofValue Box.readSide)
      else if paints.contains name then some (ofValue readPaint)
      else if shares.contains name then some (ofValue Box.readOpacity)
      else
        ((singleReading? name <|> if mark = "" then none else Flex.older name).map ofValue) <|>
          borderReading? name

end Content

end Pagefold.Css
