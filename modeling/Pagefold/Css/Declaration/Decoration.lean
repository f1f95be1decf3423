import Pagefold.Css.Declaration
import Pagefold.Css.Declaration.Box
import Pagefold.Css.Declaration.Image
import Pagefold.Css.Declaration.Property
import Pagefold.Css.Value

/-!
# Styles of text, shadows, filters, markers and cursors

How text is adorned, and what is drawn beside an element or over it: lists of words, sizes and
images in which parts with their usual values are left out.
-/

/-!
## Styles of text

How lines of text are drawn, broken and adorned, and the markers of items in lists.
-/
namespace Pagefold.Css

namespace TextStyle

/-- A colour, as a value. -/
def readColor : Reading Value := return .word (← Paint.read).text

/-- An extent, as a value. -/
def readExtent : Reading Value := return .word (← Extent.read).text

/-- A length, as a value. -/
def readLength : Reading Value := return .word (← Extent.readLength).text

/-- One of some words, or something else. -/
def orElse (words : List String) (r : Reading Value) : Reading Value :=
  Reading.firstOf [.keyword words, r]

/-- The words of a list that are given, each at most once, in the order of the list. -/
def readSet (words : List String) : Reading (List String) := do
  let found ← Reading.many (Reading.wordOf words) (← get).length
  if found.eraseDups.length ≠ found.length then Reading.refuse
  pure (words.filter found.contains)

/-- How the letters of a text are changed. -/
def readTransform : Reading Value := do
  let case_ : Reading String := Reading.wordOf ["none", "uppercase", "lowercase", "capitalize"]
  let width : Reading String := do
    Reading.word "full-width"
    pure "full-width"
  let kana : Reading String := do
    Reading.word "full-size-kana"
    pure "full-size-kana"
  match ← Reading.someOf [case_, width, kana] with
  | case_ :: forms =>
    let forms := forms.filterMap id
    let case_ := (case_.filter fun word => word ≠ "none" || forms.isEmpty).toList
    return .word (" ".intercalate (case_ ++ forms))
  | [] => Reading.refuse

/-- How far the first line of a text is indented. -/
def readIndent : Reading Value := do
  let flag (word : String) : Reading Value := .keyword [word]
  match ← Reading.anyOrder [readExtent, flag "hanging", flag "each-line"] with
  | some extent :: flags => return .spaced (extent :: flags.filterMap id)
  | _ => Reading.refuse

/-! ### Lines along a text -/

/-- The lines along a text. -/
def readLines : Reading Value := do
  match ← Reading.attempt (Reading.wordOf ["none", "spelling-error", "grammar-error"]) with
  | some word => pure (.word word)
  | none =>
    let lines ← readSet ["underline", "overline", "line-through", "blink"]
    if lines.isEmpty then Reading.refuse else pure (.word (" ".intercalate lines))

/-- The lines along a text, their thickness, style and colour. Where there is no line, nothing
more is written. -/
def decoration : Shorthand :=
  let slots : List Shorthand.Slot :=
    [⟨"text-decoration-line", readLines, .word "none"⟩,
     ⟨"text-decoration-thickness", orElse ["auto", "from-font"] readExtent, .word "auto"⟩,
     ⟨"text-decoration-style", .keyword ["solid", "double", "dotted", "dashed", "wavy"],
      .word "solid"⟩,
     ⟨"text-decoration-color", readColor, .word "currentColor"⟩]
  .ofSingles "text-decoration" (slots.map (·.property)) (Shorthand.readSlots slots) fun values =>
    if values.head? = some (.word "none") then .word "none"
    else Shorthand.unusual slots "text-decoration-line" values

/-- The marks over a text. -/
def readMarks : Reading Value := do
  let plain : Reading Value :=
    Reading.firstOf [.keyword ["none"], return .word (Literal.quoted (← Reading.quoted))]
  let shape : Reading Value := .keyword ["dot", "circle", "double-circle", "triangle", "sesame"]
  match ← Reading.attempt plain with
  | some v => pure v
  | none =>
    match ← Reading.someOf [shape, .keyword ["filled", "open"]] with
    | [shape, fill] =>
      let fill := fill.getD (.word "filled")
      let shown := if fill ≠ .word "filled" || shape.isNone then [fill] else []
      return .spaced (shown ++ shape.toList)
    | _ => Reading.refuse

/-- The marks over a text, and their colour. -/
def emphasis : Shorthand :=
  let slots : List Shorthand.Slot :=
    [⟨"text-emphasis-style", readMarks, .word "none"⟩,
     ⟨"text-emphasis-color", readColor, .word "currentColor"⟩]
  .ofSingles "text-emphasis" (slots.map (·.property)) (Shorthand.readSlots slots) fun
    | [style, color] =>
      if style = .word "none" || color = .word "currentColor" then style else .spaced [style, color]
    | values => .spaced values

/-- Where the marks over a text stand. -/
def readMarkPlace : Reading Value := do
  let side : Reading String := Reading.wordOf ["left", "right"]
  let early ← Reading.attempt side
  let line ← Reading.wordOf ["over", "under"]
  let late ← if early.isNone then Reading.attempt side else pure none
  pure (.word (if (early <|> late) = some "left" then line ++ " left" else line))

/-! ### Markers -/

/-- A symbol of a counter: a string, or an image. -/
def readSymbol : Reading String := return Literal.quoted (← Reading.quoted)

/-- The symbols of a counter, with the way in which they are counted. -/
def readSymbols : Reading String := do
  let content ← Reading.callOf "symbols"
  Reading.within content do
    let way ← Reading.attempt
      (Reading.wordOf ["cyclic", "numeric", "alphabetic", "symbolic", "fixed"])
    let symbols ← Reading.many readSymbol (← get).length
    let way := (way.filter (· ≠ "symbolic")).toList
    pure ("symbols(" ++ " ".intercalate (way ++ symbols) ++ ")")

/-- The names of counters that are known everywhere. -/
def counters : List String := Property.words
  ["decimal decimal-leading-zero arabic-indic armenian upper-armenian lower-armenian bengali",
   "cambodian khmer cjk-decimal devanagari georgian gujarati gurmukhi hebrew kannada lao",
   "malayalam mongolian myanmar oriya persian lower-roman upper-roman tamil telugu thai tibetan",
   "lower-alpha lower-latin upper-alpha upper-latin lower-greek hiragana hiragana-iroha katakana",
   "katakana-iroha disc circle square disclosure-open disclosure-closed cjk-earthly-branch",
   "cjk-heavenly-stem japanese-informal japanese-formal korean-hangul-formal",
   "korean-hanja-informal korean-hanja-formal simp-chinese-informal simp-chinese-formal",
   "trad-chinese-informal trad-chinese-formal ethiopic-numeric"]

/-- The marker of an item. -/
def readMarker : Reading Value :=
  Reading.firstOf
    [.keyword ("none" :: counters), return .word (Literal.quoted (← Reading.quoted)),
     .valued readSymbols, return .word (Literal.name (← Reading.ownName))]

end TextStyle

end Pagefold.Css

namespace Pagefold.Css.Shadow

/-!
## Shadows

The shadows of boxes and of texts: offsets, a blur and a spread that are left out if they are
zero, and a colour.
-/

/-- Two offsets, a blur and a spread. -/
def readLengths : Reading String := do
  let across ← Extent.readLength
  let down ← Extent.readLength
  let blur := (← Reading.attempt Extent.readLength).getD .zero
  let spread := (← Reading.attempt Extent.readLength).getD .zero
  let more :=
    if !spread.same .zero then [blur, spread] else if !blur.same .zero then [blur] else []
  return " ".intercalate ((across :: down :: more).map Extent.text)

/-- A colour that is not the one of the text. -/
def readColor : Reading String := do
  match ← Paint.read with
  | .current => pure ""
  | p => pure p.text

/-- A shadow, which may fall inwards if `mayFallIn` says so. -/
def readOne (mayFallIn : Bool) : Reading Value := do
  let inward : Reading String := do
    if mayFallIn then Reading.wordOf ["inset"] else Reading.refuse
  match ← Reading.anyOrder [inward, readLengths, readColor] with
  | [inward, some lengths, color] =>
    return .word (" ".intercalate (inward.toList ++ lengths :: (color.filter (· ≠ "")).toList))
  | _ => Reading.refuse

/-- A list of shadows. -/
def read (mayFallIn : Bool) : Reading Value := do
  return .listed (← Reading.commaSeparated (readOne mayFallIn))

end Pagefold.Css.Shadow

/-!
## Filters

The effects that an element is drawn through, in order. An argument with its usual value is
left out.
-/
namespace Pagefold.Css.Filter

open Number (Single)

/-- The effects whose argument is a number or a percentage, usually one. -/
def amounts : List String :=
  ["brightness", "contrast", "grayscale", "invert", "opacity", "saturate", "sepia"]

/-- A number or a percentage: its size and how it is written. -/
def readAmount : Reading (Single × String) :=
  Reading.firstOf
    [do
      let n ← Reading.number
      pure (n, n.text),
     do
      let f ← Reading.percentage
      pure (f, shareText f)]

/-- The argument of an effect with an amount. -/
def amount : Reading String := do
  match ← Reading.attempt readAmount with
  | some (size, written) => return if size.same (.ofNat 1) then "" else written
  | none => pure ""

/-- The argument of a turn of the colours. -/
def turn : Reading String := do
  match ← Reading.attempt Angle.readOrZero with
  | some a => return if a.value.isZero then "" else a.text
  | none => pure ""

/-- The argument of a blur. -/
def blur : Reading String := do
  match ← Reading.attempt Extent.readLength with
  | some e => return if e.same .zero then "" else e.text
  | none => pure ""

/-- The offsets of a shadow, and its blur where there is one. -/
def readOffsets : Reading String := do
  let across ← Extent.readLength
  let down ← Extent.readLength
  let blur := (← Reading.attempt Extent.readLength).filter (!·.same .zero)
  return " ".intercalate ((across :: down :: blur.toList).map Extent.text)

/-- The arguments of a shadow: its offsets, and its colour before or after them. -/
def shadow : Reading String := do
  let before ← Reading.attempt Paint.read
  let offsets ← readOffsets
  let after ← if before.isNone then Reading.attempt Paint.read else pure none
  let color := (before <|> after).filter (· ≠ .current)
  return " ".intercalate (offsets :: (color.map Paint.text).toList)

/-- The argument of an effect, by the name of the effect in small letters. -/
def argument (name : String) : Reading String :=
  if amounts.contains name then amount
  else
    match name with
    | "blur" => blur
    | "hue-rotate" => turn
    | "drop-shadow" => shadow
    | _ => Reading.refuse

/-- One effect, which may be the address of one. -/
def readOne : Reading Value :=
  Reading.firstOf
    [return [.url (← Reading.link)],
     do
      let (name, content) ← Reading.call
      let small := Text.lower name
      return .word (small ++ "(" ++ (← Reading.within content (argument small)) ++ ")")]

/-- The effects, or none. -/
def read : Reading Value :=
  Reading.firstOf
    [do Reading.word "none"; pure (.word "none"),
     do return (← Reading.many readOne (← get).length).flatten]

end Pagefold.Css.Filter

/-!
## Items of lists

The marker of an item, the image that may stand for it and its place. A single word `none` is taken
for the marker.
-/
namespace Pagefold.Css.Marker

/-- The place of a marker. -/
def readPlace : Reading Value := .keyword ["inside", "outside"]

/-- The properties of a marker with their readings and their usual values. -/
def slots : List Shorthand.Slot :=
  [⟨"list-style-position", readPlace, .word "outside"⟩,
   ⟨"list-style-image", Image.read, .word "none"⟩,
   ⟨"list-style-type", TextStyle.readMarker, .word "disc"⟩]

/-- What is said about a marker. -/
def readAll : Reading (List Value) := do
  let none_ : Reading Value := .keyword ["none"]
  let image : Reading Value := do
    match ← Reading.attempt none_ with
    | some _ => Reading.refuse
    | none => Image.read
  match ← Reading.someOf [readPlace, image, TextStyle.readMarker, none_] with
  | [place, image, marker, _] =>
    pure [place.getD (.word "outside"), image.getD (.word "none"), marker.getD (.word "disc")]
  | _ => Reading.refuse

/-- The property for a marker in all its parts. -/
def shorthand : Shorthand :=
  .ofSingles "list-style" (slots.map (·.property)) readAll
    (Shorthand.unusual slots "list-style-position")

end Pagefold.Css.Marker

/-!
## Cursors

A cursor is a word for one, after images that are shown instead where they can be.
-/
namespace Pagefold.Css

namespace Cursor

/-- The words for cursors. -/
def words : List String := Property.words
  ["auto default none context-menu help pointer progress wait cell crosshair text",
   "vertical-text alias copy move no-drop not-allowed grab grabbing e-resize n-resize",
   "ne-resize nw-resize s-resize se-resize sw-resize w-resize ew-resize ns-resize nesw-resize",
   "nwse-resize col-resize row-resize all-scroll zoom-in zoom-out"]

/-- A point in an image. -/
def readPoint : Reading Value := do
  let x ← Reading.number
  let y ← Reading.number
  return .word (" " ++ x.text ++ " " ++ y.text)

/-- Images with the points that they show, and the word for the cursor where there is no
image. The bound is on the number of images. -/
def readFrom : Nat → Reading Value
  | 0 => Reading.refuse
  | n + 1 => do
    match ← Reading.attempt Reading.link with
    | some link =>
      let point := (← Reading.attempt readPoint).getD []
      Reading.token .comma
      return .url link :: point ++ .text "," :: (← readFrom n)
    | none => return .word (← Reading.wordOf words)

/-- The value of the property. -/
def read : Reading Value := do readFrom ((← get).length + 1)

end Cursor

end Pagefold.Css
