import Pagefold.Css.Color.Shade
import Pagefold.Css.Measure

/-!
# Paints

What something is painted with: a colour or a shade, also one that is derived from others, the
colour of the text, or a colour of the surroundings. Colours that are mixed or derived are worked
out when they are read.
-/
namespace Pagefold.Css

open Number (Single)

/-- What something is painted with. A colour whose components are not all given is kept as the
shade that it is, and a colour of the surroundings by its name in small letters. -/
inductive Paint where
  | color (c : Color)
  | incomplete (s : Shade)
  | shade (s : Shade)
  | current
  | system (name : String)
  | either (light dark : Paint)
  deriving DecidableEq, Repr

namespace Paint

/-- The colours of the surroundings. -/
def systemNames : List String :=
  ["accentcolor", "accentcolortext", "activetext", "buttonborder", "buttonface", "buttontext",
   "canvas", "canvastext", "field", "fieldtext", "graytext", "highlight", "highlighttext",
   "linktext", "mark", "marktext", "selecteditem", "selecteditemtext", "visitedtext",
   "activeborder", "activecaption", "appworkspace", "background", "buttonhighlight",
   "buttonshadow", "captiontext", "inactiveborder", "inactivecaption", "inactivecaptiontext",
   "infobackground", "infotext", "menu", "menutext", "scrollbar", "threeddarkshadow",
   "threedface", "threedhighlight", "threedlightshadow", "threedshadow", "window",
   "windowframe", "windowtext"]

/-- The paint that leaves everything visible. -/
def transparent : Paint := .color ⟨0, 0, 0, 0⟩

/-- The paint with a name, in any case of its letters. -/
def ofName? (name : String) : Option Paint :=
  let small := Text.lower name
  if small = "currentcolor" then some .current
  else
    match Color.ofName? name with
    | some c => some (.color c)
    | none => if systemNames.contains small then some (.system small) else none

/-- How a paint is written. -/
def text : Paint → String
  | color c => c.text
  | incomplete s => ((s.color?).map Color.text).getD s.text
  | shade s => s.text
  | current => "currentColor"
  | system name => name
  | either light dark => "light-dark(" ++ light.text ++ "," ++ dark.text ++ ")"

/-- The shade of a paint that does not depend on the surroundings. -/
def shade? : Paint → Option Shade
  | color c => some (.ofColor c)
  | incomplete s => some s
  | shade s => some s
  | _ => none

/-- The paint of a shade that is given by the amounts of light, or by its hue. -/
def ofShade (s : Shade) : Paint :=
  if s.isPartial then .incomplete s else ((s.color?).map .color).getD (.incomplete s)

/-- The paint of a mixture. -/
def ofMixture (s : Shade) : Paint :=
  match s.space with
  | .srgb | .hsl | .hwb => ofShade s
  | _ => .shade s

/-! ## Components -/

/-- The components of the colour that another one is derived from, by their names. -/
abbrev Given := List (String × Single)

/-- The value of a name. -/
def Given.value? (given : Given) (name : String) : Option Single :=
  given.lookup (Text.lower name)

/-- A number or the name of a given component. -/
def readGiven (given : Given) : Reading Single :=
  Reading.firstOf
    [Reading.plainNumber, do Reading.orRefuse (given.value? (← Reading.ident)),
     Calc.readNumber given.value?]

/-- A component that is missing. -/
def readMissing : Reading (Option Single) := do
  Reading.word "none"
  pure none

/-- A component: a number, or a share of the given one. -/
def readComponent (given : Given) (whole : Single) : Reading (Option Single) :=
  Reading.firstOf
    [readMissing, return some (← readGiven given),
     return some ((← Reading.percentage).mul whole)]

/-- A hue in degrees. -/
def readHue (given : Given) : Reading (Option Single) :=
  Reading.firstOf
    [readMissing, return some (← readGiven given), return some (← Angle.read).degrees]

/-- A component that is kept between two bounds. -/
def readBounded (given : Given) (whole least greatest : Single) : Reading (Option Single) := do
  return (← readComponent given whole).map (·.clamp least greatest)

/-- A component whose size is a share of the given number. -/
def readShare (given : Given) (whole : Nat) : Reading (Option Single) := do
  let c ← readBounded given (.ofNat whole) .zero (.ofNat whole)
  return c.map (·.times 1 whole)

/-- An alpha component. -/
def readAlpha (given : Given) : Reading (Option Single) := readBounded given .one .zero .one

/-- The alpha component after a slash; without one it is one. -/
def readAlphaAfter (given : Given) : Reading (Option Single) := do
  match ← Reading.attempt (Reading.delim '/') with
  | some () => readAlpha given
  | none => return some .one

/-- The alpha component after a comma; without one it is one. -/
def readAlphaListed : Reading (Option Single) := do
  if ← Reading.atEnd then return some .one
  Reading.token .comma
  return some ((← Reading.fraction).clamp .zero .one)

/-! ## Calls -/

/-- A component in 255 steps, as a share of them. -/
def inSteps (c : Single) : Single :=
  (c.nearestWhole.clamp .zero (.ofNat 255)).per (.ofNat 255)

/-- A component of light out of 255 steps. -/
def readLight (given : Given) : Reading (Option Single) := do
  return (← readComponent given (.ofNat 255)).map inSteps

/-- Three components of light between commas, all numbers or all percentages. -/
def readListedLight : Reading Shade := do
  let numbers : Reading Single := return inSteps (← Reading.number)
  let shares : Reading Single := return inSteps ((← Reading.percentage).times 255 1)
  let all (r : Reading Single) : Reading Shade := do
    let red ← r
    Reading.token .comma
    let green ← r
    Reading.token .comma
    let blue ← r
    return ⟨.srgb, some red, some green, some blue, ← readAlphaListed⟩
  Reading.firstOf [all numbers, all shares]

/-- Three components of light between blanks. -/
def readSpacedLight (given : Given) (alpha : Reading (Option Single)) : Reading Shade := do
  let red ← readLight given
  let green ← readLight given
  let blue ← readLight given
  return ⟨.srgb, red, green, blue, ← alpha⟩

/-- A hue and two shares between commas. -/
def readListedHue (space : Space) : Reading Shade := do
  let share : Reading (Option Single) := do
    let c ← readShare [] 100
    if c.isNone then Reading.refuse else pure c
  let hue ← Reading.firstOf [Reading.number, return (← Angle.read).degrees]
  Reading.token .comma
  let second ← share
  Reading.token .comma
  let third ← share
  return ⟨space, some hue, second, third, ← readAlphaListed⟩

/-- A hue and two shares between blanks. -/
def readSpacedHue (space : Space) (given : Given) (alpha : Reading (Option Single)) :
    Reading Shade := do
  let hue ← readHue given
  let second ← readShare given 100
  let third ← readShare given 100
  return ⟨space, hue, second, third, ← alpha⟩

/-- A lightness and two axes, or a lightness, a distance and a hue. Shares of the second kind of
component are shares of `reach`. -/
def readLightness (space : Space) (light reach : Single) (given : Given) : Reading Shade := do
  let l ← readBounded given light .zero light
  if (space.hueFirst?).isSome then do
    let distance := (← readComponent given reach).map fun c => if c.isNegative then .zero else c
    let hue ← readHue given
    return ⟨space, l, distance, hue, ← readAlphaAfter given⟩
  else do
    let a ← readComponent given reach
    let b ← readComponent given reach
    return ⟨space, l, a, b, ← readAlphaAfter given⟩

/-- A space by its name, and three components. -/
def readGeneral : Reading Shade := do
  let space ← Reading.orRefuse (Space.names.lookup (Text.lower (← Reading.ident)))
  let first ← readComponent [] .one
  let second ← readComponent [] .one
  let third ← readComponent [] .one
  return ⟨space, first, second, third, ← readAlphaAfter []⟩

/-- The spaces of the calls that a colour can be derived by, with the names of the components
and the sizes of a whole one. -/
def derivations : List (String × Space × List (String × Nat)) :=
  [("rgb", .srgb, [("r", 255), ("g", 255), ("b", 255)]),
   ("rgba", .srgb, [("r", 255), ("g", 255), ("b", 255)]),
   ("hsl", .hsl, [("h", 1), ("s", 100), ("l", 100)]),
   ("hsla", .hsl, [("h", 1), ("s", 100), ("l", 100)]),
   ("hwb", .hwb, [("h", 1), ("w", 100), ("b", 100)]),
   ("lab", .lab, [("l", 1), ("a", 1), ("b", 1)]),
   ("lch", .lch, [("l", 1), ("c", 1), ("h", 1)]),
   ("oklab", .oklab, [("l", 1), ("a", 1), ("b", 1)]),
   ("oklch", .oklch, [("l", 1), ("c", 1), ("h", 1)])]

/-- The components of a colour in the space of a call, by their names. -/
def given? (name : String) (p : Paint) : Option Given := do
  let (space, names) ← derivations.lookup name
  let s ← (← p.shade?).to? space
  let (a, b, c) := s.triple
  let scaled := (names.zip [a, b, c]).map fun (entry, value) => (entry.1, value.times entry.2 1)
  pure (("alpha", s.alpha.getD .zero) :: scaled)

/-- A call by its name in small letters, with the components of the colour that it derives a
colour from. -/
def readShade (name : String) (given : Given) : Reading Paint := do
  let listed (r : Reading Shade) (spaced : Reading Shade) : Reading Shade :=
    if given.isEmpty then Reading.firstOf [do let s ← r; Reading.finish; pure s, spaced]
    else spaced
  match name with
  | "rgb" | "rgba" =>
    return ofShade (← listed readListedLight (readSpacedLight given (readAlphaAfter given)))
  | "hsl" | "hsla" =>
    return ofShade (← listed (readListedHue .hsl) (readSpacedHue .hsl given (readAlphaAfter given)))
  | "hwb" => return ofShade (← readSpacedHue .hwb given (readAlphaAfter given))
  | "lab" => return .shade (← readLightness .lab (.ofNat 100) (.ofNat 125) given)
  | "lch" => return .shade (← readLightness .lch (.ofNat 100) (.ofNat 150) given)
  | "oklab" => return .shade (← readLightness .oklab .one (.ofRatio false 4 10) given)
  | "oklch" => return .shade (← readLightness .oklch .one (.ofRatio false 4 10) given)
  | "color" => return .shade (← readGeneral)
  | _ => Reading.refuse

/-- A paint with its share of a mixture, which may stand in front of it or behind it. -/
def readPortion (paint : Reading Paint) : Reading (Shade × Option Single) := do
  let before ← Reading.attempt Reading.plainPercentage
  let shade ← Reading.orRefuse (← paint).shade?
  match before with
  | some share => return (shade, some share)
  | none => return (shade, ← Reading.attempt Reading.plainPercentage)

/-- The space of a mixture, and the way from one hue to another. -/
def readSpace : Reading (Space × String) := do
  Reading.word "in"
  let space ← Reading.orRefuse (Space.mixNames.lookup (Text.lower (← Reading.ident)))
  if (space.hueFirst?).isNone then pure (space, "shorter")
  else
    let way ← Reading.attempt do
      let way ← Reading.wordOf ["shorter", "longer", "increasing", "decreasing"]
      Reading.word "hue"
      pure way
    pure (space, way.getD "shorter")

/-- The arguments of a mixture. -/
def readMixture (paint : Reading Paint) : Reading Paint := do
  let (space, way) ← readSpace
  Reading.token .comma
  let (s, p) ← readPortion paint
  Reading.token .comma
  let (t, q) ← readPortion paint
  let half : Single := .ofRatio false 1 2
  let (p, q) := match p, q with
    | none, none => (half, half)
    | some p, none => (p, Single.one.sub p)
    | none, some q => (Single.one.sub q, q)
    | some p, some q => (p, q)
  if (p.add q).isZero then Reading.refuse
  return ofMixture (← Reading.orRefuse (Shade.mix? space way s t p q))

/-- The arguments of a choice by the surroundings. A choice inside is made the same way. -/
def readEither (paint : Reading Paint) : Reading Paint := do
  let light := match ← paint with
    | .either light _ => light
    | p => p
  Reading.token .comma
  let dark := match ← paint with
    | .either _ dark => dark
    | p => p
  pure (.either light dark)

/-- A call by its name in small letters, where `paint` reads the colours in it. -/
def readCall (paint : Reading Paint) (name : String) : Reading Paint := do
  match name with
  | "color-mix" => readMixture paint
  | "light-dark" => readEither paint
  | _ =>
    match ← Reading.attempt (Reading.word "from") with
    | some () =>
      let source ← paint
      readShade name (← Reading.orRefuse (given? name source))
    | none => readShade name []

/-- A colour with calls up to a depth. -/
def readUpTo : Nat → Reading Paint
  | 0 => Reading.refuse
  | n + 1 => do
    match ← Reading.next with
    | .token t =>
      match t.kind with
      | .hash name _ => return .color (← Reading.orRefuse (Color.ofDigits? name.toList))
      | .ident name => Reading.orRefuse (ofName? name)
      | _ => Reading.refuse
    | p@(.block ..) =>
      let (name, content) ← Reading.orRefuse p.call?
      Reading.within content (readCall (readUpTo n) (Text.lower name))

/-- A paint. -/
def read : Reading Paint := do
  let some p := (Part.skipSpace (← get)).head? | throw .ended
  readUpTo p.size

/-- The paint that the call of a name is. -/
def ofCall? (name : String) (content : List Part) : Option Paint :=
  ((readCall (readUpTo (Part.sizeOfAll content)) (Text.lower name)).whole content).toOption

end Paint

end Pagefold.Css
