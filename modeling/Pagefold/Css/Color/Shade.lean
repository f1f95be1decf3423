import Pagefold.Css.Color
import Pagefold.Number.Curve

/-!
# Shades

A shade is a point of a colour space. A component of it may be missing. Each space but one has a
parent space that its shades are carried over to, so that a shade reaches any other space over
their nearest common ancestor. Two shades of one space are mixed component by component.
-/
namespace Pagefold.Css

open Number (Single Fine)

/-- The spaces of colours. -/
inductive Space where
  | srgb
  | hsl
  | hwb
  | linear
  | displayP3
  | a98
  | prophoto
  | rec2020
  | xyz50
  | xyz
  | lab
  | lch
  | oklab
  | oklch
  deriving DecidableEq, Repr

/-- A shade of a space. Components that are missing have no value. -/
structure Shade where
  space : Space
  first : Option Single
  second : Option Single
  third : Option Single
  alpha : Option Single
  deriving DecidableEq, Repr

/-- Three components. -/
abbrev Triple := Single × Single × Single

namespace Space

/-- The names of the spaces that `color()` knows. -/
def names : List (String × Space) :=
  [("srgb", .srgb), ("srgb-linear", .linear), ("display-p3", .displayP3), ("a98-rgb", .a98),
   ("prophoto-rgb", .prophoto), ("rec2020", .rec2020), ("xyz-d50", .xyz50), ("xyz", .xyz),
   ("xyz-d65", .xyz)]

/-- The names of the spaces that colours can be mixed in. -/
def mixNames : List (String × Space) :=
  [("srgb", .srgb), ("srgb-linear", .linear), ("hsl", .hsl), ("hwb", .hwb), ("lab", .lab),
   ("lch", .lch), ("oklab", .oklab), ("oklch", .oklch), ("xyz", .xyz), ("xyz-d50", .xyz50),
   ("xyz-d65", .xyz)]

/-- The space that shades are carried over to on the way to all others. -/
def parent? : Space → Option Space
  | .hsl => some .srgb
  | .hwb => some .srgb
  | .srgb => some .linear
  | .linear => some .xyz
  | .displayP3 => some .xyz
  | .xyz50 => some .xyz
  | .lab => some .xyz50
  | .lch => some .lab
  | .oklab => some .xyz
  | .oklch => some .oklab
  | .a98 => none
  | .prophoto => none
  | .rec2020 => none
  | .xyz => none

/-- A space and its ancestors, nearest first. No space has more than three. -/
def line (s : Space) : List Space :=
  let rec climb : Nat → Space → List Space
    | 0, s => [s]
    | n + 1, s => s :: ((s.parent?.map (climb n)).getD [])
  climb 4 s

/-- Which component of a space is a hue, if one is: the first or the third one. -/
def hueFirst? : Space → Option Bool
  | .hsl => some true
  | .hwb => some true
  | .lch => some false
  | .oklch => some false
  | _ => none

end Space

/-! ## Formulas -/

namespace Formula

/-- A decimal fraction by its digits and the number of places. -/
def decimal (digits : Int) (places : Nat) : Single :=
  .ofInts false digits (Nat.pow 10 places)

/-- Nine numbers of a matrix in rows, each by its digits after seventeen places. -/
def matrix (rows : List Int) : List Single := rows.map fun n => decimal n 17

/-- A matrix applied to three components. -/
def apply (m : List Single) (t : Triple) : Triple :=
  let row (n : Nat) : Single :=
    let entry (k : Nat) : Single := (m[3 * n + k]?).getD .zero
    (((entry 0).mul t.1).add ((entry 1).mul t.2.1)).add ((entry 2).mul t.2.2)
  (row 0, row 1, row 2)

/-- From linear components to the axes of vision under daylight. -/
def xyzOfLinear : List Single := matrix
  [41239079926595934, 35758433938387800, 18048078840183430, 21263900587151027,
   71516867876775600, 7219231536073371, 1933081871559182, 11919477979462598, 95053215224966070]

/-- From the axes of vision to linear components. -/
def linearOfXyz : List Single := matrix
  [324096994190452260, -153738317757009400, -49861076029300340, -96924363628087960,
   187596750150772020, 4155505740717559, 5563007969699366, -20397695888897652,
   105697151424287860]

/-- From the linear components of wide screens to the axes of vision. -/
def xyzOfWide : List Single := matrix
  [48657094864821620, 26566769316909306, 19821728523436250, 22897456406974880,
   69173852183650640, 7928691409374500, 0, 4511338185890264, 104394436890097600]

/-- From the axes of vision to the linear components of wide screens. -/
def wideOfXyz : List Single := matrix
  [249349691194142500, -93138361791912390, -40271078445071684, -82948896956157470,
   176266406031834630, 2362468584194358, 3584583024378447, -7617238926804182,
   95688452400768720]

/-- From daylight to the light of print. -/
def printOfDaylight : List Single := matrix
  [104792982084054880, 2294679334101909, -5019222954313557, 2962781568815934,
   99043448457324900, -1707382502938514, -924305815259118, 1505514489657790,
   75187428995800080]

/-- From the light of print to daylight. -/
def daylightOfPrint : List Single := matrix
  [95547345270421820, -2309853687426142, 6325930866102170, -2836970696320814,
   100999545800582260, 2104139896694301, 1231400168831990, -2050769643347791,
   133036593660807530]

/-- From the axes of vision to the responses of the eye. -/
def eyeOfXyz : List Single := matrix
  [81902244321643190, 36190625628012210, -12887378261216414, 3298366719802710,
   92928684689655460, 3614466816999844, 4817719956604626, 26423952494422764,
   63354782581369370]

/-- From the responses of the eye to the axes of vision. -/
def xyzOfEye : List Single := matrix
  [122687987337415570, -55781499655548130, 28139105017721583, -4057576262431372,
   111228682939705940, -7171106666151701, -7637294974672142, -42149332396279140,
   158692402442724180]

/-- From the roots of the responses to perceived lightness and two opponent axes. -/
def perceivedOfRoots : List Single := matrix
  [21045425530000000, 79361777850000000, -407204680000000, 197799849510000000,
   -242859220500000000, 45059370990000000, 2590403710000000, 78277176620000000,
   -80867576600000000]

/-- From perceived lightness and opponent axes to the roots of the responses. -/
def rootsOfPerceived : List Single := matrix
  [99999999845051981, 39633779217376786, 21580375806075880, 100000000888176078,
   -10556134232365635, -6385417477170590, 100000005467241092, -8948418209496576,
   -129148553786409174]

/-- Each component with a function. -/
def each (f : Single → Single) (t : Triple) : Triple := (f t.1, f t.2.1, f t.2.2)

/-- A component as it grows with the amount of light. -/
def linearOfCoded (c : Single) : Single :=
  let size := c.abs
  if size.below (decimal 4045 5) then c.per (decimal 1292 2)
  else
    let grown := ((size.add (decimal 55 3)).per (decimal 1055 3)).powerOf (decimal 24 1)
    if c.isNegative then grown.neg else grown

/-- A component as it is stored. -/
def codedOfLinear (c : Single) : Single :=
  let size := c.abs
  if (decimal 31308 7).below size then
    let root := size.powerOf (Single.one.per (decimal 24 1))
    let coded := ((decimal 1055 3).mul root).sub (decimal 55 3)
    if c.isNegative then coded.neg else coded
  else c.mul (decimal 1292 2)

/-- The white of print. -/
def white : Triple :=
  ((decimal 3457 4).per (decimal 3585 4), .one,
   ((Single.one.sub (decimal 3457 4)).sub (decimal 3585 4)).per (decimal 3585 4))

/-- The bound below which lightness grows with the amount of light. -/
def dark : Single := .ofRatio false 216 24389

/-- How fast it grows there. -/
def slope : Single := .ofRatio false 24389 27

/-- From the axes of vision to lightness out of a hundred and two opponent axes. -/
def labOfXyz (t : Triple) : Triple :=
  let f (x w : Single) : Single :=
    let share := x.per w
    if dark.below share then share.cbrt
    else ((slope.mul share).add (.ofNat 16)).per (.ofNat 116)
  let a := f t.1 white.1
  let b := f t.2.1 white.2.1
  let c := f t.2.2 white.2.2
  (((Single.ofNat 116).mul b).sub (.ofNat 16), (Single.ofNat 500).mul (a.sub b),
   (Single.ofNat 200).mul (b.sub c))

/-- From lightness and opponent axes to the axes of vision. -/
def xyzOfLab (t : Triple) : Triple :=
  let b := (t.1.add (.ofNat 16)).per (.ofNat 116)
  let a := (t.2.1.per (.ofNat 500)).add b
  let c := b.sub (t.2.2.per (.ofNat 200))
  let cube (x : Single) : Single := (x.mul x).mul x
  let back (x : Single) : Single :=
    if dark.below (cube x) then cube x
    else (((Single.ofNat 116).mul x).sub (.ofNat 16)).per slope
  let y :=
    if (slope.mul dark).below t.1 then cube b else t.1.per slope
  ((back a).mul white.1, y.mul white.2.1, (back c).mul white.2.2)

/-- From two axes to a distance and an angle in degrees. -/
def polar (t : Triple) : Triple :=
  let distance := (((t.2.1.mul t.2.1).add (t.2.2.mul t.2.2)).sqrt?).getD .zero
  let degrees := (Fine.toSingle (t.2.2.atan2 t.2.1)).mul (.ofRatio false 18000000000000 314159265359)
  (t.1, distance, if degrees.isNegative then degrees.add (.ofNat 360) else degrees)

/-- From a distance and an angle to two axes. -/
def axes (t : Triple) : Triple :=
  let angle := t.2.2.mul (.ofRatio false 314159265359 18000000000000)
  (t.1, t.2.1.mul (angle.through .cos), t.2.1.mul (angle.through .sin))

/-- The greater of two numbers. -/
def greater (x y : Single) : Single := if x.below y then y else x

/-- The lesser of two numbers. -/
def lesser (x y : Single) : Single := if y.below x then y else x

/-- The hue, the saturation and the lightness of three components. Grey has no hue. -/
def hslOfRgb (t : Triple) : Option Single × Single × Single :=
  let (r, g, b) := t
  let most := greater (greater r g) b
  let least := lesser (lesser r g) b
  let l := (least.add most).per (.ofNat 2)
  let d := most.sub least
  if d.isZero then (none, .zero, l)
  else
    let s :=
      if l.isZero || l.same .one then .zero
      else (most.sub l).per (lesser l (Single.one.sub l))
    let sixths :=
      if most.same r then
        let h := (g.sub b).per d
        if g.below b then h.add (.ofNat 6) else h
      else if most.same g then ((b.sub r).per d).add (.ofNat 2)
      else ((r.sub g).per d).add (.ofNat 4)
    (some (sixths.mul (.ofNat 60)), s, l)

/-- A component from two bounds and a place on the circle of hues, in thirds of it. -/
def onCircle (m₁ m₂ h : Single) : Single :=
  let three := Single.ofNat 3
  let h := if h.isNegative then h.add three else if three.below h then h.sub three else h
  let twice := h.mul (.ofNat 2)
  if twice.below .one then m₁.add (((m₂.sub m₁).mul h).mul (.ofNat 2))
  else if twice.below three then m₂
  else if h.below (.ofNat 2) then
    m₁.add (((m₂.sub m₁).mul ((Single.ofNat 2).sub h)).mul (.ofNat 2))
  else m₁

/-- Three components from a hue in degrees, a saturation and a lightness. -/
def rgbOfHsl (t : Triple) : Triple :=
  let (h, s, l) := t
  let turns := h.per (.ofNat 360)
  let part := (h.sub ((Single.ofNat 360).mul turns.floor)).per (.ofNat 360)
  let m₂ :=
    if (decimal 5 1).below l then (l.add s).sub (l.mul s) else l.mul (s.add .one)
  let m₁ := (l.mul (.ofNat 2)).sub m₂
  let thirds := part.mul (.ofNat 3)
  (onCircle m₁ m₂ (thirds.add .one), onCircle m₁ m₂ thirds, onCircle m₁ m₂ (thirds.sub .one))

/-- Three components from a hue, a whiteness and a blackness. -/
def rgbOfHwb (t : Triple) : Triple :=
  let (h, w, b) := t
  let both := w.add b
  if !both.below .one then
    let grey := w.per both
    (grey, grey, grey)
  else
    let rest := (Single.one.sub w).sub b
    each (fun c => (c.mul rest).add w) (rgbOfHsl (h, .one, decimal 5 1))

end Formula

namespace Shade

/-- The components of a shade, where missing ones are zero. -/
def triple (s : Shade) : Triple := (s.first.getD .zero, s.second.getD .zero, s.third.getD .zero)

/-- A shade of another space with given components. -/
def withTriple (s : Shade) (space : Space) (t : Triple) : Shade :=
  ⟨space, some t.1, some t.2.1, some t.2.2, s.alpha⟩

/-- A shade carried over to the parent of its space. -/
def up? (s : Shade) : Option Shade := do
  let t := s.triple
  let parent ← s.space.parent?
  let carried ← match s.space with
    | .hsl => some (Formula.rgbOfHsl t)
    | .hwb => some (Formula.rgbOfHwb t)
    | .srgb => some (Formula.each Formula.linearOfCoded t)
    | .linear => some (Formula.apply Formula.xyzOfLinear t)
    | .displayP3 =>
      some (Formula.apply Formula.xyzOfWide (Formula.each Formula.linearOfCoded t))
    | .xyz50 => some (Formula.apply Formula.daylightOfPrint t)
    | .lab => some (Formula.xyzOfLab t)
    | .lch => some (Formula.axes t)
    | .oklch => some (Formula.axes t)
    | .oklab =>
      let cube (x : Single) : Single := (x.mul x).mul x
      some (Formula.apply Formula.xyzOfEye
        (Formula.each cube (Formula.apply Formula.rootsOfPerceived t)))
    | _ => none
  pure (s.withTriple parent carried)

/-- A shade of the parent of a space carried over to the space. -/
def down? (s : Shade) (space : Space) : Option Shade :=
  let t := s.triple
  let carry (t : Triple) : Option Shade := some (s.withTriple space t)
  match space with
  | .hsl =>
    let (h, saturation, l) := Formula.hslOfRgb t
    some ⟨.hsl, h, some saturation, some l, s.alpha⟩
  | .hwb =>
    let (h, _, _) := Formula.hslOfRgb t
    let least := Formula.lesser (Formula.lesser t.1 t.2.1) t.2.2
    let most := Formula.greater (Formula.greater t.1 t.2.1) t.2.2
    some ⟨.hwb, h, some least, some (Single.one.sub most), s.alpha⟩
  | .srgb => carry (Formula.each Formula.codedOfLinear t)
  | .linear => carry (Formula.apply Formula.linearOfXyz t)
  | .displayP3 =>
    carry (Formula.each Formula.codedOfLinear (Formula.apply Formula.wideOfXyz t))
  | .xyz50 => carry (Formula.apply Formula.printOfDaylight t)
  | .lab => carry (Formula.labOfXyz t)
  | .lch => carry (Formula.polar t)
  | .oklch => carry (Formula.polar t)
  | .oklab =>
    carry (Formula.apply Formula.perceivedOfRoots
      (Formula.each Single.cbrt (Formula.apply Formula.eyeOfXyz t)))
  | _ => none

/-- A shade carried over to the nearest ancestor of its space that is among some spaces. The
bound is on the number of steps. -/
def climbTo? (spaces : List Space) : Nat → Shade → Option Shade
  | 0, _ => none
  | n + 1, s => if spaces.contains s.space then some s else s.up?.bind (climbTo? spaces n)

/-- A shade carried over to another space, if there is a way. -/
def to? (space : Space) (s : Shade) : Option Shade := do
  if s.space = space then return s
  let line := space.line
  let top ← climbTo? line 5 s
  (line.takeWhile (· ≠ top.space)).reverse.foldlM down? top

/-- The shade of a colour. -/
def ofColor (c : Color) : Shade :=
  let share (n : Nat) : Option Single := some (.ofRatio false n 255)
  ⟨.srgb, share c.red, share c.green, share c.blue, share c.alpha⟩

/-- A component out of 255 steps. -/
def step (c : Single) : Nat :=
  if c.isNegative then 0 else min 255 (c.mul (.ofNat 255)).rounded

/-- The colour nearest to a shade, where missing components are zero. -/
def color? (s : Shade) : Option Color :=
  (s.to? .srgb).map fun s =>
    let (r, g, b) := s.triple
    ⟨step r, step g, step b, step (s.alpha.getD .zero)⟩

/-- Whether a component is missing. -/
def isPartial (s : Shade) : Bool :=
  s.first.isNone || s.second.isNone || s.third.isNone || s.alpha.isNone

/-! ## Mixing -/

/-- Whether a component is as good as zero. -/
def isTiny (c : Option Single) : Bool :=
  c.any fun x => x.abs.below (.ofRatio false 1 8388608)

/-- A shade without the components that make no difference to it. -/
def withoutPowerless (s : Shade) : Shade :=
  let whole (c : Option Single) : Bool := isTiny (c.map (·.sub .one))
  match s.space with
  | .hsl =>
    let s := if isTiny s.second then { s with first := none } else s
    if isTiny s.third || whole s.third then { s with first := none, second := none } else s
  | .hwb =>
    match s.second, s.third with
    | some w, some b => if whole (some (w.add b)) then { s with first := none } else s
    | _, _ => s
  | .lab => if isTiny s.first then { s with second := none, third := none } else s
  | .oklab => if isTiny s.first then { s with second := none, third := none } else s
  | .lch | .oklch =>
    let s := if isTiny s.second then { s with third := none } else s
    if isTiny s.first then { s with second := none, third := none } else s
  | _ => s

/-- A shade whose missing components are those of another one. -/
def filledFrom (s t : Shade) : Shade :=
  ⟨s.space, s.first <|> t.first, s.second <|> t.second, s.third <|> t.third, s.alpha <|> t.alpha⟩

/-- Two hues as they are approached along the circle of hues in one of four ways. -/
def arc (way : String) (a b : Single) : Single × Single :=
  let full := Single.ofNat 360
  let half := Single.ofNat 180
  let turn (x : Single) : Single := ((((x.rem? full).getD x).add full).rem? full).getD x
  let a := turn a
  let b := turn b
  let d := b.sub a
  match way with
  | "longer" =>
    if Single.zero.below d && d.below half then (a.add full, b)
    else if half.neg.below d && !Single.zero.below d then (a, b.add full)
    else (a, b)
  | "increasing" => if b.below a then (a, b.add full) else (a, b)
  | "decreasing" => if a.below b then (a.add full, b) else (a, b)
  | _ =>
    if half.below d then (a.add full, b)
    else if d.below half.neg then (a, b.add full)
    else (a, b)

/-- Two shades of one space with hues that are approached in the given way. -/
def withArc (way : String) (s t : Shade) : Shade × Shade :=
  match s.space.hueFirst?, s.first, t.first, s.third, t.third with
  | some true, some a, some b, _, _ =>
    let (a, b) := arc way a b
    ({ s with first := some a }, { t with first := some b })
  | some false, _, _, some a, some b =>
    let (a, b) := arc way a b
    ({ s with third := some a }, { t with third := some b })
  | _, _, _, _, _ => (s, t)

/-- A shade with an operation on each component that is no hue. -/
def mapAxes (f : Single → Single) (s : Shade) : Shade :=
  match s.space.hueFirst? with
  | some true => { s with second := s.second.map f, third := s.third.map f }
  | some false => { s with first := s.first.map f, second := s.second.map f }
  | none => { s with first := s.first.map f, second := s.second.map f, third := s.third.map f }

/-- A shade with its components times its alpha component. -/
def premultiplied (s : Shade) : Shade :=
  match s.alpha with
  | some alpha => s.mapAxes (·.mul alpha)
  | none => s

/-- A shade with its components divided by its alpha component, which is scaled afterwards. -/
def unmultiplied (scale : Single) (s : Shade) : Shade :=
  match s.alpha with
  | some alpha =>
    if alpha.isZero then s
    else { s.mapAxes (·.per alpha) with alpha := some (alpha.mul scale) }
  | none => s

/-- A shade as it goes into a mixture in a space. -/
def prepared? (space : Space) (s : Shade) : Option Shade :=
  if s.space = space then some s else (s.to? space).map withoutPowerless

/-- Two shades mixed in a space by their shares. -/
def mix? (space : Space) (way : String) (s t : Shade) (p q : Single) : Option Shade := do
  let s ← s.prepared? space
  let t ← t.prepared? space
  let (s, t) := (s.filledFrom t, t.filledFrom s)
  let (s, t) := withArc way s t
  let (s, t) := (s.premultiplied, t.premultiplied)
  let total := p.add q
  let (p, q) := if total.same .one then (p, q) else (p.per total, q.per total)
  let blend (a b : Option Single) : Option Single := do
    return ((← a).mul p).add ((← b).mul q)
  let mixed : Shade :=
    ⟨space, blend s.first t.first, blend s.second t.second, blend s.third t.third,
      blend s.alpha t.alpha⟩
  pure (mixed.unmultiplied (if Single.one.below total then .one else total))

/-! ## Writing -/

/-- How a component is written. -/
def componentText (c : Option Single) : String := (c.map Single.text).getD "none"

/-- How the alpha component is written behind the others, unless it is one. -/
def alphaText (s : Shade) : String :=
  if isTiny (s.alpha.map (·.sub .one)) then "" else "/" ++ componentText s.alpha

/-- How a shade of one of the spaces with a call of its own is written. The lightness is a
share of the given number. -/
def lightnessText (name : String) (scale : Nat) (s : Shade) : String :=
  let share := (s.first.map fun l => (l.times 100 scale).text ++ "%").getD "none"
  name ++ "(" ++ " ".intercalate [share, componentText s.second, componentText s.third] ++
    s.alphaText ++ ")"

/-- How a shade is written in the general way. -/
def generalText (s : Shade) : String :=
  let name := ((Space.names.find? (·.2 = s.space)).map (·.1)).getD ""
  "color(" ++ " ".intercalate
    [name, componentText s.first, componentText s.second, componentText s.third] ++
    s.alphaText ++ ")"

/-- How a shade is written. -/
def text (s : Shade) : String :=
  match s.space with
  | .lab => s.lightnessText "lab" 100
  | .lch => s.lightnessText "lch" 100
  | .oklab => s.lightnessText "oklab" 1
  | .oklch => s.lightnessText "oklch" 1
  | .hsl | .hwb => ((s.color?).map Color.text).getD s.generalText
  | _ => s.generalText

end Shade

end Pagefold.Css
