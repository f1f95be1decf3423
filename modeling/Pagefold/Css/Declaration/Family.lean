import Pagefold.Css.Declaration.Grammar
import Pagefold.Css.Declaration.Lines

/-!
# Families of properties

What a block says about properties that belong together is settled together, and the block gets
shorter that way.
-/
namespace Pagefold.Css

/-!
## Families

Properties that say parts of one thing are a family. What a block says about a family is settled
together: of several declarations about one part the last one holds, and parts are written as one
declaration where there is a shorthand that says the same.
-/

/-- The declarations about a family that wait to be settled, with what they say together. -/
structure Run where
  declarations : List Marked := []
  entries : Entries := []

/-- What becomes of a value that its property does not know. -/
inductive OpenUse where
  /-- What waits is settled, and the value comes after it. -/
  | settles
  /-- The value waits with the others. -/
  | waits
  /-- The value gets its place, and the others wait on. -/
  | passes
  deriving DecidableEq, Repr

/-- A family of properties. -/
structure Family where
  /-- The names of its properties without marks. -/
  names : List String
  /-- What is written for a run. -/
  settle : Run → List Marked
  /-- Whether a run has to be settled before a declaration can be added to it. -/
  breaks : Run → Marked → Bool := fun run m => m.entries.any run.entries.conflicts
  /-- What is said with one more declaration. -/
  add : Entries → Marked → Entries := fun es m => m.entries.foldl Entries.put es
  /-- What becomes of open values, by the name of the property. -/
  openUse : String → OpenUse := fun _ => .settles
  /-- Whether the family in front of this one has to be settled before a declaration. -/
  settlesFormer : Run → Marked → Bool := fun _ _ => false

namespace Run

/-- A run with one more declaration of a family. -/
def add (run : Run) (f : Family) (m : Marked) : Run :=
  ⟨run.declarations ++ [m], f.add run.entries m⟩

/-- The values of a property in a run. -/
def get? (run : Run) (property : String) : Option Entry := run.entries.get? property

end Run

namespace Family

/-- The step for the shorthand of a name. -/
def allOf (name : String) : List Step :=
  ((Content.shorthands.filter fun s => s.name = name)).map .all

/-- A family whose runs are written in steps. -/
def ofSteps (names : List String) (steps : List Step) : Family where
  names
  settle run := Step.runAll steps run.entries

/-- A shorthand and its parts, in the order in which they are written alone. -/
def ofShorthand (name : String) (parts : List String) : Family :=
  ofSteps (name :: parts) (allOf name ++ Step.ones parts)

/-- Whether a property speaks of the sides of a box by the direction of the text. -/
def isLogical (name : String) : Bool :=
  (name.splitOn "-").any ["block", "inline", "start", "end"].contains

/-- Whether a run speaks of the sides of a box in another way than a declaration. -/
def changesWay (run : Run) (m : Marked) : Bool :=
  run.entries.any fun e => isLogical e.property ≠ isLogical m.name

/-! ### Boxes -/

/-- What is said about the sides of a box, by the name of the family and the starts of the names
of its properties for sides and for directions. -/
def ofSides (name side flow : String) : Family :=
  let ends (start : String) : List String := [flow ++ start ++ "-start", flow ++ start ++ "-end"]
  let physical := ["top", "bottom", "left", "right"].map (side ++ ·)
  let logical := ends "block" ++ ends "inline"
  let steps := allOf name ++ Step.ones physical ++
    ["block", "inline"].flatMap fun way => allOf (flow ++ way) ++ Step.ones (ends way)
  { ofSteps ([name, flow ++ "block", flow ++ "inline"] ++ physical ++ logical) steps with
    breaks := fun run m => changesWay run m || m.isOpen && (run.get? m.name).isSome
    openUse := fun property => if logical.contains property then .waits else .settles }

/-- The size of a box. -/
def size : Family :=
  let names := Property.words
    ["width height min-width min-height max-width max-height block-size inline-size",
     "min-block-size min-inline-size max-block-size max-inline-size"]
  { ofSteps names (Step.ones names) with breaks := changesWay }

/-- The lines around a box. -/
def border : Family where
  names :=
    let traits := ["width", "style", "color"]
    let on := Border.sides ++ Border.flows.flatMap fun (flow, ends) => flow :: ends
    "border" :: traits.map ("border-" ++ ·) ++ on.flatMap fun side =>
      ("border-" ++ side) :: traits.map (Border.named side)
  settle run := Border.written run.entries
  breaks run m := m.name ≠ "border" && changesWay run m
  add es m :=
    let es := if m.name = "border" then es.filter fun e => !isLogical e.property else es
    m.entries.foldl Entries.put es

/-- An image for the lines around a box. Its marks are those of the whole. -/
def borderImage : Family :=
  let parts := Border.imageTraits.map fun (trait, _) => "border-image-" ++ trait
  let marks (es : Entries) : List String := (es.flatMap (·.marks)).eraseDups
  { ofShorthand "border-image" parts with
    breaks := fun run m =>
      m.name ≠ "border-image" && !run.entries.isEmpty && marks run.entries ≠ [""]
    add := fun es m =>
      let all := (marks es ++ m.marks).eraseDups
      m.entries.foldl (fun es e => es.set { e with marks := all }) es
    settlesFormer := fun run m =>
      m.isOpen || m.name ≠ "border-image" && marks run.entries ≠ [""] }

/-- The corners of a box. -/
def corners : Family :=
  let shown := Border.corners.map fun corner => Step.one corner Border.cornerValue
  let logical := Border.flowCorners.map fun corner => Step.one corner Border.cornerValue
  { ofSteps ("border-radius" :: Border.corners ++ Border.flowCorners)
      (allOf "border-radius" ++ shown ++ logical) with
    breaks := fun run m => changesWay run m || m.entries.any run.entries.conflicts
    openUse := fun property => if Border.flowCorners.contains property then .waits else .settles }

/-! ### Layers -/

/-- The images that a declaration gives a background. -/
def images? (m : Marked) : Option (List Value) :=
  if m.isOpen then none
  else (m.entries.find? fun e => e.property = "background-image").map (·.values)

/-- The declarations of images in the older form of one engine, which are written in front; the
last one of all is written with the rest. -/
def olderImages (run : Run) : List Marked :=
  let found := run.declarations.filter fun m => (images? m).isSome
  let isOlder (m : Marked) : Bool := ((images? m).getD []).any Image.isMarked
  match found.reverse with
  | [] => []
  | last :: before =>
    (before.reverse ++ if isOlder last then [] else [last]).filter isOlder

/-- The layers behind an element. Where an image is cut off is written apart if it has a mark. -/
def background : Family where
  names := ["background", "background-position"] ++ Layer.properties
  breaks run m := m.name ≠ "background" && m.entries.any run.entries.conflicts
  add es m :=
    if m.name = "background" then m.entries.foldl Entries.set es
    else m.entries.foldl Entries.put es
  settle run :=
    let clip := run.get? "background-clip"
    let apart := clip.filter fun e => e.marks ≠ [""]
    let usual (e : Entry) : Entry :=
      { e with marks := [""], values := e.values.map fun _ => .word "border-box" }
    let es := match apart with
      | some e => run.entries.set (usual e)
      | none => run.entries
    let isWhole := (Step.joined? Layer.shorthand es).isSome
    let steps := Step.all Layer.shorthand ::
      Step.ones ["background-color", "background-image"] ++ .all Layer.position ::
      Step.ones (Layer.properties.drop 2)
    olderImages run ++
      if isWhole then Step.runAll steps es ++ (apart.map (Step.single .listed)).toList
      else Step.runAll steps run.entries

/-- The layers that an element is seen through. -/
def mask : Family := ofShorthand "mask" MaskLayer.properties

/-! ### Boxes inside a box -/

/-- How boxes share the room of a box. -/
def flex : Family :=
  let older := Property.words
    ["box-orient box-direction box-ordinal-group box-flex box-lines flex-positive flex-negative",
     "flex-preferred-size flex-order"]
  let ways := ["flex-direction", "flex-wrap"]
  let shares := ["flex-grow", "flex-shrink", "flex-basis"]
  ofSteps ("flex" :: "flex-flow" :: "order" :: older ++ ways ++ shares)
    (Step.ones older ++ allOf "flex-flow" ++ Step.ones ways ++ allOf "flex" ++ Step.ones shares ++
      Step.ones ["order"])

/-- How boxes are aligned in a box. -/
def alignment : Family :=
  let older := Property.words
    ["box-align box-pack flex-pack flex-align flex-item-align flex-line-pack"]
  let targets := ["content", "self", "items"]
  let both (target : String) : List String := ["align-" ++ target, "justify-" ++ target]
  let gaps := ["row-gap", "column-gap"]
  ofSteps ("gap" :: older ++ targets.map ("place-" ++ ·) ++ targets.flatMap both ++ gaps)
    (Step.ones older ++ Flex.places.map .plain ++ Step.ones (targets.flatMap both) ++ allOf "gap" ++
      Step.ones gaps)

/-- The tracks of a grid and the lines between which a box stands. -/
def grid : Family :=
  let ends (way : String) : List String := [way ++ "-start", way ++ "-end"]
  let lines := ["grid-row", "grid-column"]
  let tracks := Property.words
    ["grid-template-rows grid-template-columns grid-template-areas grid-auto-rows",
     "grid-auto-columns grid-auto-flow"]
  ofSteps ("grid" :: "grid-template" :: "grid-area" :: lines ++ lines.flatMap ends ++ tracks)
    (allOf "grid" ++ allOf "grid-template" ++ allOf "grid-area" ++
      lines.flatMap (fun way => allOf way ++ Step.ones (ends way)) ++ Step.ones tracks)

/-! ### Texts -/

/-- A font. Newer forms of capital letters are written after it, and families only once. -/
def font : Family where
  names := "font" :: Font.properties
  settle run :=
    let once (e : Entry) : Entry :=
      if e.property = "font-family" then { e with values := e.values.eraseDups } else e
    let es : Entries := run.entries.map once
    let newer := (es.get? "font-variant-caps").filter fun e =>
      !Font.oldCaps.contains (Value.listed e.values).text
    let plain := match newer with
      | some e => es.set { e with values := [.word "normal"] }
      | none => es
    match Step.joined? Font.shorthand plain with
    | some _ =>
      Step.runAll [.all Font.shorthand] plain ++ (newer.map (Step.single .listed)).toList
    | none =>
      let weight : List Value → Value := fun values => .listed (values.map Font.weightValue)
      Step.runAll
        (Step.ones ["font-family", "font-size", "font-style", "font-variant-caps"] ++
          .one "font-weight" weight :: Step.ones ["font-stretch", "line-height"]) es

/-- The lines and the marks along a text. -/
def text : Family :=
  let lines := ["line", "style", "color", "thickness"].map ("text-decoration-" ++ ·)
  let marks := ["style", "color"].map ("text-emphasis-" ++ ·)
  let place := "text-emphasis-position"
  ofSteps ("text-decoration" :: "text-emphasis" :: place :: lines ++ marks)
    (allOf "text-decoration" ++ Step.ones lines ++ allOf "text-emphasis" ++ Step.ones marks ++
      Step.ones [place])

/-! ### Changes over time -/

/-- Animations. What drives them has no place beside a mark. -/
def animation : Family where
  names := ["animation", "animation-range", "animation-range-start", "animation-range-end"] ++
    Animation.details.map (·.1)
  add es m :=
    let es := if m.name ≠ "animation" then es
      else es.filter fun e => !e.property.startsWith "animation-range"
    m.entries.foldl Entries.put es
  settle run :=
    let es := run.entries
    let timeline := "animation-timeline"
    let own := (es.get? timeline).filter fun e => !e.values.all (· = .word "auto")
    let others := es.filter fun e =>
      e.property ≠ timeline && (Animation.details.map (·.1)).contains e.property
    let marks := Entries.sharedMarks others
    let full :=
      if (es.get? timeline).isSome || marks.contains "" then es
      else
        let count := ((es.get? "animation-name").map (·.values.length)).getD 0
        es.set ⟨timeline, [""], List.replicate count (.word "auto"), false⟩
    let after := Step.ones (Animation.details.map (·.1)) ++ allOf "animation-range" ++
      Step.ones ["animation-range-start", "animation-range-end"]
    match (Step.all Animation.shorthand).run full with
    | ([], _) => Step.runAll after es
    | (written, left) =>
      written ++ (if marks = [""] then [] else (own.map (Step.single .listed)).toList) ++
        Step.runAll after left

/-- Transitions. -/
def transition : Family := ofShorthand "transition" Transition.properties

/-- Transformations. One kind of them that comes later is added to those that are there. -/
def transform : Family :=
  let singles := ["translate", "rotate", "scale"]
  { ofSteps ("transform" :: singles) (Step.ones ("transform" :: singles)) with
    breaks := fun run m => m.name = "transform" && m.entries.any run.entries.conflicts
    add := fun es m =>
      if m.name = "transform" then
        m.entries.foldl Entries.put (es.filter fun e => !singles.contains e.property)
      else
        let added := (Transform.single? m.name).bind fun r =>
          ((r.whole (Part.list m.content.text.toList)).toOption).map fun (_, t) => t.text
        match es.get? "transform", added with
        | some e, some written =>
          let before := (Value.listed e.values).text
          es.set { e with values := [.word ((if before = "none" then "" else before) ++ written)] }
        | _, _ => m.entries.foldl Entries.put es }

/-! ### Kinds of boxes -/

/-- The two words for the layout of flexible boxes in each engine. -/
def flexible : List String := ["flex", "-webkit-flex", "-ms-flexbox", "-webkit-box", "-moz-box"]

/-- Whether two kinds of boxes differ in their engine alone. -/
def differInEngine (a b : Marked) : Bool :=
  let read (m : Marked) : Option Display :=
    (Display.read.whole (Part.list m.content.text.toList)).toOption
  match read a, read b with
  | some x, some y =>
    x.outside = y.outside && x.isListItem = y.isListItem && x.inside ≠ y.inside &&
      flexible.contains x.inside && flexible.contains y.inside
  | _, _ => false

/-- The last kind of box, after those that differ from the next one in their engine alone. -/
def lastKinds : List Marked → List Marked
  | [] => []
  | [m] => [m]
  | m :: n :: rest =>
    if differInEngine m n then m :: lastKinds (n :: rest) else lastKinds (n :: rest)

/-- The kind of a box. -/
def display : Family where
  names := ["display"]
  settle run := lastKinds run.declarations

/-- Where a box stands. A box that sticks does so in every engine that was named since the last
other place. -/
def position : Family where
  names := ["position"]
  settle run :=
    let written (m : Marked) : String := m.content.text
    let sticky := run.declarations.reverse.takeWhile fun m =>
      written m = "sticky" || written m = "-webkit-sticky"
    if sticky.isEmpty then run.declarations.getLast?.toList
    else ["-webkit-sticky", "sticky"].flatMap fun word =>
      (sticky.find? fun m => written m = word).toList
  openUse _ := .passes

/-- The direction of a text. -/
def direction : Family :=
  let names := ["direction", "unicode-bidi"]
  { ofSteps names (Step.ones names) with openUse := fun _ => .passes }

/-- The families in the order in which they are written at the end of a block. -/
def all : List Family :=
  [direction, background, border, borderImage, corners,
   ofShorthand "outline" ["outline-width", "outline-style", "outline-color"], flex, grid, alignment,
   size, ofSides "margin" "margin-" "margin-", ofSides "padding" "padding-" "padding-",
   ofSides "scroll-margin" "scroll-margin-" "scroll-margin-",
   ofSides "scroll-padding" "scroll-padding-" "scroll-padding-", font, text,
   ofShorthand "list-style" ["list-style-image", "list-style-type", "list-style-position"],
   transition, animation, display, position, ofSides "inset" "" "inset-",
   ofShorthand "overflow" ["overflow-x", "overflow-y"], transform,
   ofSteps ["box-shadow"] (Step.ones ["box-shadow"]), mask,
   ofShorthand "container" ["container-name", "container-type"]]

end Family

/-!
## Shorter blocks

Of declarations of one property the last one holds, and properties that say parts of one thing
are written as one declaration where that is possible. What is said about a family waits until it
is settled: at the end of the block, or where a declaration must not change places with it. Other
declarations have their places at once, and some of them are replaced there by later ones.
-/

namespace Declaration

/-- Properties outside the families of which only the last declaration is kept, in the place of
the first. -/
def replaced : List String := Property.words
  ["color text-shadow filter backdrop-filter fill stroke caret-color caret"]

/-- Properties outside the families of which a declaration is kept in the place of the last one if
both say the same or have the same mark. -/
def gathered : List String := Property.words
  ["transform-origin transform-style backface-visibility perspective perspective-origin",
   "box-sizing tab-size hyphens text-align-last text-decoration-skip-ink text-overflow",
   "user-select appearance clip-path box-decoration-break text-size-adjust"]

/-- A block that is being settled: the declarations that have their places, the places of those
that later ones may replace, and the runs that wait, one for each family. -/
structure Settling where
  placed : Array Marked := #[]
  places : List (String × Nat) := []
  runs : List Run := Family.all.map fun _ => {}

namespace Settling

/-- A declaration at the end. -/
def push (s : Settling) (m : Marked) : Settling := { s with placed := s.placed.push m }

/-- A declaration at the end whose place is remembered by a name. -/
def pushAs (s : Settling) (name : String) (m : Marked) : Settling :=
  { s with
    placed := s.placed.push m
    places := (name, s.placed.size) :: s.places.filter (·.1 ≠ name) }

/-- A declaration in the place that is remembered by a name, or at the end. -/
def replace (s : Settling) (name : String) (m : Marked) : Settling :=
  match s.places.lookup name with
  | some n => { s with placed := s.placed.setIfInBounds n m }
  | none => s.pushAs name m

/-- A declaration that is gathered with the last one of its property, if it says the same or has
the same mark. -/
def gather (s : Settling) (m : Marked) : Settling :=
  let last := do
    let n ← s.places.lookup m.name
    pure (n, ← s.placed[n]?)
  match last with
  | some (n, old) =>
    if old.content.text = m.content.text || m.marks.all old.marks.contains then
      let both : Marked := { m with marks := (old.marks ++ m.marks).eraseDups }
      { s with placed := s.placed.setIfInBounds n both }
    else s.pushAs m.name m
  | none => s.pushAs m.name m

/-- The family of a number is settled. -/
def settle (s : Settling) (n : Nat) : Settling :=
  match Family.all[n]?, s.runs[n]? with
  | some f, some run =>
    if run.declarations.isEmpty then s
    else { s with placed := s.placed ++ f.settle run, runs := s.runs.set n {} }
  | _, _ => s

/-- All other properties are set at once: what was said before has no effect but for custom
properties and for the direction of the text, which is the first family. -/
def restart (s : Settling) (m : Marked) : Settling :=
  let custom := s.places.reverse.filter fun (name, _) => name.startsWith "--"
  let kept := custom.filterMap fun (name, n) => (s.placed[n]?).map fun old => (name, old)
  let fresh : Settling := { runs := s.runs.take 1 ++ (s.runs.drop 1).map fun _ => {} }
  (kept.foldl (fun s (name, old) => s.pushAs name old) fresh).push m

/-- One more declaration of a family. -/
def join (s : Settling) (n : Nat) (f : Family) (m : Marked) : Settling :=
  let run (s : Settling) : Run := (s.runs[n]?).getD {}
  let s := if f.settlesFormer (run s) m then s.settle (n - 1) else s
  let wait (s : Settling) : Settling :=
    let s := if f.breaks (run s) m then s.settle n else s
    { s with runs := s.runs.set n ((run s).add f m) }
  if !m.isOpen then wait s
  else
    match f.openUse m.name with
    | .settles => (s.settle n).push m
    | .passes => s.push m
    | .waits => wait s

/-- What is said about a family goes without effect. -/
def reset (s : Settling) (name : String) : Settling :=
  match Family.all.findIdx? fun f => f.names.contains name with
  | some n => { s with runs := s.runs.set n {} }
  | none => s

/-- One more declaration. A border leaves nothing of an image in its place. -/
def add (s : Settling) (d : Declaration) : Settling :=
  let m := Marked.ofDeclaration d
  if d.property.startsWith "--" then s.replace d.property m
  else if (Property.known? d.property).isNone then s.push m
  else if m.name = "all" then s.restart m
  else
    match (Family.all.zipIdx).find? fun (f, _) => f.names.contains m.name with
    | some (f, n) =>
      let s := s.join n f m
      if m.name = "border" && !m.isOpen then s.reset "border-image" else s
    | none =>
      if replaced.contains m.name then s.replace m.name m
      else if gathered.contains m.name && !m.isOpen then s.gather m
      else s.push m

/-- All declarations in their places. -/
def finish (s : Settling) : List Declaration :=
  ((List.range Family.all.length).foldl settle s).placed.toList.flatMap Marked.declarations

end Settling

end Declaration

/-- A block in its shortest form. -/
def Block.minify (b : Block) : Block :=
  let settled (ds : List Declaration) : List Declaration :=
    (ds.foldl Declaration.Settling.add {}).finish
  ⟨settled b.important, settled b.normal⟩

end Pagefold.Css
