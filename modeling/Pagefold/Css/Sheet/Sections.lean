import Pagefold.Css.Declaration.Reader
import Pagefold.Css.Sheet

/-!
# Reading blocks that are no style rules

Keyframes, blocks of descriptors, pages and the features of fonts. What is no item of such a block
is left out of it.
-/
namespace Pagefold.Css

/-!
## Reading keyframes

The steps of an animation. Whatever is no step of declarations is left out.
-/

/-- The name of keyframes: one's own name, or a string. -/
def KeyframesName.read : Reading KeyframesName := do
  match ← Reading.attempt Reading.quoted with
  | some name => pure (.quoted name)
  | none =>
    let name ← Reading.ownName
    if Text.sameLetters name "none" then Reading.refuse else pure (.ident name)

namespace Frame

/-- The ranges of a timeline that a time may be taken of. -/
def ranges : List String :=
  ["cover", "contain", "entry", "exit", "entry-crossing", "exit-crossing"]

/-- A share of the whole as the time of a step. -/
def shareTime (fraction : Number.Single) : String :=
  if fraction.same (.ofNat 1) then "to" else shareText fraction

/-- When a step is, in its shortest form. -/
def readTime : Reading String :=
  Reading.firstOf
    [do
      let range ← Reading.wordOf ranges
      return range ++ " " ++ shareText (← Reading.percentage),
     return shareTime (← Reading.percentage),
     do
      let word ← Reading.wordOf ["from", "to"]
      pure (if word = "from" then "0%" else word)]

/-- A step, if its head and its block can be read. -/
def ofParts? (head content : List Part) : Option Frame := do
  let times ← ((Reading.commaSeparated readTime).whole head).toOption
  let block ← Block.read? content
  pure ⟨times, block⟩

/-- The steps of keyframes. The bound is on the number of items. -/
def listFrom : Nat → List Part → List Frame
  | 0, _ => []
  | n + 1, parts =>
    match parts.dropWhile fun p => p.isSpace || p.is .semicolon with
    | [] => []
    | p :: rest =>
      if p.atWord?.isSome then listFrom n (Block.item (p :: rest)).2
      else
        match Part.before (·.opensWith '{') (p :: rest) with
        | (head, .block _ content _ :: rest) => (ofParts? head content).toList ++ listFrom n rest
        | _ => []

/-- The steps of keyframes. -/
def list (parts : List Part) : List Frame := listFrom parts.length parts

end Frame

end Pagefold.Css

/-!
## Reading rules of descriptors

Fonts, palettes, counters and other things that a block of declarations describes under a head
of its own. Where a kind of rule has descriptors of its own, items that are none are left out.
-/
namespace Pagefold.Css.Descriptors

/-- A descriptor, by the readings of the descriptors that are known. -/
def item? (reading? : String → Option (Reading Value)) (item : List Part) :
    Option (Declaration × Bool) := do
  let (name, value) ← Declaration.split? item
  let small := Text.lower name
  let r := reading? small
  let content ← Content.readOrFree (r.map fun r => return .known (← r)) value
  pure (⟨if r.isSome then small else name, content⟩, false)

/-- A block of descriptors. -/
def block (reading? : String → Option (Reading Value)) (parts : List Part) : Block :=
  (Block.items parts).foldl (fun b item => ((item? reading? item).map b.add).getD b) {}

/-- A colour of a palette by its number. -/
def readOverride : Reading Value := do
  let n ← Reading.integer
  return .word (toString n ++ " " ++ (← Paint.read).text)

/-- The descriptors of a palette. -/
def palette? (name : String) : Option (Reading Value) :=
  match name with
  | "font-family" => some Font.readFamily
  | "base-palette" => some (Reading.firstOf
    [return .word (← Reading.wordOf ["light", "dark"]),
     do
      let n ← Reading.integer
      if n < 0 then Reading.refuse else pure (.word (toString n))])
  | "override-colors" => some (return .listed (← Reading.commaSeparated readOverride))
  | _ => none

/-- The descriptors of a transition between views. -/
def transition? (name : String) : Option (Reading Value) :=
  match name with
  | "navigation" => some (return .word (← Reading.wordOf ["none", "auto"]))
  | "types" => some do
    let names ← Reading.many Reading.ownName (← get).length
    pure (.spaced (names.map fun name => .word (Literal.name name)))
  | _ => none

/-- A rule of descriptors, by the name of the at-rule. -/
def rule? (name : String) (head content : List Part) : Option Rule :=
  let bare (block : Option Block) : Option Rule := do
    if (Part.trim head).isEmpty then pure (.descriptors ("@" ++ name) (← block)) else none
  let named (r : Reading String) (block : Option Block) : Option Rule := do
    let own ← (r.whole head).toOption
    pure (.descriptors ("@" ++ name ++ " " ++ Literal.name own) (← block))
  match name with
  | "font-face" => bare (some (block Font.descriptor? content))
  | "view-transition" => bare (some (block transition? content))
  | "viewport" | "-ms-viewport" => bare (Block.read? content)
  | "counter-style" => named Reading.ownName (Block.read? content)
  | "position-try" => named Reading.dashedName (Block.read? content)
  | "font-palette-values" => named Reading.dashedName (some (block palette? content))
  | _ => none

/-- The rules of descriptors. -/
def rules : List String :=
  ["font-face", "view-transition", "viewport", "-ms-viewport", "counter-style", "position-try",
   "font-palette-values"]

end Pagefold.Css.Descriptors

/-!
## Reading pages and font features

Blocks with named blocks inside them: a page with the boxes in its margins, and the features
of a font by their kinds.
-/
namespace Pagefold.Css

namespace Page

/-- The boxes in the margins of a page. -/
def margins : List String := Property.words
  ["top-left-corner top-left top-center top-right top-right-corner left-top left-middle",
   "left-bottom right-top right-middle right-bottom bottom-left-corner bottom-left",
   "bottom-center bottom-right bottom-right-corner"]

/-- The kinds of pages that have words. -/
def kinds : List String := ["left", "right", "first", "last", "blank"]

/-- The kinds of a page, without blanks between them. The bound is on their number. -/
def readKinds : Nat → Reading String
  | 0 => pure ""
  | n + 1 => do
    let parts ← get
    match ← Reading.attempt Reading.nextHere with
    | none => pure ""
    | some p =>
      if p.is .colon then return ":" ++ (← Reading.wordOf kinds) ++ (← readKinds n)
      else
        set parts
        pure ""

/-- The name of a page, its kinds, or both. -/
def readSelector : Reading (Bool × String) := do
  Reading.skipSpace
  let name ← Reading.attempt Reading.ident
  let written ← readKinds ((← get).length + 1)
  if name.isNone ∧ written = "" then Reading.refuse
  else pure (name.isSome, name.getD "" ++ written)

/-- The head of a page rule. A blank stands only before a name. -/
def head? (parts : List Part) : Option String :=
  match (Reading.commaSeparated readSelector).whole parts with
  | .ok [] => some "@page"
  | .ok ((hasName, first) :: rest) =>
    some ("@page" ++ (if hasName then " " else "") ++ ",".intercalate (first :: rest.map (·.2)))
  | .error _ => if (Part.trim parts).isEmpty then some "@page" else none

/-- What is read of a page. -/
abbrev Content := Block × List (String × Block)

/-- A page with one more item: a declaration, or a box in its margin. -/
def add (c : Content) (item : List Part) : Option Content :=
  match item with
  | p :: rest =>
    match p.atWord?, rest.getLast? with
    | some name, some (.block o content _) =>
      let small := Text.lower name
      if o.kind = .opening '{' && margins.contains small && (Part.trim rest.dropLast).isEmpty then
        (Block.read? content).map fun block => (c.1, c.2 ++ [("@" ++ small, block)])
      else none
    | some _, _ => none
    | none, _ => (Declaration.ofParts? item).map fun d => (c.1.add d, c.2)
  | [] => some c

/-- A page rule. -/
def rule? (head content : List Part) : Option Rule := do
  let head ← head? head
  let (block, named) ← (Block.items content).foldlM add (({}, []) : Content)
  pure (.sections head block named)

end Page

namespace FontFeatures

/-- The kinds of features of a font. -/
def kinds : List String :=
  ["stylistic", "historical-forms", "styleset", "character-variant", "swash", "ornaments",
   "annotation"]

/-- A feature with its numbers. -/
def feature? (item : List Part) : Option (Declaration × Bool) := do
  let (name, parts) ← Declaration.split? item
  let numbers ← ((Reading.many Reading.integer parts.length).whole parts).toOption
  if numbers.isEmpty then none
  else pure (⟨name, .known [.text (" ".intercalate (numbers.map toString))]⟩, false)

/-- More features of a kind, together with those that are there already. -/
def extend (named : List (String × Block)) (kind : String) (block : Block) :
    List (String × Block) :=
  if named.any (·.1 = kind) then
    named.map fun entry =>
      if entry.1 = kind then (kind, ⟨[], entry.2.normal ++ block.normal⟩) else entry
  else named ++ [(kind, block)]

/-- One more kind of features. -/
def add (named : List (String × Block)) (item : List Part) : Option (List (String × Block)) :=
  match item with
  | p :: rest =>
    match p.atWord?, rest.getLast? with
    | some name, some (.block _ content _) =>
      let small := Text.lower name
      if kinds.contains small && (Part.trim rest.dropLast).isEmpty then do
        let features ← (Block.items content).mapM feature?
        pure (extend named ("@" ++ small) (features.foldl Block.add {}))
      else none
    | _, _ => none
  | [] => some named

/-- The features of fonts, by the names of the fonts. -/
def rule? (head content : List Part) : Option Rule := do
  let families ← ((Reading.commaSeparated Font.readName).whole head).toOption
  let named ← (Block.items content).foldlM add []
  let written := ",".intercalate (families.map Font.familyText)
  pure (.sections ("@font-feature-values " ++ written) {} named)

end FontFeatures

end Pagefold.Css
