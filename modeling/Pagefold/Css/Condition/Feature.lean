import Pagefold.Css.Condition
import Pagefold.Css.Value

/-!
# Features and media queries

What may be asked of a medium or of a box, and the queries that a medium has to meet.
-/

/-!
## Features

A feature of a medium or of a box has a name and may be compared with values, before or after
the name or on both sides of it. What kind of value fits depends on the name. Limits that are
written with `min-` and `max-` are comparisons.
-/
namespace Pagefold.Css

open Number (Single)

/-- What the values of a feature are. -/
inductive FeatureKind where
  | length
  | ratio
  | integer
  | number
  | resolution
  | boolean
  | word
  | unknown
  deriving DecidableEq, Repr

/-- A value of a feature: its kind, and how it is written. -/
structure FeatureValue where
  kind : FeatureKind
  written : String
  deriving DecidableEq, Repr

/-- A comparison, by the mark that it is written with. -/
inductive Comparison where
  | equal
  | greater
  | greaterOrEqual
  | less
  | lessOrEqual
  deriving DecidableEq, Repr

/-- A feature by its name: mentioned, set to a value, or compared with one value or two. -/
inductive Feature where
  | mentioned (name : String)
  | valued (name : String) (value : FeatureValue)
  | compared (name : String) (by_ : Comparison) (value : FeatureValue)
  | between (name : String) (start : FeatureValue) (first : Comparison) (second : Comparison)
      (stop : FeatureValue)
  deriving Repr

namespace FeatureKind

/-- Whether values of this kind are ordered. -/
def isOrdered (kind : FeatureKind) : Bool := kind ≠ .word && kind ≠ .boolean

/-- Whether a value of one kind fits where another kind is expected. -/
def fits (expected found : FeatureKind) : Bool :=
  expected = .unknown || found = .unknown || expected = found

end FeatureKind

namespace Comparison

/-- How a comparison is written. -/
def text : Comparison → String
  | equal => "="
  | greater => ">"
  | greaterOrEqual => ">="
  | less => "<"
  | lessOrEqual => "<="

/-- The comparison with its sides exchanged. -/
def opposite : Comparison → Comparison
  | equal => equal
  | greater => less
  | greaterOrEqual => lessOrEqual
  | less => greater
  | lessOrEqual => greaterOrEqual

/-- The comparison that stands for the negation of another one. There is none that says that two
values differ; equality is kept. -/
def negated : Comparison → Comparison
  | equal => equal
  | greater => lessOrEqual
  | greaterOrEqual => less
  | less => greaterOrEqual
  | lessOrEqual => greater

/-- Whether two comparisons point the same way. -/
def agrees (a b : Comparison) : Bool :=
  let up (c : Comparison) : Bool := c = less || c = lessOrEqual
  let down (c : Comparison) : Bool := c = greater || c = greaterOrEqual
  (up a && up b) || (down a && down b)

/-- A comparison. -/
def read : Reading Comparison := do
  let orEqual (strict weak : Comparison) : Reading Comparison := do
    return if (← Reading.attempt (Reading.delim '=')).isSome then weak else strict
  let p ← Reading.next
  if p.is (.delim '=') then pure equal
  else if p.is (.delim '>') then orEqual greater greaterOrEqual
  else if p.is (.delim '<') then orEqual less lessOrEqual
  else Reading.refuse

end Comparison

namespace FeatureValue

/-- A ratio: two numbers with a slash between them, of which the second may be left out unless
it is `required`. A second number one is not written. -/
def readRatio (required : Bool) : Reading FeatureValue := do
  let width ← Reading.number
  let height ←
    if required then do
      Reading.delim '/'
      Reading.number
    else do
      let second ← Reading.attempt do
        Reading.delim '/'
        Reading.number
      pure (second.getD (.ofNat 1))
  let second := if height.same (.ofNat 1) then "" else "/" ++ height.text
  return ⟨.ratio, width.text ++ second⟩

/-- A resolution. -/
def readResolution : Reading FeatureValue := do
  match ← Reading.next with
  | .token t =>
    match t.kind with
    | .dimension n unit =>
      let small := Text.lower unit
      if small = "dppx" ∨ small = "x" then pure ⟨.resolution, dimensionText n.value "x"⟩
      else if small = "dpi" ∨ small = "dpcm" then pure ⟨.resolution, dimensionText n.value small⟩
      else Reading.refuse
    | _ => Reading.refuse
  | .block .. => Reading.refuse

/-- A word. -/
def readWord : Reading FeatureValue := return ⟨.word, Literal.name (← Reading.ident)⟩

/-- A number. -/
def readNumber : Reading FeatureValue := return ⟨.number, (← Reading.number).text⟩

/-- A value of a kind. -/
def readKnown : FeatureKind → Reading FeatureValue
  | .length => return ⟨.length, (← Extent.readLength).text⟩
  | .ratio => readRatio false
  | .integer => return ⟨.integer, toString (← Reading.integer)⟩
  | .number => readNumber
  | .resolution => readResolution
  | .boolean => do
    let n ← Reading.integer
    if n = 0 ∨ n = 1 then pure ⟨.boolean, toString n⟩ else Reading.refuse
  | .word => readWord
  | .unknown => Reading.refuse

/-- A value where a kind is expected: one of that kind, or else one of the first kind that it
can have. -/
def read (expected : FeatureKind) : Reading FeatureValue := do
  match ← Reading.attempt (Reading.firstOf
    [readKnown expected, readRatio true, readNumber,
     return ⟨.length, (← Extent.readLength).text⟩, readResolution,
     return ⟨.unknown, ← Value.readSurroundings⟩]) with
  | some value => pure value
  | none => readWord

end FeatureValue

namespace Feature

/-- Whether a text starts with the given letters, in either case. -/
def startsAs (start name : String) : Bool := (Text.lower name).startsWith start

/-- A name without its first characters. -/
def dropped (n : Nat) (name : String) : String := String.ofList (name.toList.drop n)

/-- The name of a feature as it is kept, what its values are, and the comparison that is part
of the name, if the name is in the list of known ones. The mark of a maker comes before the
comparison. -/
def limit? (known : List (String × FeatureKind)) (name : String) :
    Option (String × FeatureKind × Option Comparison) :=
  let (mark, rest) :=
    if startsAs "-webkit-" name then ("-webkit-", dropped 8 name) else ("", name)
  let (comparison, rest) :=
    if startsAs "min-" rest then (some Comparison.greaterOrEqual, dropped 4 rest)
    else if startsAs "max-" rest then (some Comparison.lessOrEqual, dropped 4 rest)
    else (none, rest)
  let small := Text.lower (mark ++ rest)
  (known.lookup small).map fun kind => (small, kind, comparison)

/-- The name of a feature: as it is written, what its values are, and the comparison in it. -/
def readName (known : List (String × FeatureKind)) :
    Reading (String × FeatureKind × Option Comparison) := do
  let name ← Reading.ident
  if name.startsWith "--" then pure (Literal.name name, .unknown, none)
  else pure ((limit? known name).getD (Literal.name name, .unknown, none))

/-- The condition cannot be one on a feature. -/
def unfit {α : Type} : Reading α := throw .unfit

/-- A feature whose name comes first. -/
def readNameFirst (known : List (String × FeatureKind)) : Reading Feature := do
  let (name, kind, limit) ← readName known
  let colon : Reading (Option Comparison) := do
    Reading.token .colon
    pure none
  let operator ← Reading.attempt (Reading.firstOf [colon, return some (← Comparison.read)])
  match operator with
  | none => pure (mentioned name)
  | some comparison => do
    if comparison.isSome && limit.isSome then unfit
    let value ← FeatureValue.read kind
    if !kind.fits value.kind then unfit
    match comparison <|> limit with
    | none => pure (valued name value)
    | some c => if kind.isOrdered then pure (compared name c value) else unfit

/-- The next name of a feature among the parts that are left. The bound is their number. -/
def findName (known : List (String × FeatureKind)) :
    Nat → Reading (String × FeatureKind)
  | 0 => unfit
  | n + 1 => do
    match ← Reading.attempt (readName known) with
    | some (name, kind, none) => pure (name, kind)
    | some _ => unfit
    | none => do
      if ← Reading.atEnd then unfit
      let _ ← Reading.next
      findName known n

/-- A feature with a value in front of its name. -/
def readValueFirst (known : List (String × FeatureKind)) : Reading Feature := do
  let parts ← get
  let (name, kind) ← findName known (parts.length + 1)
  set parts
  let value ← FeatureValue.read kind
  let first ← Comparison.read
  let _ ← readName known
  if !kind.isOrdered || !kind.fits value.kind then unfit
  match ← Reading.attempt Comparison.read with
  | none => pure (compared name first.opposite value)
  | some second => do
    if !first.agrees second then unfit
    let stop ← FeatureValue.read kind
    if !kind.fits stop.kind then unfit
    pure (between name value first second stop)

/-- A feature, of which the known names are given with what their values are. -/
def read (known : List (String × FeatureKind)) : Reading Feature := fun parts =>
  match (readNameFirst known).run parts with
  | .ok result => .ok result
  | .error .unfit => .error .unfit
  | .error _ => (readValueFirst known).run parts

/-- The feature that stands for the negation of a comparison with one value. -/
def opposite? : Feature → Option Feature
  | compared name by_ value => some (compared name by_.negated value)
  | _ => none

/-- How a feature is written. -/
def text (f : Feature) : String :=
  Condition.inParentheses <|
    match f with
    | mentioned name => name
    | valued name value => name ++ ":" ++ value.written
    | compared name by_ value => name ++ by_.text ++ value.written
    | between name start first second stop =>
      start.written ++ first.text ++ name ++ second.text ++ stop.written

end Feature

end Pagefold.Css

/-!
## Media queries

A list of queries holds for a medium if one of them does. A query names a kind of medium, asks
for features, or does both. A list that holds for every medium needs not be written.
-/
namespace Pagefold.Css

/-- A media query. The kind is `all` if none is named. -/
structure Medium where
  qualifier : Option String := none
  kind : String := "all"
  condition : Option (Condition Feature) := none
  deriving Repr

namespace Medium

/-- The features of media, with what their values are. -/
def features : List (String × FeatureKind) :=
  let all (kind : FeatureKind) (names : String) : List (String × FeatureKind) :=
    (names.splitOn " ").map fun name => (name, kind)
  all .length "width height device-width device-height" ++
    all .ratio "aspect-ratio device-aspect-ratio" ++
    all .integer "color color-index monochrome" ++
    all .integer "horizontal-viewport-segments vertical-viewport-segments" ++
    all .resolution "resolution" ++ all .boolean "grid" ++
    all .number "-webkit-device-pixel-ratio -moz-device-pixel-ratio" ++
    all .word "orientation overflow-block overflow-inline display-mode scan update" ++
    all .word "environment-blending color-gamut dynamic-range inverted-colors pointer hover" ++
    all .word "any-pointer any-hover nav-controls video-color-gamut video-dynamic-range" ++
    all .word "scripting prefers-reduced-motion prefers-reduced-transparency" ++
    all .word "prefers-contrast forced-colors prefers-color-scheme prefers-reduced-data"

/-- How conditions on media are read. -/
def grammar : Condition.Grammar Feature := { feature := Feature.read features }

/-- A condition on a medium. -/
def readCondition (mayChoose : Bool) : Reading (Condition Feature) := do
  Condition.read grammar (2 * Part.sizeOfAll (← get) + 2) mayChoose

/-- Words that are no kinds of media. -/
def reserved : List String := ["not", "and", "or", "only", "layer"]

/-- A kind of medium. -/
def readKind : Reading String := do
  let name ← Reading.ident
  let small := Text.lower name
  if reserved.contains small then Reading.refuse
  else if ["all", "print", "screen"].contains small then pure small
  else pure name

/-- A kind of medium with the word that may stand in front of it. -/
def readNamed : Reading (Option String × String) := do
  let qualifier ← Reading.attempt (Reading.wordOf ["not", "only"])
  return (qualifier, ← readKind)

/-- A media query. Features that follow a kind of medium have to hold all together. -/
def read : Reading Medium := do
  match ← Reading.attempt readNamed with
  | none => return { condition := some (← readCondition true) }
  | some (qualifier, kind) =>
    match ← Reading.attempt (Reading.word "and") with
    | some () => return ⟨qualifier, kind, some (← readCondition false)⟩
    | none => pure ⟨qualifier, kind, none⟩

/-- The media queries between the commas that are left. A list stops before a query that lacks
a part at its end; the bound is on their number. -/
def readListFrom : Nat → Reading (List Medium)
  | 0 => pure []
  | n + 1 => do
    let (item, rest) := Part.before (·.is .comma) (← get)
    set rest
    match read.whole item with
    | .error .ended => pure []
    | .error e => throw e
    | .ok m =>
      match rest with
      | [] => pure [m]
      | _ :: rest => do
        set rest
        return m :: (← readListFrom n)

/-- The media queries between commas. -/
def readList : Reading (List Medium) := do readListFrom ((← get).length + 1)

/-- How a query is written. -/
def text (m : Medium) : String :=
  let qualifier := (m.qualifier.map (· ++ " ")).getD ""
  match m.condition with
  | none => qualifier ++ m.kind
  | some c =>
    let written := c.text { alone := Feature.text, opposite? := some Feature.opposite? }
    if m.kind = "all" ∧ m.qualifier.isNone then written
    else
      let grouped := if c.isEither then Condition.inParentheses written else written
      qualifier ++ m.kind ++ " and " ++ grouped

/-- How a list of queries is written. -/
def textOfAll (ms : List Medium) : String := ",".intercalate (ms.map text)

/-- Whether a list of queries holds for every medium. -/
def isAlways (ms : List Medium) : Bool :=
  ms.all fun m => m.qualifier.isNone && m.kind = "all" && m.condition.isNone

end Medium

end Pagefold.Css
