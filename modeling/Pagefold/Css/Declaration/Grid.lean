import Pagefold.Css.Declaration.Box

/-!
# Grids

The tracks of a grid with the names of the lines between them, its named areas, and the lines that
a box reaches from and to. Rows, columns and areas can be written together where the rows and
columns are not repeated.
-/
namespace Pagefold.Css

namespace Grid

/-! ## Tracks -/

/-- Names of lines, as they are written; there may be none. -/
def readNames : Reading (List String) := do
  match ← Reading.attempt (do Reading.orRefuse ((← Reading.next).content? '[')) with
  | some content => Reading.within content do
    return (← Reading.many Reading.ownName (← get).length).map Literal.name
  | none => pure []

/-- How the names of a line are written. -/
def namesText (names : List String) : String :=
  if names.isEmpty then "" else "[" ++ " ".intercalate names ++ "]"

/-- A share of the room that is left. -/
def readFraction : Reading String := do
  match ← Reading.next with
  | .token ⟨.dimension n unit, _⟩ =>
    if Text.sameLetters unit "fr" then pure (dimensionText n.value "fr") else Reading.refuse
  | _ => Reading.refuse

/-- A breadth of a track that does not depend on the room that is left. -/
def readFixed : Reading String :=
  Reading.firstOf
    [return (← Extent.read).text, Reading.wordOf ["auto", "min-content", "max-content"]]

/-- A breadth of a track. -/
def readBreadth : Reading String := Reading.firstOf [readFixed, readFraction]

/-- The size of a track. -/
def readSize : Reading String :=
  Reading.firstOf
    [readBreadth,
     do
      Reading.within (← Reading.callOf "minmax") do
        let least ← readFixed
        Reading.token .comma
        return "minmax(" ++ least ++ "," ++ (← readBreadth) ++ ")",
     do
      let limit ← Reading.within (← Reading.callOf "fit-content") Extent.read
      return "fit-content(" ++ limit.text ++ ")"]

/-- Tracks with the names of the lines in front of them and behind the last one. -/
structure Tracks where
  lines : List (List String)
  sizes : List String
  /-- Whether no track is repeated. -/
  isExplicit : Bool := true
  deriving DecidableEq, Repr

/-- How tracks and the names of lines are written. -/
def tracksText : Bool → List (List String) → List String → String
  | _, [], sizes => " ".intercalate sizes
  | isFirst, names :: lines, sizes =>
    match sizes with
    | [] => namesText names
    | size :: rest =>
      let gap := if names.isEmpty && !isFirst then " " else ""
      namesText names ++ gap ++ size ++ tracksText false lines rest

/-- How tracks are written. -/
def Tracks.text (t : Tracks) : String := tracksText true t.lines t.sizes

/-- Tracks, where one of them is read by `track`, with whether it is repeated. The bound is on
their number. -/
def readTracksFrom (track : Reading (String × Bool)) : Nat → Reading Tracks
  | 0 => Reading.refuse
  | n + 1 => do
    let names ← readNames
    match ← Reading.attempt track with
    | some (size, isRepeated) =>
      let rest ← readTracksFrom track n
      pure ⟨names :: rest.lines, size :: rest.sizes, !isRepeated && rest.isExplicit⟩
    | none => pure ⟨[names], [], true⟩

/-- Tracks that are repeated. -/
def readRepeat : Reading String := do
  Reading.within (← Reading.callOf "repeat") do
    let count ← Reading.firstOf
      [return toString (← Reading.integer), Reading.wordOf ["auto-fill", "auto-fit"]]
    Reading.token .comma
    let single : Reading (String × Bool) := return (← readSize, false)
    let tracks ← readTracksFrom single ((← get).length + 1)
    return "repeat(" ++ count ++ "," ++ tracks.text ++ ")"

/-- A list of tracks. -/
def readTracks : Reading Tracks := do
  let track : Reading (String × Bool) :=
    Reading.firstOf [return (← readSize, false), return (← readRepeat, true)]
  let tracks ← readTracksFrom track ((← get).length + 1)
  if tracks.sizes.isEmpty then Reading.refuse else pure tracks

/-- Tracks, or none. -/
def readTemplate : Reading (Option Tracks) := do
  match ← Reading.attempt (Reading.word "none") with
  | some () => pure none
  | none => return some (← readTracks)

/-- How tracks are written, or none. -/
def templateText (t : Option Tracks) : String := (t.map Tracks.text).getD "none"

/-- The sizes of tracks that nothing is said about. -/
def readAutoSizes : Reading String := do
  let sizes ← Reading.many readSize (← get).length
  pure (if sizes.isEmpty then "auto" else " ".intercalate sizes)

/-- The direction in which boxes are put into the tracks, and whether holes are filled. -/
def readFlow : Reading String := do
  match ← Reading.someOf [Reading.wordOf ["row", "column"], Reading.wordOf ["dense"]] with
  | [direction, dense] =>
    let direction := direction.filter fun word => word = "column" || dense.isNone
    pure (" ".intercalate (direction.toList ++ dense.toList))
  | _ => Reading.refuse

/-! ## Areas -/

/-- Names of areas in rows; a cell without a name is in no area. -/
abbrev Areas := List (List (Option String))

/-- The cells of a row that a string describes. The bound is on the number of characters. -/
def cellsFrom : Nat → List Char → Option (List (Option String))
  | 0, _ => some []
  | n + 1, s =>
    match s.dropWhile Token.isBlank with
    | [] => some []
    | '.' :: rest => do
      return none :: (← cellsFrom n (rest.dropWhile (· == '.')))
    | s => do
      let name := s.takeWhile Token.isNameChar
      if name.isEmpty then none
      return some (String.ofList name) :: (← cellsFrom n (s.drop name.length))

/-- The cells of a row; there is at least one. -/
def cells? (s : String) : Option (List (Option String)) := do
  let cells ← cellsFrom (s.length + 1) s.toList
  if cells.isEmpty then none else pure cells

/-- How the cells after others are written; `inArea` tells that the last cell was in an area. -/
def cellsText : Bool → List (Option String) → String
  | _, [] => ""
  | inArea, some name :: rest => (if inArea then " " else "") ++ name ++ cellsText true rest
  | inArea, none :: rest => (if inArea then "" else " ") ++ "." ++ cellsText false rest

/-- How a row is written. -/
def rowText : List (Option String) → String
  | [] => "\"\""
  | some name :: rest => "\"" ++ name ++ cellsText true rest ++ "\""
  | none :: rest => "\"." ++ cellsText false rest ++ "\""

/-- Rows of one length. -/
def checked (areas : Areas) : Reading Areas := do
  match areas with
  | [] => Reading.refuse
  | row :: rest => if rest.all (·.length == row.length) then pure areas else Reading.refuse

/-- Areas, or none. -/
def readAreas : Reading Areas := do
  match ← Reading.attempt (Reading.word "none") with
  | some () => pure []
  | none =>
    let row : Reading (List (Option String)) := do
      Reading.orRefuse (cells? (← Reading.quoted))
    checked (← Reading.many row (← get).length)

/-- How areas are written. -/
def areasText (areas : Areas) : String :=
  if areas.isEmpty then "none" else "".intercalate (areas.map rowText)

/-! ## Templates -/

/-- The tracks and the areas of a grid. -/
structure Template where
  rows : Option Tracks := none
  columns : Option Tracks := none
  areas : Areas := []
  deriving DecidableEq, Repr

/-- A row of areas with the size of its track and the names of the lines around it. -/
def readAreaRow : Reading (List String × List (Option String) × String × List String) := do
  let before ← readNames
  let cells ← Reading.orRefuse (cells? (← Reading.quoted))
  let size := (← Reading.attempt readSize).getD "auto"
  return (before, cells, size, ← readNames)

/-- The names of the lines between rows: those behind a row and those in front of the next. -/
def linesOf : List String → List (List String × List String) → List (List String)
  | pending, [] => [pending]
  | pending, (before, after) :: rest => (pending ++ before) :: linesOf after rest

/-- Rows of areas with their tracks, and columns behind a slash. -/
def readAreaTemplate : Reading Template := do
  let rows ← Reading.many readAreaRow (← get).length
  let areas ← checked (rows.map fun row => row.2.1)
  let lines := linesOf [] (rows.map fun (before, _, _, after) => (before, after))
  let columns ← match ← Reading.attempt (Reading.delim '/') with
    | some () =>
      let tracks ← readTracks
      if tracks.isExplicit then pure (some tracks) else Reading.refuse
    | none => pure none
  pure ⟨some ⟨lines, rows.map fun row => row.2.2.1, true⟩, columns, areas⟩

/-- Rows and columns with a slash between them. -/
def readTrackTemplate : Reading Template := do
  let rows ← readTemplate
  Reading.delim '/'
  return { rows, columns := ← readTemplate }

/-- The tracks and the areas of a grid. -/
def readWhole : Reading Template := do
  let nothing : Reading Template := do
    Reading.word "none"
    Reading.finish
    pure {}
  Reading.firstOf [nothing, readAreaTemplate, readTrackTemplate]

/-- How rows of areas are written with their tracks. -/
def areaRowsText : Areas → List (List String) → List String → String
  | [], names :: _, _ => namesText names
  | [], [], _ => ""
  | row :: rest, lines, sizes =>
    let size := (sizes.head?.filter (· ≠ "auto")).getD ""
    namesText (lines.head?.getD []) ++ rowText row ++ size ++
      areaRowsText rest (lines.drop 1) (sizes.drop 1)

/-- How tracks and areas are written together, if they can be. -/
def Template.text? (t : Template) : Option String :=
  if t.areas.isEmpty then
    if t.rows.isNone && t.columns.isNone then some "none"
    else some (templateText t.rows ++ "/" ++ templateText t.columns)
  else
    match t.rows with
    | some rows =>
      if !rows.isExplicit || !t.columns.all (·.isExplicit) then none
      else some (areaRowsText t.areas rows.lines rows.sizes ++
        (t.columns.map ("/" ++ ·.text)).getD "")
    | none => none

/-- The words that let boxes flow along a direction. -/
def readAutoFlow (direction : String) : Reading String := do
  match ← Reading.anyOrder [Reading.wordOf ["auto-flow"], Reading.wordOf ["dense"]] with
  | [some _, dense] =>
    let words := if direction = "row" && dense.isSome then [] else [direction]
    pure (" ".intercalate (words ++ dense.toList))
  | _ => Reading.refuse

/-- All that is said about a grid: its tracks and areas, and how further tracks are made. -/
structure Whole where
  template : Template := {}
  autoRows : String := "auto"
  autoColumns : String := "auto"
  flow : String := "row"
  deriving DecidableEq, Repr

/-- All that is said about a grid. -/
def readGrid : Reading Whole := do
  let explicit : Reading Whole := do
    let template ← readWhole
    Reading.finish
    pure { template }
  let byColumns : Reading Whole := do
    let rows ← readTemplate
    Reading.delim '/'
    let flow ← readAutoFlow "column"
    return { template := { rows }, flow, autoColumns := ← readAutoSizes }
  let byRows : Reading Whole := do
    let flow ← readAutoFlow "row"
    let autoRows ← readAutoSizes
    Reading.delim '/'
    return { template := { columns := ← readTemplate }, flow, autoRows }
  Reading.firstOf [explicit, byColumns, byRows]

/-- How all that is said about a grid is written together, if it can be. -/
def Whole.text? (g : Whole) : Option String :=
  let t := g.template
  let isColumn := g.flow.startsWith "column"
  let dense := if g.flow.endsWith "dense" then " dense" else ""
  let sizes (written : String) : String := if written = "auto" then "" else " " ++ written
  if g.autoRows = "auto" && g.autoColumns = "auto" && g.flow = "row" then t.text?
  else if !t.areas.isEmpty then none
  else if isColumn then
    if t.columns.isSome || g.autoRows ≠ "auto" then none
    else some (templateText t.rows ++ "/auto-flow" ++ dense ++ sizes g.autoColumns)
  else if t.rows.isSome || g.autoColumns ≠ "auto" then none
  else some ("auto-flow" ++ dense ++ sizes g.autoRows ++ "/" ++ templateText t.columns)

/-! ## Shorthands -/

/-- What is read from a value, if it is all of it. -/
def ofValue? {α : Type} (r : Reading α) (v : Value) : Option α :=
  (r.whole (Part.list v.text.toList)).toOption

/-- The template that some values describe. -/
def template? : List Value → Option Template
  | [rows, columns, areas] => do
    return ⟨← ofValue? readTemplate rows, ← ofValue? readTemplate columns,
      ← ofValue? readAreas areas⟩
  | _ => none

/-- What a template says, by the properties of one. -/
def Template.said (t : Template) : List Value :=
  [.word (templateText t.rows), .word (templateText t.columns), .word (areasText t.areas)]

/-- The properties of a template. -/
def templateProperties : List String :=
  ["grid-template-rows", "grid-template-columns", "grid-template-areas"]

/-- The property for tracks and areas. -/
def template : Shorthand :=
  .of "grid-template" templateProperties
    (return (← readWhole).said.map ([·]))
    fun said => do
      let written ← (← template? (← Shorthand.singles? said)).text?
      pure (.word written)

/-- The property for all that is said about a grid. -/
def grid : Shorthand :=
  .of "grid" (templateProperties ++ ["grid-auto-rows", "grid-auto-columns", "grid-auto-flow"])
    (do
      let g ← readGrid
      let auto := [g.autoRows, g.autoColumns, g.flow].map Value.word
      return (g.template.said ++ auto).map ([·]))
    fun said => do
      match ← Shorthand.singles? said with
      | [rows, columns, areas, autoRows, autoColumns, flow] =>
        let template ← template? [rows, columns, areas]
        let g : Whole := ⟨template, autoRows.text, autoColumns.text, flow.text⟩
        pure (.word (← g.text?))
      | _ => none

/-! ## Lines -/

/-- A line of a grid: any, one by the name of an area, one by its number and its name, or one that
is so many lines away. -/
inductive Line where
  | auto
  | area (name : String)
  | line (index : Int) (name : Option String)
  | span (index : Int) (name : Option String)
  deriving DecidableEq, Repr

/-- A name and a number in either order, of which one is given. -/
def readIndexed : Reading (Option Int × Option String) := do
  match ← Reading.attempt Reading.integer with
  | some n =>
    if n = 0 then Reading.refuse
    return (some n, ← Reading.attempt Reading.ownName)
  | none =>
    let name ← Reading.ownName
    let n ← Reading.attempt Reading.integer
    if n = some 0 then Reading.refuse
    pure (n, some name)

/-- A line. -/
def readLine : Reading Line := do
  match ← Reading.attempt (Reading.wordOf ["auto", "span"]) with
  | some "auto" => pure .auto
  | some _ =>
    let (n, name) ← readIndexed
    pure (.span (n.getD 1) name)
  | none =>
    match ← readIndexed with
    | (some n, name) => pure (.line n name)
    | (none, some name) => pure (.area name)
    | (none, none) => Reading.refuse

/-- How a line is written. -/
def Line.text : Line → String
  | auto => "auto"
  | area name => Literal.name name
  | line index name => " ".intercalate (toString index :: (name.map Literal.name).toList)
  | span index name =>
    let number := if index ≠ 1 || name.isNone then [toString index] else []
    " ".intercalate ("span" :: number ++ (name.map Literal.name).toList)

/-- The line at the other end if it is not given. -/
def Line.opposite : Line → Line
  | area name => area name
  | _ => auto

/-- A line behind a slash. -/
def readBehind : Reading (Option Line) :=
  Reading.attempt do
    Reading.delim '/'
    readLine

/-- Lines with slashes between them, without those at the end that follow from others: each is
given with the line that it follows from. -/
def linesText (first : Line) (rest : List (Line × Line)) : String :=
  let needed := (rest.reverse.dropWhile fun (line, source) => source.opposite = line).reverse
  "/".intercalate (first.text :: needed.map (·.1.text))

/-- What a line is, from its value. -/
def line? (v : Value) : Option Line := ofValue? readLine v

/-- The property for both ends of a box along a direction. -/
def ends (name : String) : Shorthand :=
  .of name [name ++ "-start", name ++ "-end"]
    (do
      let start ← readLine
      let stop := (← readBehind).getD start.opposite
      return [[.word start.text], [.word stop.text]])
    fun said => do
      match ← (← Shorthand.singles? said).mapM line? with
      | [start, stop] => pure (.word (linesText start [(stop, start)]))
      | _ => none

/-- The property for all ends of a box. -/
def area : Shorthand :=
  .of "grid-area" ["grid-row-start", "grid-column-start", "grid-row-end", "grid-column-end"]
    (do
      let top ← readLine
      let left ← readBehind
      let bottom ← if left.isSome then readBehind else pure none
      let right ← if bottom.isSome then readBehind else pure none
      let left := left.getD top.opposite
      let lines := [top, left, bottom.getD top.opposite, right.getD left.opposite]
      return lines.map fun line => [.word line.text])
    fun said => do
      match ← (← Shorthand.singles? said).mapM line? with
      | [top, left, bottom, right] =>
        pure (.word (linesText top [(left, top), (bottom, top), (right, left)]))
      | _ => none

end Grid

end Pagefold.Css
