import Pagefold.Css.Declaration.Border
import Pagefold.Css.Declaration.Entry

/-!
# Lines around a box, written together

Four lines of which everything is said are written as one where they are the same, or as one with
what is different on some sides. Where something is left unsaid, what is said about all sides is
written for each trait, and the rest for each side.
-/
namespace Pagefold.Css

namespace Border

/-- What is said about one line: its width, its style and its colour. -/
abbrev Line := List (Option Value)

/-- What entries say about a side. -/
def lineOf (es : Entries) (side : String) : Line :=
  traits.map fun (trait, _) => (es.get? (named side trait)).bind fun e => e.values.head?

/-- Everything about a line, if it is said. -/
def whole? (line : Line) : Option (List Value) := line.mapM id

/-- A declaration of a line that holds on some sides. -/
def lineMarked (name : String) (on : List String) (line : List Value) : Marked :=
  let value := Shorthand.unusual (slots name readStyle) (name ++ "-style") line
  .ofParts [""] name value (lineOn name on).parts ((on.flatMap fun _ => line).map ([·]))

/-- A declaration of the line on one side. -/
def sideMarked (side : String) (line : List Value) : Marked :=
  lineMarked ("border-" ++ side) [side] line

/-- A declaration of one trait of a side. -/
def traitMarked (side trait : String) (value : Value) : Marked :=
  .ofParts [""] (named side trait) value [named side trait] [[value]]

/-- The traits in which two lines differ, with what the second one says. -/
def differing (base line : List Value) : List (String × Value) :=
  ((traits.map (·.1)).zip (base.zip line)).filterMap fun (trait, a, b) =>
    if a = b then none else some (trait, b)

/-- A side that differs from the line that has been written: only its trait, if it is one. -/
def sideBeside (base : List Value) (side : String) (line : List Value) : Marked :=
  match differing base line with
  | [(trait, value)] => traitMarked side trait value
  | _ => sideMarked side line

/-- A declaration of one trait on all sides, from the top to the left. -/
def aroundMarked (trait : String) (values : List Value) : Marked :=
  .ofParts [""] ("border-" ++ trait) (.spaced (Shorthand.needed (· == ·) values))
    (sides.map (named · trait)) (values.map ([·]))

/-- Both sides along a direction of the text that differ from the line that has been written. -/
def flowBeside (base : List Value) (flow : String) (line : List Value) : Marked :=
  let ends := (flows.lookup flow).getD []
  match differing base line with
  | [(trait, value)] =>
    .ofParts [""] (named flow trait) value (ends.map (named · trait)) (ends.map fun _ => [value])
  | _ => lineMarked ("border-" ++ flow) ends line

/-- Four lines of which everything is said, by the names of their sides: those at the top and the
bottom, and those at the left and the right, or what these are in the directions of the text. -/
def wholeLines (isLogical : Bool) (top bottom left right : String × List Value) : List Marked :=
  let all (line : String × List Value) : Marked := lineMarked "border" sides line.2
  let beside (base line : String × List Value) : Marked := sideBeside base.2 line.1 line.2
  let each := [top, right, bottom, left].map (·.2)
  let rows := (traits.map (·.1)).zipIdx.map fun (trait, n) =>
    (trait, each.filterMap fun values => values[n]?)
  let varying := rows.filter fun (_, values) => !values.all fun v => values.head? = some v
  let onlyOne (base : String × List Value) (others : List Marked) : List Marked :=
    match if isLogical then [] else varying with
    | [(trait, values)] => [all base, aroundMarked trait values]
    | _ => others
  let topBottom := top.2 = bottom.2
  let leftRight := left.2 = right.2
  if topBottom ∧ leftRight ∧ top.2 = left.2 then [all top]
  else if topBottom ∧ top.2 = left.2 then [all top, beside top right]
  else if topBottom ∧ top.2 = right.2 then [all top, beside top left]
  else if leftRight ∧ bottom.2 = left.2 then [all left, beside left top]
  else if leftRight ∧ top.2 = left.2 then [all left, beside left bottom]
  else if topBottom then
    onlyOne top (all top ::
      if isLogical ∧ leftRight then [flowBeside top.2 "inline" left.2]
      else [beside top left, beside top right])
  else if leftRight then onlyOne left [all left, beside left top, beside left bottom]
  else if bottom.2 = right.2 then
    onlyOne bottom [all bottom, beside bottom top, beside bottom left]
  else onlyOne top ([top, bottom, left, right].map fun line => sideMarked line.1 line.2)

/-- The order in which the traits of lines are written of which not everything is said. -/
def traitOrder : List String := ["style", "width", "color"]

/-- A side on which everything is said, or all that is said about it. -/
def sideWritten (es : Entries) (side : String) : List Marked :=
  match whole? (lineOf es side) with
  | some line => [sideMarked side line]
  | none => Step.runAll (Step.ones (traitOrder.map (named side))) es

/-- The entries about some traits of some sides. -/
def dropped (es : Entries) (sides : List String) (trait : String) : Entries :=
  es.filter fun e => !(sides.map (named · trait)).contains e.property

/-- What is said about one trait on some sides, if it is said about all of them. -/
def onSides (es : Entries) (sides : List String) (trait : String) : Option (List Value) :=
  sides.mapM fun side => (es.get? (named side trait)).bind fun e => e.values.head?

/-- The traits that `write` gives a declaration for, one after the other, and the entries that are
left without them. -/
def traitsWritten (sides : List String) (write : String → List Value → Option Marked)
    (es : Entries) : List Marked × Entries :=
  traitOrder.foldl
    (fun (done, es) trait =>
      match (onSides es sides trait).bind (write trait) with
      | some m => (done ++ [m], dropped es sides trait)
      | none => (done, es))
    ([], es)

/-- Both sides along a direction of the text. -/
def flowWritten (es : Entries) (flow : String) (ends : List String) : List Marked :=
  let each := ends.map fun side => whole? (lineOf es side)
  match each with
  | [some first, some second] =>
    if first = second then [lineMarked ("border-" ++ flow) ends first]
    else ends.flatMap (sideWritten es)
  | [none, none] =>
    let write (trait : String) (values : List Value) : Option Marked :=
      match values with
      | [first, second] =>
        some (.ofParts [""] (named flow trait) (.pair first second) (ends.map (named · trait))
          (values.map ([·])))
      | _ => none
    let (written, es) := traitsWritten ends write es
    written ++ ends.flatMap (sideWritten es)
  | _ => ends.flatMap (sideWritten es)

/-- The lines on the four sides, which may be named by the directions of the text. -/
def linesWritten (isLogical : Bool) (top bottom left right : String) (es : Entries) :
    List Marked :=
  let line (side : String) : Option (String × List Value) :=
    (whole? (lineOf es side)).map fun found => (side, found)
  match line top, line bottom, line left, line right with
  | some t, some b, some l, some r => wholeLines isLogical t b l r
  | _, _, _, _ =>
    let write (trait : String) (values : List Value) : Option Marked :=
      if isLogical && !values.all (fun v => values.head? = some v) then none
      else some (aroundMarked trait values)
    let (written, es) := traitsWritten [top, right, bottom, left] write es
    written ++
      if isLogical then flows.flatMap fun (flow, ends) => flowWritten es flow ends
      else [top, bottom, left, right].flatMap (sideWritten es)

/-- All that is said about the lines around a box. -/
def written (es : Entries) : List Marked :=
  let about (side : String) : Entries :=
    es.filter fun e => (traits.map fun (trait, _) => named side trait).contains e.property
  let ends := flows.flatMap (·.2)
  let physical := sides.flatMap about
  let logical := ends.flatMap about
  (if physical.isEmpty then [] else linesWritten false "top" "bottom" "left" "right" physical) ++
    if logical.isEmpty then []
    else linesWritten true "block-start" "block-end" "inline-start" "inline-end" logical

end Border

end Pagefold.Css
