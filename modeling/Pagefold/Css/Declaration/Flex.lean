import Pagefold.Css.Declaration.Box
import Pagefold.Css.Declaration.Property

/-!
# Flexible boxes and alignment

How the boxes inside a box share its room, and how they are aligned in it. A pair of alignments
is written as one where they are the same.
-/
namespace Pagefold.Css

open Number (Single)

namespace Flex

/-- A number, as a value. -/
def readNumber : Reading Value := return .word (← Reading.number).text

/-- A whole number, as a value. -/
def readInteger : Reading Value := return .word (toString (← Reading.integer))

/-- The direction of the boxes and whether they are broken into lines. -/
def flow : Shorthand :=
  let slots : List Shorthand.Slot :=
    [⟨"flex-direction", .keyword ["row", "row-reverse", "column", "column-reverse"], .word "row"⟩,
     ⟨"flex-wrap", .keyword ["nowrap", "wrap", "wrap-reverse"], .word "nowrap"⟩]
  .ofSlots "flex-flow" "flex-direction" slots

/-- How much a box grows and shrinks, from which size. A share of zero is the usual size. -/
def flexValue : List Value → Value
  | [grow, shrink, basis] =>
    let one : Value := .word "1"
    if grow = .word "0" ∧ shrink = .word "0" ∧ basis = .word "auto" then .word "none"
    else
      let isLength := basis = .word "0"
      let isUsual := basis = .word "0%"
      let plain := grow = one ∧ shrink = one
      let growth := if !plain || isLength || isUsual then [grow] else []
      let shrinkage := if shrink ≠ one || isLength then [shrink] else []
      .spaced (growth ++ shrinkage ++ if isUsual then [] else [basis])
  | values => .spaced values

/-- How a box grows and shrinks. -/
def flex : Shorthand :=
  .ofSingles "flex" ["flex-grow", "flex-shrink", "flex-basis"]
    (do
      match ← Reading.attempt (Reading.word "none") with
      | some () => pure [.word "0", .word "0", .word "auto"]
      | none =>
        let growth : Reading (List Value) := do
          let grow ← readNumber
          return grow :: (← Reading.attempt readNumber).toList
        let basis : Reading (List Value) := return [← Box.readSide]
        let found ← Reading.anyOrder [growth, basis]
        let at? (n k : Nat) : Option Value := (found[n]?.join).bind (·[k]?)
        pure [(at? 0 0).getD (.word "1"), (at? 0 1).getD (.word "1"),
          (at? 1 0).getD (.word "0%")])
    flexValue

/-! ## Alignment -/

/-- Where a box is put. -/
def positions : List String := ["center", "start", "end", "flex-start", "flex-end"]

/-- Where a box is put that is seen from itself. -/
def ownPositions : List String := positions ++ ["self-start", "self-end"]

/-- The words for room that is shared. -/
def distributions : List String := ["space-between", "space-around", "space-evenly", "stretch"]

/-- A line of text that boxes are put on. The first one is the usual one. -/
def readBaseline : Reading Value := do
  let place ← Reading.attempt (Reading.wordOf ["first", "last"])
  Reading.word "baseline"
  pure (.word (if place = some "last" then "last baseline" else "baseline"))

/-- A position, and what is done where there is too little room. -/
def readPosition (words : List String) : Reading Value := do
  let overflow ← Reading.attempt (Reading.wordOf ["safe", "unsafe"])
  return .word (" ".intercalate (overflow.toList ++ [← Reading.wordOf words]))

/-- The two sides of a box. -/
def hands : List String := ["left", "right"]

/-- The alignment of content across lines. -/
def readAlignContent : Reading Value :=
  Reading.firstOf
    [.keyword ["normal"], readBaseline, .keyword distributions, readPosition positions]

/-- The alignment of content along lines. -/
def readJustifyContent : Reading Value :=
  Reading.firstOf
    [.keyword ["normal"], .keyword distributions, readPosition (positions ++ hands)]

/-- The alignment of a box across lines. -/
def readAlignSelf : Reading Value :=
  Reading.firstOf [.keyword ["auto", "normal", "stretch"], readBaseline, readPosition ownPositions]

/-- The alignment of a box along lines. -/
def readJustifySelf : Reading Value :=
  Reading.firstOf
    [.keyword ["auto", "normal", "stretch"], readBaseline, readPosition (ownPositions ++ hands)]

/-- The alignment of boxes across lines. -/
def readAlignItems : Reading Value :=
  Reading.firstOf [.keyword ["normal", "stretch"], readBaseline, readPosition ownPositions]

/-- The alignment of boxes that holds inside of the boxes in them too. -/
def readLegacy : Reading Value := do
  let side : Reading String := Reading.wordOf ["left", "right", "center"]
  let before ← Reading.attempt side
  Reading.word "legacy"
  match before with
  | some word => pure (.word ("legacy " ++ word))
  | none => return .word (" ".intercalate ("legacy" :: (← Reading.attempt side).toList))

/-- The alignment of boxes along lines. -/
def readJustifyItems : Reading Value :=
  Reading.firstOf
    [.keyword ["normal", "stretch"], readBaseline, readPosition (ownPositions ++ hands), readLegacy]

/-- Two alignments, of which the second follows from the first if it is not given. -/
def place (target : String) (align justify : Reading Value) : Shorthand :=
  .ofSingles ("place-" ++ target) ["align-" ++ target, "justify-" ++ target]
    (do
      let first ← align
      match ← Reading.attempt justify with
      | some second => pure [first, second]
      | none =>
        let onLine := first.text = "baseline" || first.text = "last baseline"
        pure [first, if onLine && target = "content" then .word "start" else first])
    fun
    | [first, second] => .pair first second
    | values => .spaced values

/-- The pairs of alignments. -/
def places : List Shorthand :=
  [place "content" readAlignContent readJustifyContent, place "self" readAlignSelf readJustifySelf,
   place "items" readAlignItems readJustifyItems]

/-- The room between boxes. -/
def readGap : Reading Value :=
  Reading.firstOf [.keyword ["normal"], return .word (← Extent.read).text]

/-- The room between rows and between columns. -/
def gap : Shorthand := .ofPair "gap" ["row-gap", "column-gap"] readGap

/-! ## Older forms -/

/-- The older properties with their values; they are only known with a mark. -/
def older (name : String) : Option (Reading Value) :=
  match name with
  | "box-orient" => some (.keyword ["horizontal", "vertical", "inline-axis", "block-axis"])
  | "box-direction" => some (.keyword ["normal", "reverse"])
  | "box-ordinal-group" | "box-flex-group" | "flex-order" => some readInteger
  | "box-align" | "flex-align" => some (.keyword ["start", "end", "center", "baseline", "stretch"])
  | "box-flex" | "flex-positive" | "flex-negative" => some readNumber
  | "box-pack" => some (.keyword ["start", "end", "center", "justify"])
  | "box-lines" => some (.keyword ["single", "multiple"])
  | "flex-pack" => some (.keyword ["start", "end", "center", "justify", "distribute"])
  | "flex-item-align" =>
    some (.keyword ["auto", "start", "end", "center", "baseline", "stretch"])
  | "flex-line-pack" =>
    some (.keyword ["start", "end", "center", "justify", "distribute", "stretch"])
  | "flex-preferred-size" => some Box.readSide
  | _ => none

end Flex

end Pagefold.Css
