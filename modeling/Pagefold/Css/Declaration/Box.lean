import Pagefold.Css.Declaration

/-!
# The boxes of elements

How an element is laid out: the kind of its box, where it stands, its size, the space around
it and how much of it shows through. Each is read as its property demands and gives the value
in its shortest form.
-/
namespace Pagefold.Css

/-! ## Kinds of boxes -/

/-- The kind of a box: what it is for the boxes around it, what its content is laid out by, and
whether it has a marker. -/
structure Display where
  outside : String
  inside : String
  isListItem : Bool := false
  deriving DecidableEq, Repr

namespace Display

/-- The kinds of boxes that are one word. -/
def words : List String :=
  ["none", "contents", "table-row-group", "table-header-group", "table-footer-group", "table-row",
   "table-cell", "table-column-group", "table-column", "table-caption", "ruby-base", "ruby-text",
   "ruby-base-container", "ruby-text-container"]

/-- What a box may be for the boxes around it. -/
def outsides : List String := ["block", "inline", "run-in"]

/-- What the content of a box may be laid out by. -/
def insides : List String :=
  ["flow", "flow-root", "table", "flex", "-webkit-flex", "-ms-flexbox", "-webkit-box", "-moz-box",
   "grid", "ruby"]

/-- The words for a box in a line of text, with what its content is laid out by. -/
def inlines : List (String × String) :=
  [("inline-block", "flow-root"), ("inline-table", "table"), ("inline-flex", "flex"),
   ("-webkit-inline-flex", "-webkit-flex"), ("-ms-inline-flexbox", "-ms-flexbox"),
   ("-webkit-inline-box", "-webkit-box"), ("-moz-inline-box", "-moz-box"),
   ("inline-grid", "grid")]

/-- What a box is for the boxes around it if nothing is said about that. -/
def usualOutside (inside : String) : String := if inside = "ruby" then "inline" else "block"

/-- The words that are given, each kind once, and the marker any number of times. The bound is
on the number of words. -/
def readWords : Nat → Option String → Option String → Bool →
    Reading (Option String × Option String × Bool)
  | 0, outside, inside, isListItem => pure (outside, inside, isListItem)
  | n + 1, outside, inside, isListItem => do
    let vacant (given : Option String) (words : List String) : Reading String :=
      if given.isSome then Reading.refuse else Reading.wordOf words
    match ← Reading.attempt (Reading.word "list-item") with
    | some () => readWords n outside inside true
    | none =>
      match ← Reading.attempt (vacant outside outsides) with
      | some word => readWords n (some word) inside isListItem
      | none =>
        match ← Reading.attempt (vacant inside insides) with
        | some word => readWords n outside (some word) isListItem
        | none => pure (outside, inside, isListItem)

/-- A kind of box in several words, or in one that stands for them. Only what is laid out by
the flow of the text may have a marker. -/
def read : Reading Display := do
  match ← readWords (← get).length none none false with
  | (none, none, false) =>
    let inside ← Reading.orRefuse (inlines.lookup (Text.lower (← Reading.ident)))
    pure ⟨"inline", inside, false⟩
  | (outside, inside, isListItem) =>
    let inside := inside.getD "flow"
    if isListItem ∧ inside ≠ "flow" ∧ inside ≠ "flow-root" then Reading.refuse
    else pure ⟨outside.getD (usualOutside inside), inside, isListItem⟩

/-- How a kind of box is written. -/
def text (d : Display) : String :=
  match inlines.find? fun entry => d = ⟨"inline", entry.2, false⟩ with
  | some (word, _) => word
  | none =>
    let outside :=
      if d.outside ≠ usualOutside d.inside ∨ (d.inside = "flow" ∧ !d.isListItem) then [d.outside]
      else []
    let inside := if d.inside = "flow" then [] else [d.inside]
    let marker := if d.isListItem then ["list-item"] else []
    " ".intercalate (outside ++ inside ++ marker)

/-- The value of the property. -/
def readValue : Reading Value :=
  Reading.firstOf
    [return Value.word (← Reading.wordOf words), return Value.word (← read).text]

end Display

/-! ## Space and size -/

namespace Box

/-- An extent, or the word `auto`. -/
def readExtentOrAuto : Reading (Option Extent) :=
  Reading.firstOf [do Reading.word "auto"; pure none, return some (← Extent.read)]

/-- How an extent is written, or the word `auto`. -/
def extentText (e : Option Extent) : String := (e.map Extent.text).getD "auto"

/-- Two extents of one kind, unit and size. -/
def sameExtent : Option Extent → Option Extent → Bool
  | some a, some b => a.same b
  | none, none => true
  | _, _ => false

/-- The space around or inside a box, by the names of the property and of its sides. Zeros of two
units are told apart. -/
def space (name : String) (sides : List String) : Shorthand where
  name
  parts := sides
  read := do
    let found ← Shorthand.readFour readExtentOrAuto
    let written := (Shorthand.needed sameExtent found).map extentText
    return (.word (" ".intercalate written), found.map fun e => [.word (extentText e)])
  join? said := do
    return .spaced (Shorthand.needed (· == ·) (← Shorthand.singles? said))

/-- The words for sizes. -/
def sizeWords : List String :=
  ["auto", "min-content", "-webkit-min-content", "-moz-min-content", "max-content",
   "-webkit-max-content", "-moz-max-content", "stretch", "-webkit-fill-available",
   "-moz-available", "fit-content", "-webkit-fit-content", "-moz-fit-content", "contain"]

/-- An extent or the word `auto`, as a value. -/
def readSide : Reading Value := return .word (extentText (← readExtentOrAuto))

/-- The size of a box. -/
def readSize : Reading Value :=
  Reading.firstOf
    [return .word (← Reading.wordOf sizeWords),
     do
      let limit ← Reading.within (← Reading.callOf "fit-content") Extent.read
      return .word ("fit-content(" ++ limit.text ++ ")"),
     return .word (← Extent.read).text]

/-- A size that a box may not exceed, if there is one. -/
def readLimit : Reading Value :=
  Reading.firstOf
    [do
      Reading.word "none"
      pure (.word "none"),
     do
      if (← Reading.attempt (Reading.word "auto")).isSome then Reading.refuse else readSize]

/-- The words for where a box stands. -/
def places : List String :=
  ["static", "relative", "absolute", "fixed", "sticky", "-webkit-sticky"]

/-- Where a box stands. -/
def readPlace : Reading Value := return .word (← Reading.wordOf places)

/-- How opaque a box is, as a number. -/
def readOpacity : Reading Value := do
  return .word (← Reading.fraction).text

end Box

end Pagefold.Css
