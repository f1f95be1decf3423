import Pagefold.Css.Condition.Feature
import Pagefold.Css.Declaration.Reader

/-!
# Conditions on containers

A box around an element is asked for its size, for its style or for how it is scrolled. It may
be asked for by name.
-/
namespace Pagefold.Css

/-- A question about the style of a box: what a declaration says, or whether a property is
set. -/
inductive StyleQuestion where
  | declared (d : Declaration)
  | property (name : String)
  deriving Repr

/-- A question about a box. -/
inductive ContainerQuestion where
  | size (f : Feature)
  | style (c : Condition StyleQuestion)
  | scroll (c : Condition Feature)
  deriving Repr

/-- Which boxes are asked, and for what. -/
structure Container where
  name : Option String := none
  condition : Option (Condition ContainerQuestion) := none
  deriving Repr

namespace StyleQuestion

/-- A question about the style of a box. -/
def read : Reading StyleQuestion := do
  let name ← Reading.ident
  match ← Reading.attempt (Reading.token .colon) with
  | none => pure (property (Property.canonical name))
  | some () =>
    match Declaration.read? name (← Reading.takeAll) with
    | some (d, _) => pure (declared d)
    | none => Reading.refuse

/-- How a question is written. -/
def text : StyleQuestion → String
  | declared d => d.text
  | property name => Literal.name name

end StyleQuestion

namespace Container

/-- The features of the size of a box, with what their values are. -/
def sizes : List (String × FeatureKind) :=
  [("width", .length), ("height", .length), ("inline-size", .length), ("block-size", .length),
   ("aspect-ratio", .ratio), ("orientation", .word)]

/-- The features of how a box is scrolled. -/
def scrolls : List (String × FeatureKind) :=
  [("stuck", .word), ("snapped", .word), ("scrollable", .word), ("scrolled", .word)]

/-- How questions about boxes are read. -/
def grammar : Condition.Grammar ContainerQuestion where
  feature := return .size (← Feature.read sizes)
  call? name :=
    match name with
    | "style" => some (return .style (← Condition.readInside { feature := StyleQuestion.read }))
    | "scroll-state" =>
      some (return .scroll (← Condition.readInside { feature := Feature.read scrolls }))
    | _ => none

/-- A condition on boxes. -/
def readCondition : Reading (Condition ContainerQuestion) := do
  Condition.read grammar (2 * Part.sizeOfAll (← get) + 2) true

/-- The name of a box. -/
def readName : Reading String := do
  let name ← Reading.ownName
  if ["none", "and", "not", "or"].contains (Text.lower name) then Reading.refuse else pure name

/-- Which boxes are asked, and for what; a name alone asks for nothing. -/
def read : Reading Container := do
  let name ← Reading.attempt readName
  if name.isSome && (← Reading.atEnd) then pure { name }
  else return { name, condition := some (← readCondition) }

/-- How a question is written. -/
def questionText : ContainerQuestion → String
  | .size f => f.text
  | .style c =>
    let inside (q : StyleQuestion) : String := Condition.inParentheses q.text
    "style(" ++ c.text { alone := StyleQuestion.text, inside } ++ ")"
  | .scroll c => "scroll-state(" ++ scrollText c ++ ")"
where
  /-- How a question about scrolling is written. Alone it needs no parentheses of its own. -/
  scrollText (c : Condition Feature) : String :=
    let bare (f : Feature) : String := String.ofList ((f.text.toList.drop 1).dropLast)
    c.text { alone := bare, inside := Feature.text }

/-- How a condition on boxes is written. -/
def text (c : Container) : String :=
  " ".intercalate ((c.name.map Literal.name).toList ++
    (c.condition.map (·.text { alone := questionText })).toList)

end Container

end Pagefold.Css
