import Pagefold.Css.Value

/-!
# Declarations

A declaration gives a property a value. References to keyframes are kept apart from the rest
of the value, because they are renamed together with the keyframes.
-/
namespace Pagefold.Css

/-- Words that stand for a value of any property and cannot be names. -/
def wideKeywords : List String :=
  ["initial", "inherit", "unset", "default", "revert", "revert-layer"]

/-- A name of one's own choice. -/
def Reading.ownName : Reading String := do
  let name ← ident
  if wideKeywords.contains (Text.lower name) then refuse else pure name

/-- A name that starts with two hyphens. -/
def Reading.dashedName : Reading String := do
  let name ← ident
  if name.startsWith "--" then pure name else refuse

/-- The keyframes that an animation runs through, named by an identifier or a string. -/
inductive AnimationName where
  | none
  | ident (name : String)
  | quoted (name : String)
  deriving DecidableEq, Repr

/-- The course of an animation over time: a known one by its name, a curve through two points,
or a number of steps with the place of the jumps. -/
inductive Course where
  | named (name : String)
  | curve (x₁ y₁ x₂ y₂ : Number.Single)
  | steps (count : Int) (jumps : String)
  deriving DecidableEq, Repr

/-- One animation. Words are in small letters. -/
structure Animation where
  duration : Time := ⟨.zero, false⟩
  course : Course := .named "ease"
  delay : Time := ⟨.zero, false⟩
  /-- The number of runs; without one the animation goes on for ever. -/
  runs : Option Number.Single := some (.ofNat 1)
  direction : String := "normal"
  fill : String := "none"
  play : String := "running"
  name : AnimationName := .none
  /-- What drives the animation, as it is written. -/
  timeline : String := "auto"
  deriving Repr

/-- What is said about one property: a value for each layer that it has. -/
structure Said where
  property : String
  values : List Value
  deriving DecidableEq, Repr

/-- What a property is set to: a value that the property knows, in its shortest form, with what
it says about other properties, a value that the property does not know, or animations. -/
inductive Content where
  | known (value : Value) (said : List Said := [])
  | free (value : Value)
  | animations (list : List Animation)
  | animationNames (list : List AnimationName)
  deriving Repr

structure Declaration where
  property : String
  content : Content
  deriving Repr

/-- The declarations of a block, the important ones apart. -/
structure Block where
  important : List Declaration := []
  normal : List Declaration := []
  deriving Repr

namespace AnimationName

/-- A name with an action carried out on it. -/
def traverse {m : Type → Type} [Monad m] (f : String → m String) : AnimationName → m AnimationName
  | .none => return .none
  | .ident name => return .ident (← f name)
  | .quoted name => return .quoted (← f name)

end AnimationName

namespace Animation

/-- An animation with an action carried out on its name. -/
def traverse {m : Type → Type} [Monad m] (f : String → m String) (a : Animation) : m Animation :=
  return { a with name := ← a.name.traverse f }

end Animation

namespace Content

/-- A content with an action carried out on each name of keyframes in it. -/
def traverse {m : Type → Type} [Monad m] (f : String → m String) : Content → m Content
  | .known value said => return .known value said
  | .free value => return .free value
  | .animations list => return .animations (← list.mapM (·.traverse f))
  | .animationNames list => return .animationNames (← list.mapM (·.traverse f))

/-- The addresses in a content. -/
def urls : Content → List String
  | .known value _ => value.urls
  | .free value => value.urls
  | _ => []

/-- A content with its addresses replaced. -/
def mapUrls (f : String → String) : Content → Content
  | .known value said =>
    .known (value.mapUrls f) (said.map fun s => { s with values := s.values.map (·.mapUrls f) })
  | .free value => .free (value.mapUrls f)
  | other => other

end Content

namespace Declaration

/-- A declaration with an action carried out on each name of keyframes in it. -/
def traverse {m : Type → Type} [Monad m] (f : String → m String) (d : Declaration) :
    m Declaration :=
  return { d with content := ← d.content.traverse f }

/-- A declaration with its addresses replaced. -/
def mapUrls (f : String → String) (d : Declaration) : Declaration :=
  { d with content := d.content.mapUrls f }

end Declaration

namespace Block

/-- A block without declarations. -/
def isEmpty (b : Block) : Bool := b.important.isEmpty && b.normal.isEmpty

/-- A block with an action carried out on each name of keyframes in it. -/
def traverse {m : Type → Type} [Monad m] (f : String → m String) (b : Block) : m Block := do
  let normal ← b.normal.mapM (·.traverse f)
  let important ← b.important.mapM (·.traverse f)
  return ⟨important, normal⟩

/-- The addresses in a block; those of important declarations come first. -/
def urls (b : Block) : List String :=
  (b.important ++ b.normal).flatMap (·.content.urls)

/-- A block with its addresses replaced. -/
def mapUrls (f : String → String) (b : Block) : Block :=
  ⟨b.important.map (·.mapUrls f), b.normal.map (·.mapUrls f)⟩

end Block

/-!
## Shorthands

A shorthand is a property that says several things at once. Reading one gives a value, or a list
of values, for each property that it speaks for; joining such values gives the shorthand back.
-/

/-- A property that speaks for others. -/
structure Shorthand where
  name : String
  /-- The properties that it speaks for. -/
  parts : List String
  /-- What it says about each of them, with the value as it is written. -/
  read : Reading (Value × List (List Value))
  /-- The value that says something about each of them, if there is one. -/
  join? : List (List Value) → Option Value

namespace Shorthand

/-- A shorthand whose value is written from what it says. -/
def of (name : String) (parts : List String) (read : Reading (List (List Value)))
    (join? : List (List Value) → Option Value) : Shorthand where
  name
  parts
  read := do
    let said ← read
    return (← Reading.orRefuse (join? said), said)
  join?

/-- The content of a declaration of a shorthand. -/
def content (s : Shorthand) : Reading Content := do
  let (value, said) ← s.read
  return .known value ((s.parts.zip said).map fun (property, values) => ⟨property, values⟩)

/-- The single value that is said about each property, if none has a list. -/
def singles? (said : List (List Value)) : Option (List Value) :=
  said.mapM fun
    | [v] => some v
    | _ => none

/-- A shorthand for properties with single values. -/
def ofSingles (name : String) (parts : List String) (read : Reading (List Value))
    (join : List Value → Value) : Shorthand :=
  of name parts (return (← read).map ([·])) fun said => (singles? said).map join

/-- Of four values those that have to be written: the ones that cannot be told from the others. -/
def needed {α : Type} (same : α → α → Bool) : List α → List α
  | [top, right, bottom, left] =>
    let vertical := same top bottom
    let horizontal := same right left
    if vertical && horizontal && same top right then [top]
    else if vertical && horizontal then [top, right]
    else if horizontal then [top, right, bottom]
    else [top, right, bottom, left]
  | values => values

/-- Between one and four values, of which the later ones follow from the earlier ones if they are
not given. -/
def readFour {α : Type} (side : Reading α) : Reading (List α) := do
  let top ← side
  let right := (← Reading.attempt side).getD top
  let bottom := (← Reading.attempt side).getD top
  let left := (← Reading.attempt side).getD right
  pure [top, right, bottom, left]

/-- A shorthand for the four sides of a box. -/
def ofSides (name : String) (parts : List String) (side : Reading Value) : Shorthand :=
  ofSingles name parts (readFour side) fun values => .spaced (needed (· == ·) values)

/-- A shorthand for two things of one kind, of which the second follows from the first. -/
def ofPair (name : String) (parts : List String) (one : Reading Value) : Shorthand :=
  ofSingles name parts
    (do
      let first ← one
      return [first, (← Reading.attempt one).getD first])
    fun
    | [first, second] => .pair first second
    | values => .spaced values

/-- A property of a shorthand in any order: its name, its reading and its usual value. -/
structure Slot where
  property : String
  read : Reading Value
  usual : Value

/-- What is said by the slots that are filled. -/
def readSlots (slots : List Slot) : Reading (List Value) := do
  let found ← Reading.someOf (slots.map (·.read))
  return (found.zip slots).map fun (value, slot) => value.getD slot.usual

/-- The values that are not usual, with blanks between them; if all are usual, the one of the
property that stands for them. -/
def unusual (slots : List Slot) (standing : String) (values : List Value) : Value :=
  let pairs := slots.zip values
  match pairs.filter fun (slot, value) => slot.usual ≠ value with
  | [] => ((pairs.find? (·.1.property = standing)).map (·.2)).getD []
  | found => .spaced (found.map (·.2))

/-- A shorthand of slots, of which the usual ones are not written. -/
def ofSlots (name standing : String) (slots : List Slot) : Shorthand :=
  ofSingles name (slots.map (·.property)) (readSlots slots) (unusual slots standing)

end Shorthand

end Pagefold.Css
