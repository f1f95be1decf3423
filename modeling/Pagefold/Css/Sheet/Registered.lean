import Pagefold.Css.Declaration.Reader
import Pagefold.Css.Sheet

/-!
# Registered properties

The description of a property of one's own: what its values are, whether they are inherited,
and the first value, which has to fit unless any value does.
-/
namespace Pagefold.Css

/-- How often a component of a value may stand. -/
inductive Repetition where
  | once
  | spaced
  | listed
  deriving DecidableEq, Repr

/-- A component of a value: a word, or a type by its name. -/
structure ValueComponent where
  name : String
  isWord : Bool
  repetition : Repetition := .once
  deriving DecidableEq, Repr

namespace ValueComponent

/-- The types of components. -/
def types : List String := Property.words
  ["length number percentage length-percentage string color image url integer angle time",
   "resolution transform-function transform-list custom-ident"]

/-- The repetition that a text starts with, and what follows it. -/
def repetitionAt (s : List Char) : Repetition × List Char :=
  match s with
  | '+' :: r => (.spaced, r)
  | '#' :: r => (.listed, r)
  | r => (.once, r)

/-- The component at the start of a text, and what follows it. A list of transformations is not
repeated. -/
def read? (s : List Char) : Option (ValueComponent × List Char) :=
  match s.dropWhile Token.isBlank with
  | '<' :: r =>
    match Text.cut (· == '>') r with
    | none => none
    | some (name, r) =>
      let small := Text.lower (String.ofList name)
      if !types.contains small then none
      else if small = "transform-list" then some (⟨small, false, .once⟩, r)
      else
        let (repetition, r) := repetitionAt r
        some (⟨small, false, repetition⟩, r)
  | c :: r =>
    if Token.isNameStart c then
      let name := (c :: r).takeWhile Token.isNameChar
      let (repetition, r) := repetitionAt ((c :: r).drop name.length)
      some (⟨String.ofList name, true, repetition⟩, r)
    else none
  | [] => none

/-- The components between bars. The bound is on their number. -/
def listFrom : Nat → List Char → Option (List ValueComponent)
  | 0, _ => none
  | n + 1, s => do
    let (c, r) ← read? s
    match r.dropWhile Token.isBlank with
    | [] => pure [c]
    | '|' :: r => return c :: (← listFrom n r)
    | _ => none

/-- How a component is written. -/
def text (c : ValueComponent) : String :=
  (if c.isWord then Literal.name c.name else "<" ++ c.name ++ ">") ++
    match c.repetition with
    | .once => ""
    | .spaced => "+"
    | .listed => "#"

/-- A value of a type. -/
def readType (name : String) : Reading Value :=
  match name with
  | "length" => return .word (← Extent.readLength).text
  | "number" => return .word (← Reading.number).text
  | "percentage" => return .word (shareText (← Reading.percentage))
  | "length-percentage" => return .word (← Extent.read).text
  | "string" => return .word (Literal.quoted (← Reading.quoted))
  | "color" => return .word (← Paint.read).text
  | "image" => Image.read
  | "url" => return [.url (← Reading.link)]
  | "integer" => return .word (toString (← Reading.integer))
  | "angle" => return .word (← Angle.read).text
  | "time" => return .word (← Time.read).text
  | "resolution" => return .word (← readResolution)
  | "transform-function" => return .word (← Transform.read).text
  | "transform-list" => Transform.readList
  | "custom-ident" => return .word (Literal.name (← Reading.ownName))
  | _ => Reading.refuse

/-- A value of a component without its repetition. -/
def readOne (c : ValueComponent) : Reading Value :=
  if c.isWord then do
    let name ← Reading.ident
    if name = c.name then pure (.word (Literal.name name)) else Reading.refuse
  else readType c.name

/-- As many values as the component allows. -/
def read (c : ValueComponent) : Reading Value := do
  match c.repetition with
  | .once => readOne c
  | .spaced =>
    let first ← readOne c
    let rest ← Reading.many (readOne c) (← get).length
    Reading.finish
    pure (.spaced (first :: rest))
  | .listed => return .listed (← Reading.commaSeparated (readOne c))

end ValueComponent

/-- What is read of the description of a property. Without components any value fits. -/
structure Registered where
  components : Option (List ValueComponent) := none
  inherits : Option Bool := none
  first : Option (List Part) := none

namespace Registered

/-- What values a string describes: any, or those of some components. -/
def components? (s : String) : Option (Option (List ValueComponent)) :=
  let isBlank (c : Char) : Bool := Token.isBlank c
  let s := ((s.toList.dropWhile isBlank).reverse.dropWhile isBlank).reverse
  if s = ['*'] then some none else (ValueComponent.listFrom (s.length + 1) s).map some

/-- A description that lacks its components, with one more item. -/
def add (r : Bool × Registered) (item : List Part) : Option (Bool × Registered) := do
  let (name, value) ← Declaration.split? item
  match Text.lower name with
  | "syntax" =>
    let s ← (Reading.quoted.whole value).toOption
    return (true, { r.2 with components := ← components? s })
  | "inherits" =>
    let word ← ((Reading.wordOf ["true", "false"]).whole value).toOption
    return (r.1, { r.2 with inherits := some (word = "true") })
  | "initial-value" => return (r.1, { r.2 with first := some value })
  | _ => none

/-- The first value, if it fits. Where any value fits it may be missing. -/
def firstValue? (r : Registered) : Option (Option Value) :=
  match r.components, r.first with
  | none, none => some none
  | none, some parts => (Value.ofAll? (Part.skipSpace parts)).map some
  | some _, none => none
  | some cs, some parts =>
    match (Reading.firstOf (cs.map ValueComponent.read)).run parts with
    | .ok (value, _) => some (some value)
    | .error _ => none

/-- The rule that describes a property. -/
def rule? (head content : List Part) : Option Rule := do
  let name ← (Reading.dashedName.whole head).toOption
  let (hasSyntax, r) ← (Block.items content).foldlM add (false, {})
  if !hasSyntax then none
  let inherits ← r.inherits
  let first ← firstValue? r
  let described := (r.components.map fun cs => "|".intercalate (cs.map ValueComponent.text)).getD "*"
  let said (property : String) (value : Value) : Declaration := ⟨property, .known value⟩
  pure (.descriptors ("@property " ++ Literal.name name)
    ⟨[], [said "syntax" (.word (Literal.quoted described)),
      said "inherits" (.word (if inherits then "true" else "false"))] ++
      (first.map (said "initial-value")).toList⟩)

end Registered

end Pagefold.Css
