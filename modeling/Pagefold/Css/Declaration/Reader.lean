import Pagefold.Css.Declaration.Animation
import Pagefold.Css.Declaration.Grammar

/-!
# Reading and writing declarations

A declaration is a name, a colon and a value. A value that is as its property demands gets the
form in which it is written shortest; any other value is kept as it is. Important declarations are
written after all others, and no blank or semicolon that is not needed.
-/
namespace Pagefold.Css

/-- How a content is written. -/
def Content.text : Content → String
  | known value _ => value.text
  | free value => value.text
  | animations list => ",".intercalate (list.map Animation.text)
  | animationNames list => ",".intercalate (list.map AnimationName.text)

/-- How a declaration is written. -/
def Declaration.text (d : Declaration) : String :=
  Literal.name d.property ++ ":" ++ d.content.text

/-- The declarations of a block as they are written. -/
def Block.texts (b : Block) : List String :=
  b.normal.map Declaration.text ++ b.important.map (·.text ++ "!important")

/-- How the declarations of a block are written. -/
def Block.text (b : Block) : String := ";".intercalate b.texts

namespace Content

/-- The words that may be the value of every property at once. -/
def allWords : List String := ["initial", "inherit", "unset", "revert", "revert-layer"]

/-- The content that is read from all of some parts, or the parts as they are. -/
def readOrFree (r : Option (Reading Content)) (parts : List Part) : Option Content :=
  (r.bind fun r => (r.whole parts).toOption) <|> (Value.ofAll? parts).map free

/-- The content of a property. Only words set all properties at once. -/
def ofParts? (property : String) (parts : List Part) : Option Content :=
  match Property.known? property with
  | some ("", "all") => ((Reading.wordOf allWords).whole parts).toOption.map fun word => .known (.word word)
  | some (mark, name) => readOrFree (reading? mark name) parts
  | none => readOrFree none parts

end Content

namespace Declaration

/-- What may follow a value: nothing, or the mark of an important declaration. -/
def readMark : Reading Bool := do
  if ← Reading.atEnd then pure false
  else
    Reading.delim '!'
    Reading.word "important"
    pure true

/-- A declaration from its name and what follows the colon, and whether it is important. A
value ends at an exclamation mark and, except for variables, at a block in braces. -/
def read? (name : String) (parts : List Part) : Option (Declaration × Bool) := do
  let custom := name.startsWith "--"
  let stop (p : Part) : Bool := p.is (.delim '!') || (!custom && p.opensWith '{')
  let (value, rest) := Part.before stop parts
  let important ← (readMark.whole rest).toOption
  let content ← Content.ofParts? name value
  pure (⟨Property.canonical name, content⟩, important)

/-- The name and the parts of the value of a declaration. -/
def split? (parts : List Part) : Option (String × List Part) :=
  match (return (← Reading.nextHere, ← Reading.token .colon) : Reading _).run parts with
  | .ok ((p, _), value) => p.ident?.map fun name => (name, value)
  | .error _ => none

/-- A declaration from all its parts. -/
def ofParts? (parts : List Part) : Option (Declaration × Bool) := do
  let (name, value) ← split? parts
  read? name value

end Declaration

namespace Block

/-- One more declaration at the end. -/
def add (b : Block) (d : Declaration × Bool) : Block :=
  if d.2 then { b with important := b.important ++ [d.1] }
  else { b with normal := b.normal ++ [d.1] }

/-- Whether a part ends the head of a rule that may have no block. -/
def endsHead (p : Part) : Bool := p.opensWith '{' || p.is .semicolon

/-- The item at the start of some parts, and what follows: an at-rule ends with its block, any
item with a semicolon. -/
def item (parts : List Part) : List Part × List Part :=
  let isRule := parts.head?.any fun p => p.atWord?.isSome
  let (taken, rest) := Part.before (if isRule then endsHead else (·.is .semicolon)) parts
  match rest with
  | [] => (taken, [])
  | p :: rest => if p.is .semicolon then (taken, rest) else (taken ++ [p], rest)

/-- The items of a block. The bound is on their number. -/
def itemsFrom : Nat → List Part → List (List Part)
  | 0, _ => []
  | n + 1, parts =>
    match parts.dropWhile fun p => p.isSpace || p.is .semicolon with
    | [] => []
    | parts =>
      let (taken, rest) := item parts
      taken :: itemsFrom n rest

/-- The items of a block. -/
def items (parts : List Part) : List (List Part) := itemsFrom parts.length parts

/-- A block that holds nothing but declarations. -/
def read? (parts : List Part) : Option Block :=
  (items parts).foldlM (fun b item => (Declaration.ofParts? item).map b.add) {}

end Block

end Pagefold.Css
