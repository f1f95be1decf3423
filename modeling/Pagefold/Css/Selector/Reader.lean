import Pagefold.Css.Declaration.Animation
import Pagefold.Css.Reading
import Pagefold.Css.Selector
import Pagefold.Css.Selector.Name

/-!
# Reading selectors

A selector is read from the parts before a block or between parentheses. Reading fails for a
compound without simple selectors, a combinator that joins nothing, and anything left over.
The lists in `:is`, `:where`, `:has` and their relatives leave out members that cannot be read.
-/
namespace Pagefold.Css.Positions

/-!
## Positions in a list

The notation `an+b` for the positions of elements among their siblings. Blanks may stand only
around the sign between both numbers.
-/

/-- The number without a sign after a separate sign. -/
def readUnsigned (step : Int) (sign : Int) : Reading Positions := do
  match (← Reading.next).number? with
  | some ⟨_, some n, false⟩ => pure ⟨step, sign * n⟩
  | _ => Reading.refuse

/-- The number with a sign that follows the step, if there is one. -/
def readOffset (step : Int) : Reading Positions := do
  let signed : Reading Positions := do
    match (← Reading.next).number? with
    | some ⟨_, some n, true⟩ => pure ⟨step, n⟩
    | _ => Reading.refuse
  if (← Reading.attempt (Reading.delim '+')).isSome then
    readUnsigned step 1
  else if (← Reading.attempt (Reading.delim '-')).isSome then readUnsigned step (-1)
  else return (← Reading.attempt signed).getD ⟨step, 0⟩

/-- The number in a name such as `n-3`, with its sign. -/
def joined? (name : String) : Option Int :=
  match name.toList with
  | c :: '-' :: digits =>
    if (c = 'n' ∨ c = 'N') ∧ digits ≠ [] ∧ digits.all Char.isDigit then
      some (Token.bounded (-(Token.decimal digits : Int)))
    else none
  | _ => none

/-- What follows a step that ends in the name, which starts with an `n`. -/
def readAfter (step : Int) (name : String) : Reading Positions :=
  match Text.lower name with
  | "n" => readOffset step
  | "n-" => readUnsigned step (-1)
  | _ =>
    match joined? name with
    | some offset => pure ⟨step, offset⟩
    | none => Reading.refuse

/-- Positions that start with a name. -/
def readNamed (maySubtract : Bool) (name : String) : Reading Positions :=
  match Text.lower name, name.toList with
  | "even", _ => pure ⟨2, 0⟩
  | "odd", _ => pure ⟨2, 1⟩
  | _, '-' :: rest =>
    if maySubtract then readAfter (-1) (String.ofList rest) else Reading.refuse
  | _, _ => readAfter 1 name

/-- Positions. -/
def read : Reading Positions := do
  let p ← Reading.next
  match p with
  | .token ⟨.number ⟨_, some n, _⟩, _⟩ => pure ⟨0, n⟩
  | .token ⟨.dimension ⟨_, some step, _⟩ unit, _⟩ => readAfter step unit
  | .token ⟨.ident name, _⟩ => readNamed true name
  | .token ⟨.delim '+', _⟩ => do
    match (← Reading.nextHere).ident? with
    | some name => readNamed false name
    | none => Reading.refuse
  | _ => Reading.refuse

end Pagefold.Css.Positions

namespace Pagefold.Css.Selector

/-- What may stand at the start of the selectors of a list. -/
inductive Anchor where
  /-- No combinator may come first. -/
  | absolute
  /-- A combinator may come first; before it stands what the search starts from. -/
  | relative
  /-- A combinator may come first, and the enclosing rule stands before the selector unless
  the selector names it. -/
  | nested
  deriving DecidableEq, Repr

/-! ## Elements and attributes -/

/-- A name, or an asterisk if `mayBeAny`. -/
def readLocal (mayBeAny : Bool) : Reading (Option String) := do
  let p ← Reading.nextHere
  match p.ident? with
  | some name => pure (some name)
  | none => if mayBeAny && p.is (.delim '*') then pure none else Reading.refuse

/-- The bar after a namespace, with nothing in front of it. -/
def readBar : Reading Unit := do
  if !(← Reading.nextHere).is (.delim '|') then Reading.refuse

/-- The simple selectors of an element name, where none stands for any name. -/
def elementOf (name : Option String) : List Simple := [(name.map Simple.element).getD .universal]

/-- The element name at the start of a compound, which may have a namespace in front. Nothing
is read where no such name stands; a namespace needs a name after it. -/
def readElement : Reading (List Simple) := do
  match ← Reading.attempt Reading.nextHere with
  | none => pure []
  | some p =>
    let qualified (before : List Simple) (alone : List Simple) : Reading (List Simple) := do
      match ← Reading.attempt readBar with
      | some () => return before ++ elementOf (← readLocal true)
      | none => pure alone
    match p.ident? with
    | some name => qualified [.space name] [.element name]
    | none =>
      if p.is (.delim '*') then qualified [] [.universal]
      else if p.is (.delim '|') then return .space "" :: elementOf (← readLocal true)
      else
        modify (p :: ·)
        pure []

/-- The name of an attribute with its namespace, where an asterisk stands for any. -/
def readAttributeName : Reading (Option String × String) := do
  let p ← Reading.next
  let localName : Reading String := do Reading.orRefuse (← readLocal false)
  match p.ident? with
  | some name =>
    match ← Reading.attempt readBar with
    | some () => return (some name, ← localName)
    | none => pure (none, name)
  | none =>
    if p.is (.delim '*') then
      readBar
      return (some "*", ← localName)
    else if p.is (.delim '|') then return (none, ← localName)
    else Reading.refuse

/-- The operator before the equals sign of an attribute test. -/
def readOperator : Reading String := do
  match ← Reading.next with
  | .token ⟨.delim '=', _⟩ => pure ""
  | .token ⟨.test c, _⟩ => pure (String.singleton c)
  | _ => Reading.refuse

/-- The attribute in square brackets. -/
def readAttribute : Reading Attribute := do
  let (space, name) ← readAttributeName
  if ← Reading.atEnd then pure { space, name }
  else
    let operator ← readOperator
    let value ← Reading.identOrQuoted
    let flag ← if ← Reading.atEnd then pure "" else Reading.wordOf ["i", "s"]
    pure { space, name, test := some ⟨operator, value, flag⟩ }

/-! ## Arguments that are no selectors -/

/-- A list of languages, each a name or a string, written as names. -/
def readLanguages : Reading String :=
  return ",".intercalate ((← Reading.commaSeparated Reading.identOrQuoted).map Literal.name)

/-- The names of the parts of a component. -/
def readParts : Reading String := do
  let first ← Reading.ident
  let rest ← Reading.many Reading.ident (← get).length
  return " ".intercalate ((first :: rest).map Literal.name)

/-- The classes of a part of a transition between views. The bound is on their number. -/
def readTransitionClasses : Nat → Reading String
  | 0 => pure ""
  | n + 1 => do
    match ← Reading.attempt Reading.nextHere with
    | none => pure ""
    | some p =>
      if !p.is (.delim '.') then Reading.refuse
      let name ← Reading.orRefuse (← Reading.nextHere).ident?
      return "." ++ Literal.name name ++ (← readTransitionClasses n)

/-- A part of a transition between views: its name or an asterisk, and its classes. -/
def readTransitionPart : Reading String := do
  Reading.skipSpace
  let any : Reading String := do
    Reading.delim '*'
    pure "*"
  let name ← Reading.attempt (Reading.firstOf [any, return Literal.name (← Reading.ownName)])
  return name.getD "" ++ (← readTransitionClasses ((← get).length + 1))

/-- The arguments of a pseudo-class that are no selectors, by its name in small letters. -/
def readArguments (small : String) : Option (Reading String) :=
  match small with
  | "lang" => some readLanguages
  | "dir" => some (Reading.wordOf ["ltr", "rtl"])
  | "active-view-transition-type" =>
    some (return ",".intercalate ((← Reading.commaSeparated Reading.ownName).map Literal.name))
  | _ => none

/-- All parts that are left, as they are written. -/
def readExact : Reading String := do Reading.orRefuse (Value.exactParts (← Reading.takeAll))

/-- A pseudo-class with arguments that are no selectors. -/
def readPlainCall (name : String) (content : List Part) : Reading Simple := do
  let small := Text.lower name
  match readArguments small with
  | some r => return .pseudo (":" ++ small ++ "(" ++ (← Reading.within content r) ++ ")")
  | none => return .pseudo (":" ++ name ++ "(" ++ (← Reading.within content readExact) ++ ")")

/-- A pseudo-element with arguments that are no selectors. -/
def readElementCall (name : String) (content : List Part) : Reading PseudoElement := do
  let small := Text.lower name
  let known (r : Reading String) : Reading PseudoElement := do
    return { simple := .pseudo ("::" ++ small ++ "(" ++ (← Reading.within content r) ++ ")")
             isTransition := transitionElements.contains small }
  if transitionElements.contains small then known readTransitionPart
  else if small = "picker" then known (return Literal.name (← Reading.ident))
  else if small = "highlight" then known (return Literal.name (← Reading.ownName))
  else
    let written ← Reading.within content readExact
    pure { simple := .pseudo ("::" ++ name ++ "(" ++ written ++ ")"), isKnown := false }

/-! ## Compounds -/

/-- A compound, with the pseudo-elements that start compounds of their own after it. -/
structure Segments where
  first : List Simple := []
  more : List (Combinator × List Simple) := []

namespace Segments

/-- One more simple selector at the end. -/
def add (g : Segments) (s : Simple) : Segments :=
  match g.more.reverse with
  | [] => { g with first := g.first ++ [s] }
  | (joined, c) :: before => { g with more := before.reverse ++ [(joined, c ++ [s])] }

/-- One more compound of a single simple selector at the end. -/
def join (g : Segments) (joined : Combinator) (s : Simple) : Segments :=
  { g with more := g.more ++ [(joined, [s])] }

end Segments

/-- What a simple selector adds, and the stage after it. -/
abbrev Grown := Segments × Stage

/-- A pseudo-element joined to what comes before it. One that is not known stays in its
compound. -/
def addElement (g : Segments) (s : Stage) (e : PseudoElement) : Reading Grown := do
  let stage ← Reading.orRefuse (s.afterPseudo? e)
  pure (if e.isKnown then g.join .element e.simple else g.add e.simple, stage)

/-- The combinator in front of the next compound; a blank is one if a compound follows. Nothing
is read at the end. -/
def readCombinator : Reading (Option Combinator) := do
  let parts ← get
  match Part.skipSpace parts with
  | [] =>
    Reading.skipSpace
    pure none
  | p :: rest =>
    let found (c : Combinator) : Reading (Option Combinator) := do
      set rest
      pure (some c)
    if p.is (.delim '>') then found .child
    else if p.is (.delim '+') then found .next
    else if p.is (.delim '~') then found .later
    else if (parts.takeWhile Part.isSpace).any (!·.isComment) then do
      Reading.skipSpace
      pure (some .descendant)
    else pure none

/-- The combinator that stands before all compounds. -/
def readLead : Reading (Option Combinator) :=
  Reading.attempt <| Reading.firstOf
    [do Reading.delim '>'; pure .child, do Reading.delim '+'; pure .next,
     do Reading.delim '~'; pure .later]

/-- The group that a functional pseudo-class is, by its name in small letters. -/
def groupOf? (small : String) : Option Grouping :=
  match small with
  | "not" => some .negation
  | "is" => some .isAny
  | "where" => some .whereAny
  | "has" => some .has
  | "-webkit-any" => some .webkitAny
  | "-moz-any" => some .mozAny
  | _ => none

/-- The positional pseudo-classes. -/
def positional : List String :=
  ["nth-child", "nth-last-child", "nth-of-type", "nth-last-of-type", "nth-col", "nth-last-col"]

/-- The positional pseudo-classes that count among the elements of a list of selectors. -/
def countsAmong (small : String) : Bool := small = "nth-child" || small = "nth-last-child"

mutual

/-- The simple selectors that follow in a compound, to its end. -/
def readSimples : Nat → Segments → Stage → Reading Grown
  | 0, _, _ => Reading.refuse
  | n + 1, g, s => do
    let parts ← get
    match ← Reading.attempt Reading.nextHere with
    | none => pure (g, s)
    | some p =>
      let plain (r : Reading Simple) : Reading Grown := do
        if s.isAfter then Reading.refuse
        readSimples n (g.add (← r)) s
      match p with
      | .block o content _ =>
        if o.kind = .opening '[' then
          plain (return .attribute (← Reading.within content readAttribute))
        else do
          set parts
          pure (g, s)
      | .token t =>
        match t.kind with
        | .hash name true => plain (pure (.id name))
        | .delim '.' =>
          plain (return .cls (← Reading.orRefuse (← Reading.nextHere).ident?))
        | .delim '&' => readSimples n (g.add .parent) s
        | .colon => do
          let (g, s) ← readPseudo n g s
          readSimples n g s
        | _ => do
          set parts
          pure (g, s)

/-- What follows a colon: a pseudo-class, or a pseudo-element after a second colon. -/
def readPseudo : Nat → Segments → Stage → Reading Grown
  | 0, _, _ => Reading.refuse
  | n + 1, g, s => do
    let first ← Reading.nextHere
    let doubled := first.is .colon
    let p ← if doubled then Reading.nextHere else pure first
    match p.ident?, p.call? with
    | some name, _ =>
      if doubled || oneColonElements.contains (Text.lower name) then
        if s.afterElement || !s.mayHaveElements then Reading.refuse
        addElement g s (.ofName name)
      else return (g.add (← Reading.orRefuse (pseudoClass? s name)), s)
    | none, some (name, content) =>
      if doubled || oneColonElements.contains (Text.lower name) then
        if s.afterElement || !s.mayHaveElements then Reading.refuse
        readElementWith n g s name content
      else return (g.add (← readClassWith n s name content), s)
    | none, none => Reading.refuse

/-- A pseudo-element with arguments. -/
def readElementWith : Nat → Segments → Stage → String → List Part → Reading Grown
  | 0, _, _, _, _ => Reading.refuse
  | n + 1, g, s, name, content => do
    match Text.lower name with
    | "part" =>
      if s.isAfter then Reading.refuse
      let names ← Reading.within content readParts
      pure (g.join .part (.pseudo ("::part(" ++ names ++ ")")), { s with afterPart := true })
    | "slotted" =>
      if s.isAfter then Reading.refuse
      let inner ← Reading.within content (readOne n s.simple)
      pure (g.join .slot (.slotted inner), { s with afterSlotted := true })
    | "cue" => addElement g s { simple := .foreign "cue" (← Reading.within content (readOne n {})) }
    | "cue-region" =>
      addElement g s { simple := .foreign "cue-region" (← Reading.within content (readOne n {})) }
    | _ => addElement g s (← readElementCall name content)

/-- A pseudo-class with arguments. -/
def readClassWith : Nat → Stage → String → List Part → Reading Simple
  | 0, _, _, _ => Reading.refuse
  | n + 1, s, name, content => do
    let small := Text.lower name
    match groupOf? small with
    | some .negation =>
      return .group .negation (← readStrict .absolute n s.withoutElements (Part.commaLists content))
    | some .has => return .group .has (← readLenient .relative n s (Part.commaLists content))
    | some kind =>
      return .group kind (← readLenient .absolute n s.withoutElements (Part.commaLists content))
    | none =>
      if positional.contains small then
        if s.isAfter then Reading.refuse
        Reading.within content do
          let positions ← Positions.read
          if countsAmong small && (← Reading.attempt (Reading.word "of")).isSome then
            let among := Part.commaLists (← Reading.takeAll)
            return .nth small positions (some (← readLenient .absolute n s.withoutElements among))
          else return .nth small positions none
      else if small = "host" then
        if s.isAfter then Reading.refuse
        return .host (some (← Reading.within content (readOne n s.simple)))
      else if s.isAfter then Reading.refuse
      else readPlainCall name content

/-- A selector that starts with a compound. After something that is not an element of the
document nothing may follow. -/
def readOne : Nat → Stage → Reading Selector
  | 0, _ => Reading.refuse
  | n + 1, s => do
    Reading.skipSpace
    let parent ← Reading.attempt (Reading.delim '&')
    let start := if parent.isSome then [Simple.parent] else []
    let element ← readElement
    if !element.isEmpty && s.isAfter then Reading.refuse
    let (g, s) ← readSimples n { first := start ++ element } s
    if g.first.isEmpty && g.more.isEmpty then Reading.refuse
    if s.isAfter then
      if ← Reading.atEnd then pure (ofCompounds g.first g.more) else Reading.refuse
    else
      match ← readCombinator with
      | none => pure (ofCompounds g.first g.more)
      | some joined =>
        if !s.mayJoin then Reading.refuse
        return .step g.first joined (← readOne n s)

/-- A selector of a list. -/
def readAnchored (anchor : Anchor) : Nat → Stage → Reading Selector
  | 0, _ => Reading.refuse
  | n + 1, s => do
    let lead ← if anchor = .absolute then pure none else readLead
    let rest ← readOne n s
    match anchor, lead with
    | .nested, some joined => pure (.step [.parent] joined rest)
    | _, some joined => pure (.step [.scope] joined rest)
    | .nested, none =>
      pure (if rest.namesParent then rest else .step [.parent] .descendant rest)
    | _, none => pure rest

/-- The selectors of a list in which each member has to be a selector. -/
def readStrict (anchor : Anchor) : Nat → Stage → List (List Part) → Reading (List Selector)
  | 0, _, _ => Reading.refuse
  | _, _, [] => pure []
  | n + 1, s, item :: rest => do
    let first ← Reading.within item (readAnchored anchor n s)
    return first :: (← readStrict anchor n s rest)

/-- The selectors of a list, without the members that are none. -/
def readLenient (anchor : Anchor) : Nat → Stage → List (List Part) → Reading (List Selector)
  | 0, _, _ => Reading.refuse
  | _, _, [] => pure []
  | n + 1, s, item :: rest => do
    let first ← Reading.attempt (Reading.within item (readAnchored anchor n s))
    return first.toList ++ (← readLenient anchor n s rest)

end

/-- The bound for reading parts. -/
def bound (parts : List Part) : Nat := 4 * Part.sizeOfAll parts + 8

/-- All of some parts as selectors between commas. -/
def list? (anchor : Anchor) (parts : List Part) : Option (List Selector) :=
  ((readStrict anchor (bound parts) {} (Part.commaLists parts)).run' []).toOption

/-- All of some parts as selectors between commas, without those that cannot be read. -/
def lenientList (anchor : Anchor) (parts : List Part) : List Selector :=
  match (readLenient anchor (bound parts) {} (Part.commaLists parts)).run' [] with
  | .ok selectors => selectors
  | .error _ => []

end Pagefold.Css.Selector
