import Pagefold.Css.Condition.Container
import Pagefold.Css.Condition.Feature
import Pagefold.Css.Condition.Support
import Pagefold.Css.Declaration.Animation
import Pagefold.Css.Selector.Reader
import Pagefold.Css.Sheet
import Pagefold.Css.Sheet.Registered
import Pagefold.Css.Sheet.Sections

/-!
# Reading stylesheets

The rules of a stylesheet, with blocks and without.
-/
namespace Pagefold.Css

/-!
## Reading rules without blocks

References to other stylesheets, namespaces, and the order of layers.
-/

namespace Layers

/-- The rest of the name of a layer: further names after points, without blanks. The bound is on
their number. -/
def readRest : Nat → Reading String
  | 0 => pure ""
  | n + 1 => do
    let next : Reading String := do
      if !(← Reading.nextHere).is (.delim '.') then Reading.refuse
      Reading.orRefuse (← Reading.nextHere).ident?
    match ← Reading.attempt next with
    | some name => return "." ++ Literal.name name ++ (← readRest n)
    | none => pure ""

/-- The name of a layer, as it is written. -/
def readName : Reading String := do
  let first ← Reading.ident
  return Literal.name first ++ (← readRest (← get).length)

/-- The names of layers. A list that lacks a name at its end stands for no names. -/
def names? (parts : List Part) : Option (List String) :=
  match (Part.commaLists parts).mapM fun item => readName.whole item with
  | .ok names => some names
  | .error .ended =>
    -- Only the last of the lists may lack its name.
    let isWhole (item : List Part) : Bool := (readName.whole item).isOk
    if (Part.commaLists parts).dropLast.all isWhole then some [] else none
  | .error _ => none

end Layers

namespace Reference

/-- The layer of another stylesheet, which may be one without a name. -/
def readLayer : Reading (Option (Option String)) := do
  match ← Reading.attempt (Reading.word "layer") with
  | some () => pure (some none)
  | none =>
    match ← Reading.attempt (Reading.callOf "layer") with
    | some content => return some (some (← Reading.within content Layers.readName))
    | none => pure none

/-- How the layer of another stylesheet is written. -/
def layerText : Option (Option String) → String
  | none => ""
  | some none => " layer"
  | some (some name) => " layer(" ++ name ++ ")"

/-- What has to be supported for another stylesheet, as it is written. -/
def readSupports : Reading String := do
  match ← Reading.attempt (Reading.callOf "supports") with
  | none => pure ""
  | some content =>
    let condition ← Reading.within content do
      match ← Reading.attempt Support.readAny with
      | some c => pure c
      | none => return .member (← Support.readDeclaration)
    let written := Support.textOf condition
    match condition with
    | .member (.declared ..) => pure (" supports" ++ written)
    | _ => pure (" supports(" ++ written ++ ")")

/-- The reference to another stylesheet. -/
def readImport : Reading Rule := do
  let link ← Reading.linkOrQuoted
  let layer ← readLayer
  let supports ← readSupports
  let media ← Medium.readList
  let written := if media.isEmpty then "" else " " ++ Medium.textOfAll media
  let said := layerText layer ++ supports ++ written
  pure (.reference ("@import " ++ Literal.quoted link ++ said ++ ";") layer)

/-- The declaration of a namespace. -/
def readNamespace : Reading Rule := do
  let name ← Reading.attempt Reading.ident
  let link ← Reading.linkOrQuoted
  let space := (name.map fun name => Literal.name name ++ " ").getD ""
  pure (.namespaceOf ("@namespace " ++ space ++ Literal.quoted link ++ ";"))

end Reference

/-!
## Reading rules with blocks

A stylesheet is a list of rules; one that cannot be read makes the whole stylesheet
unreadable. Inside a style rule stand declarations and rules in any order: the declarations
before the first rule belong to the style rule itself, later ones stand between the rules.
-/

namespace Sheet

/-- What has been read of the inside of a rule, rules in reverse order. -/
structure Body where
  block : Block := {}
  rules : List Rule := []

/-- One more declaration. `owner` tells that the first declarations belong to the rule. -/
def Body.addDeclaration (b : Body) (owner : Bool) (d : Declaration × Bool) : Body :=
  match b.rules with
  | .declarations block :: rest => { b with rules := .declarations (block.add d) :: rest }
  | [] => if owner then { b with block := b.block.add d }
    else { b with rules := [.declarations (({} : Block).add d)] }
  | rules => { b with rules := .declarations (({} : Block).add d) :: rules }

/-- One more rule. -/
def Body.addRule (b : Body) (r : Rule) : Body := { b with rules := r :: b.rules }

/-- The head and block of an at-rule, and what follows. -/
def splitAtRule (parts : List Part) : List Part × Option (List Part) × List Part :=
  let (head, rest) := Part.before Block.endsHead parts
  match rest with
  | .block _ content _ :: rest => (head, some content, rest)
  | _ :: rest => (head, none, rest)
  | [] => (head, none, [])

/-- The two selector lists of a scope. -/
def readScope : Reading (Option (List Selector) × Option (List Selector)) := do
  let list (content : List Part) : List Selector := Selector.lenientList .relative content
  let start ← Reading.attempt Reading.parentheses
  let stop ← match ← Reading.attempt (Reading.word "to") with
    | some () => pure (some (← Reading.parentheses))
    | none => pure none
  pure (start.map list, stop.map list)

/-- The argument of the one kind of document that is known: nothing, or an empty string. -/
def readAnyPrefix : Reading Unit := do
  let content ← Reading.callOf "url-prefix"
  Reading.within content do
    if !(← Reading.atEnd) then
      if (← Reading.quoted) ≠ "" then Reading.refuse

/-- The head of a group of rules, by the name of the at-rule, if it is one. -/
def groupHead? (small : String) (head : List Part) : Option (Option GroupHead) :=
  match small with
  | "media" => some (.media <$> (Medium.readList.whole head).toOption)
  | "supports" => some (.supports <$> (Support.readAny.whole head).toOption)
  | "container" => some (.container <$> (Container.read.whole head).toOption)
  | "layer" => some do
    match ← Layers.names? head with
    | [] => pure (.layer none)
    | [name] => pure (.layer (some name))
    | _ => none
  | "starting-style" => some (if (Part.trim head).isEmpty then some .startingStyle else none)
  | "-moz-document" => some do
    (readAnyPrefix.whole head).toOption
    pure .document
  | _ => none

/-- The at-rules that groups of rules, scopes and style rules belong to; all have blocks. -/
def groupNames : List String :=
  ["media", "supports", "container", "starting-style", "-moz-document", "scope"]

/-- The rules of keyframes. -/
def keyframesNames : List String :=
  ["keyframes", "-webkit-keyframes", "-moz-keyframes", "-o-keyframes", "-ms-keyframes"]

/-- The rules that cannot stand inside a style rule; all have blocks. -/
def outerNames : List String :=
  Descriptors.rules ++ keyframesNames ++ ["font-feature-values", "page"]

/-- A rule of an unknown kind. -/
def unknown? (name : String) (head : List Part) (content : Option (List Part)) : Option Rule := do
  let head ← Value.ofAll? (Part.skipSpace head)
  match content with
  | none => pure (.unknown name head none)
  | some content => pure (.unknown name head (some (← Value.ofAll? content)))

/-- A rule without a block. -/
def statement? (name small : String) (inStyle : Bool) (head : List Part) : Option Rule :=
  if small = "layer" then do
    let names ← Layers.names? head
    if inStyle || names.isEmpty then none
    pure (.layers names)
  else if (groupNames ++ outerNames).contains small || (small = "nest" && inStyle) then none
  else unknown? name head none

/-- An at-rule with a block that holds no other rules. -/
def plainRule? (name small : String) (inStyle : Bool) (head content : List Part) : Option Rule :=
  if inStyle && outerNames.contains small then none
  else if keyframesNames.contains small then do
    let own ← (KeyframesName.read.whole head).toOption
    pure (.keyframes ("@" ++ small) own (Frame.list content))
  else if small = "page" then Page.rule? head content
  else if small = "font-feature-values" then FontFeatures.rule? head content
  else if Descriptors.rules.contains small then Descriptors.rule? small head content
  else unknown? name head (some content)

mutual

/-- The inside of a rule. `inStyle` tells that a style rule is around it, and `owner` that it
is the inside of that style rule itself. -/
def body? (inStyle owner : Bool) : Nat → Body → List Part → Option Body
  | 0, _, _ => none
  | n + 1, b, parts =>
    match parts.dropWhile fun p => p.isSpace || p.is .semicolon with
    | [] => some { b with rules := b.rules.reverse }
    | p :: rest =>
      match p.atWord? with
      | some name => do
        let (head, content, rest) := splitAtRule rest
        let r ← atRule? inStyle n name head content
        body? inStyle owner n (b.addRule r) rest
      | none =>
        let declared :=
          if inStyle ∧ p.ident?.isSome then
            let (item, after) := Part.before (·.is .semicolon) (p :: rest)
            (Declaration.ofParts? item).map fun d => (d, after.drop 1)
          else none
        match declared with
        | some (d, after) => body? inStyle owner n (b.addDeclaration owner d) after
        | none =>
          let stop (p : Part) : Bool := p.opensWith '{' || (inStyle && p.is .semicolon)
          match Part.before stop (p :: rest) with
          | (head, .block _ content _ :: rest) => do
            let r ← styleRule? inStyle n head content
            body? inStyle owner n (b.addRule r) rest
          | _ => none

/-- A style rule. -/
def styleRule? (inStyle : Bool) : Nat → List Part → List Part → Option Rule
  | 0, _, _ => none
  | n + 1, head, content => do
    let selectors ← Selector.list? (if inStyle then .nested else .absolute) head
    let inner ← body? true true n {} content
    pure (.style selectors inner.block inner.rules)

/-- A rule that starts with an at sign. -/
def atRule? (inStyle : Bool) : Nat → String → List Part → Option (List Part) → Option Rule
  | 0, _, _, _ => none
  | n + 1, name, head, content =>
    let small := Text.lower name
    match content with
    | none => statement? name small inStyle head
    | some content =>
      match groupHead? small head with
      | some head => do
        let head ← head
        let inner ← body? inStyle false n {} content
        pure (.group head inner.rules)
      | none =>
        if small = "scope" then do
          let (start, stop) ← (readScope.whole head).toOption
          let inner ← body? inStyle false n {} content
          pure (.scope start stop inner.rules)
        else if small = "nest" ∧ inStyle then do
          let selectors ← Selector.list? .absolute head
          if !selectors.all (·.namesParent) then none
          let inner ← body? true true n {} content
          pure (.nest selectors inner.block inner.rules)
        else plainRule? name small inStyle head content

end

/-- How far a stylesheet has come: references to other stylesheets stand before namespaces,
and these before all other rules; layers may be named first. -/
inductive Phase where
  | start
  | layers
  | imports
  | namespaces
  | rules
  deriving DecidableEq, Repr

/-- The number of a phase in the order of a stylesheet. -/
def Phase.rank : Phase → Nat
  | start => 0
  | layers => 1
  | imports => 2
  | namespaces => 3
  | rules => 4

/-- The at-rules that only the outermost level knows. The rule is missing where it means
nothing. -/
def outerRule? (phase : Phase) (small : String) (head : List Part)
    (content : Option (List Part)) : Option (Option (Option Rule × Phase)) :=
  match small with
  | "import" => some do
    if content.isSome || Phase.imports.rank < phase.rank then none
    pure (some (← (Reference.readImport.whole head).toOption), .imports)
  | "namespace" => some do
    if content.isSome || Phase.namespaces.rank < phase.rank then none
    pure (some (← (Reference.readNamespace.whole head).toOption), .namespaces)
  | "charset" => some do
    if content.isSome then none
    let _ ← (Reading.quoted.whole head).toOption
    pure (none, phase)
  | "property" => some do pure (some (← Registered.rule? head (← content)), .rules)
  | _ => none

/-- The phase after a rule that is no reference and no namespace. A rule without a block that
names no layers changes nothing. -/
def Phase.after (phase : Phase) (small : String) (content : Option (List Part)) : Phase :=
  if content.isSome then .rules
  else if small ≠ "layer" then phase
  else if phase.rank ≤ Phase.layers.rank then .layers
  else .rules

/-- Blanks, comments and the marks of markup comments, which mean nothing between rules. -/
def isVoid (p : Part) : Bool := p.isSpace || p.is .markupComment

/-- The rules of a stylesheet. -/
def rules? : Nat → Phase → List Part → Option (List Rule)
  | 0, _, _ => none
  | n + 1, phase, parts =>
    match parts.dropWhile isVoid with
    | [] => some []
    | .token ⟨.atWord name, _⟩ :: rest => do
      let (head, content, rest) := splitAtRule rest
      let small := Text.lower name
      match outerRule? phase small head content with
      | some result => do
        let (r, phase) ← result
        pure (r.toList ++ (← rules? n phase rest))
      | none => do
        let r ← atRule? false n name head content
        pure (r :: (← rules? n (phase.after small content) rest))
    | parts =>
      match Part.before (·.opensWith '{') parts with
      | (head, .block _ content _ :: rest) => do
        let r ← styleRule? false n head content
        pure (r :: (← rules? n .rules rest))
      | _ => none

/-- The parts of a stylesheet without the rule at its start that names its encoding. -/
def afterCharset (parts : List Part) : List Part :=
  match parts.dropWhile isVoid with
  | .token ⟨.atWord name, text⟩ :: rest =>
    if Text.sameLetters name "charset" then (splitAtRule rest).2.2
    else .token ⟨.atWord name, text⟩ :: rest
  | parts => parts

/-- The comments at the start of a stylesheet that are kept: those that open with an
exclamation mark. -/
def leadingNotices : List Token → List String
  | [] => []
  | t :: rest =>
    match t.kind with
    | .blank => leadingNotices rest
    | .comment content => if content.startsWith "!" then content :: leadingNotices rest else []
    | _ => []

/-- The stylesheet that a text is, if it can be read. -/
def read? (source : String) : Option Sheet := do
  let tokens := Token.list source.toList
  let parts := afterCharset (Part.ofTokens tokens)
  let rules ← rules? (4 * tokens.length + 8) .start parts
  pure ⟨leadingNotices tokens, rules⟩

end Sheet

end Pagefold.Css
