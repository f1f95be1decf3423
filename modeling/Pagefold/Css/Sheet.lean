import Pagefold.Css.Condition.Container
import Pagefold.Css.Condition.Feature
import Pagefold.Css.Condition.Support
import Pagefold.Css.Selector

/-!
# Stylesheets

The rules of a stylesheet. Two kinds of names stand in them: classes in selectors, and names
of keyframes in rules and declarations. Both are reached by one traversal, and the addresses
of files by another one.
-/
namespace Pagefold.Css

/-- One step of keyframes: when, as it is written, and its declarations. -/
structure Frame where
  times : List String
  block : Block
  deriving Repr

/-- The name of keyframes, as an identifier or a string. -/
inductive KeyframesName where
  | ident (name : String)
  | quoted (name : String)
  deriving DecidableEq, Repr

/-- What the rules of a group have in common: a condition, a layer, or another thing. -/
inductive GroupHead where
  | media (queries : List Medium)
  | supports (condition : Condition Support)
  | container (c : Container)
  | layer (name : Option String)
  | startingStyle
  /-- Documents that one engine alone tells apart. -/
  | document

/-- A rule. The `head` of a rule is all of its text that comes before the block. -/
inductive Rule where
  | style (selectors : List Selector) (block : Block) (rules : List Rule)
  /-- A style rule that says where the enclosing rule stands in its selectors. -/
  | nest (selectors : List Selector) (block : Block) (rules : List Rule)
  /-- Declarations between the rules of an enclosing style rule. -/
  | declarations (block : Block)
  | group (head : GroupHead) (rules : List Rule)
  | scope (start : Option (List Selector)) (stop : Option (List Selector)) (rules : List Rule)
  | keyframes (head : String) (name : KeyframesName) (frames : List Frame)
  /-- A block of declarations with named blocks of declarations after it, such as a page with
  its margins. -/
  | sections (head : String) (block : Block) (named : List (String × Block))
  /-- A block of declarations under a head of its own, such as a font. -/
  | descriptors (head : String) (block : Block)
  /-- A reference to another stylesheet, as it is written, with the layer that it goes to, which
  may be one without a name. -/
  | reference (text : String) (layer : Option (Option String))
  /-- The order of layers. -/
  | layers (names : List String)
  /-- The declaration of a namespace, as it is written. -/
  | namespaceOf (text : String)
  /-- A rule of an unknown kind. -/
  | unknown (name : String) (head : Value) (body : Option Value)

/-- A stylesheet: the comments at its start that are kept, and its rules. -/
structure Sheet where
  notices : List String := []
  rules : List Rule := []

/-- What a name in a stylesheet stands for. -/
inductive NameKind where
  | cls
  | keyframes
  deriving DecidableEq, Repr

namespace KeyframesName

/-- The name with an action carried out on it. -/
def traverse {m : Type → Type} [Monad m] (f : String → m String) : KeyframesName → m KeyframesName
  | .ident name => return .ident (← f name)
  | .quoted name => return .quoted (← f name)

end KeyframesName

namespace Rule

variable {m : Type → Type} [Monad m]

/-- A frame with an action carried out on each name in it. -/
def traverseFrame (f : NameKind → String → m String) (frame : Frame) : m Frame :=
  return { frame with block := ← frame.block.traverse (f .keyframes) }

mutual

/-- A rule with an action carried out on each name in it: selectors first, then declarations,
then the rules inside. The selectors of a scope are left alone. -/
def traverse (f : NameKind → String → m String) : Rule → m Rule
  | .style selectors block rules => do
    let selectors ← Selector.traverseAll (f .cls) selectors
    let block ← block.traverse (f .keyframes)
    return .style selectors block (← traverseAll f rules)
  | .nest selectors block rules => do
    let selectors ← Selector.traverseAll (f .cls) selectors
    let block ← block.traverse (f .keyframes)
    return .nest selectors block (← traverseAll f rules)
  | .declarations block => return .declarations (← block.traverse (f .keyframes))
  | .group head rules => return .group head (← traverseAll f rules)
  | .scope start stop rules => return .scope start stop (← traverseAll f rules)
  | .keyframes head name frames => do
    let name ← name.traverse (f .keyframes)
    return .keyframes head name (← frames.mapM (traverseFrame f))
  | .sections head block named => return .sections head (← block.traverse (f .keyframes)) named
  | other => return other

/-- Rules with an action carried out on each name in them. -/
def traverseAll (f : NameKind → String → m String) : List Rule → m (List Rule)
  | [] => return []
  | r :: rest => do
    let r ← r.traverse f
    let rest ← traverseAll f rest
    return r :: rest

end

mutual

/-- The addresses in a rule, in order. -/
def urls : Rule → List String
  | .style _ block rules => block.urls ++ urlsOf rules
  | .nest _ block rules => block.urls ++ urlsOf rules
  | .declarations block => block.urls
  | .group _ rules => urlsOf rules
  | .scope _ _ rules => urlsOf rules
  | .keyframes _ _ frames => frames.flatMap (·.block.urls)
  | .sections _ block named => block.urls ++ named.flatMap (·.2.urls)
  | .descriptors _ block => block.urls
  | .reference .. => []
  | .layers _ => []
  | .namespaceOf _ => []
  | .unknown _ head body => head.urls ++ (body.map Value.urls).getD []

/-- The addresses in a list of rules, in order. -/
def urlsOf : List Rule → List String
  | [] => []
  | r :: rest => r.urls ++ urlsOf rest

end

mutual

/-- A rule with its addresses replaced. -/
def mapUrls (f : String → String) : Rule → Rule
  | .style selectors block rules => .style selectors (block.mapUrls f) (mapUrlsOf f rules)
  | .nest selectors block rules => .nest selectors (block.mapUrls f) (mapUrlsOf f rules)
  | .declarations block => .declarations (block.mapUrls f)
  | .group head rules => .group head (mapUrlsOf f rules)
  | .scope start stop rules => .scope start stop (mapUrlsOf f rules)
  | .keyframes head name frames =>
    .keyframes head name (frames.map fun frame => { frame with block := frame.block.mapUrls f })
  | .sections head block named =>
    .sections head (block.mapUrls f) (named.map fun entry => (entry.1, entry.2.mapUrls f))
  | .descriptors head block => .descriptors head (block.mapUrls f)
  | .reference text layer => .reference text layer
  | .layers names => .layers names
  | .namespaceOf text => .namespaceOf text
  | .unknown name head body => .unknown name (head.mapUrls f) (body.map (Value.mapUrls f))

/-- A list of rules with their addresses replaced. -/
def mapUrlsOf (f : String → String) : List Rule → List Rule
  | [] => []
  | r :: rest => r.mapUrls f :: mapUrlsOf f rest

end

end Rule

namespace Sheet

/-- A stylesheet with an action carried out on each name in it. -/
def traverse {m : Type → Type} [Monad m] (f : NameKind → String → m String) (s : Sheet) :
    m Sheet :=
  return { s with rules := ← Rule.traverseAll f s.rules }

/-- The addresses in a stylesheet, in order. -/
def urls (s : Sheet) : List String := Rule.urlsOf s.rules

/-- A stylesheet with its addresses replaced. -/
def mapUrls (f : String → String) (s : Sheet) : Sheet :=
  { s with rules := Rule.mapUrlsOf f s.rules }

end Sheet

end Pagefold.Css
