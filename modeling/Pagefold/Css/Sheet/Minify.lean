import Pagefold.Css.Declaration.Family
import Pagefold.Css.Selector.Name
import Pagefold.Css.Sheet.Printer
import Pagefold.Css.Sheet.Reader

/-!
# Shorter stylesheets

Rules without content go, neighbouring rules with one selector list or one block are merged,
and a rule goes when a later one with its selectors sets the same properties. Groups under one
condition are merged with their neighbours, layers with those of their name wherever they stand.
-/
namespace Pagefold.Css

/-- What makes a style rule override another one: its selectors, and its properties with their
importance, in order. -/
structure StyleKey where
  selectors : String
  properties : List (String × Bool)
  deriving DecidableEq, Repr

/-- The properties of a block, with their importance. -/
def Block.properties (b : Block) : List (String × Bool) :=
  b.normal.map (fun d => (d.property, false)) ++ b.important.map fun d => (d.property, true)

/-- Two blocks together. -/
def Block.append (a b : Block) : Block := ⟨a.important ++ b.important, a.normal ++ b.normal⟩

namespace Rule

mutual

/-- How deep the rules in a rule are nested. -/
def depth : Rule → Nat
  | .style _ _ rules => depthOf rules + 1
  | .nest _ _ rules => depthOf rules + 1
  | .group _ rules => depthOf rules + 1
  | .scope _ _ rules => depthOf rules + 1
  | _ => 0

/-- How deep some rules are nested. -/
def depthOf : List Rule → Nat
  | [] => 0
  | r :: rest => max r.depth (depthOf rest)

end

/-- The key of a style rule without rules inside. -/
def key? : Rule → Option StyleKey
  | .style selectors block [] => some ⟨Selector.textOfAll selectors, block.properties⟩
  | _ => none

/-- The style rule that says what two neighbours say, if there is one. -/
def merged? : Rule → Rule → Option Rule
  | .style selectors block [], .style others more [] =>
    if !Selector.areAllPortable selectors || !Selector.areAllPortable others then none
    else if Selector.textOfAll selectors = Selector.textOfAll others then
      some (.style selectors (block.append more).minify [])
    else if block.text = more.text then some (.style (selectors ++ others) block [])
    else none
  | _, _ => none

/-- Whether a rule has nothing to say. -/
def isVoid : Rule → Bool
  | .style _ block rules => block.isEmpty && rules.isEmpty
  | _ => false

end Rule

/-- The rules of a list that is being made shorter. Rules that have gone leave their places
empty. The tables tell the places of rules that later ones may replace. -/
structure Shortening where
  rules : List (Option Rule) := []
  styles : List (StyleKey × Nat) := []
  keyframes : List (KeyframesName × Nat) := []
  layers : List (String × Nat) := []
  registered : List (String × Nat) := []

namespace Shortening

/-- One more rule at the end. -/
def push (s : Shortening) (r : Rule) : Shortening := { s with rules := s.rules ++ [some r] }

/-- The last rule. -/
def last? (s : Shortening) : Option Rule := s.rules.getLast?.join

/-- The last rule replaced, or removed. -/
def setLast (s : Shortening) (r : Option Rule) : Shortening :=
  { s with rules := s.rules.dropLast ++ [r] }

/-- The last two rules merged as long as they can be. The bound is on the number of rules. -/
def mergeBack : Nat → Shortening → Shortening
  | 0, s => s
  | n + 1, s =>
    match s.rules.reverse with
    | some b :: some a :: before =>
      match Rule.merged? a b with
      | some r => mergeBack n { s with rules := before.reverse ++ [some r] }
      | none => s
    | _ => s

/-- A style rule without rules inside takes the place of an earlier one that it overrides. -/
def noteStyle (s : Shortening) (r : Rule) : Shortening :=
  match r.key? with
  | none => s
  | some key =>
    let place := s.rules.length - 1
    let isSame (entry : StyleKey × Nat) : Bool :=
      entry.1 = key && ((s.rules[entry.2]?.join).bind Rule.key?) = some key
    let rules := match s.styles.find? isSame with
      | some (_, earlier) => s.rules.set earlier none
      | none => s.rules
    { s with rules, styles := s.styles.filter (!isSame ·) ++ [(key, place)] }

/-- One more style rule, merged with its neighbours or added to them. -/
def addStyle (s : Shortening) (r : Rule) : Shortening :=
  match s.last?.bind fun a => Rule.merged? a r with
  | some m => mergeBack s.rules.length (s.setLast (some m))
  | none => if r.isVoid then s else (s.push r).noteStyle r

/-- One more rule of keyframes: it replaces an earlier one of its name and kind. -/
def addKeyframes (s : Shortening) (head : String) (name : KeyframesName) (r : Rule) :
    Shortening :=
  let isSame (place : Nat) : Bool :=
    match s.rules[place]?.join with
    | some (Rule.keyframes other _ _) => other = head
    | _ => false
  let earlier := (s.keyframes.lookup name).filter isSame
  match earlier with
  | some place => { s with rules := s.rules.set place (some r) }
  | none => { s.push r with keyframes := (name, s.rules.length) :: s.keyframes }

/-- One more block of descriptors: a property is described by the last of its rules. -/
def addDescriptors (s : Shortening) (head : String) (r : Rule) : Shortening :=
  if !head.startsWith "@property " then s.push r
  else
    match s.registered.lookup head with
    | some place => { s with rules := s.rules.set place (some r) }
    | none => { s.push r with registered := (head, s.rules.length) :: s.registered }

/-- The order of layers: an empty layer for each name that is new. -/
def addLayers (s : Shortening) (names : List String) : Shortening :=
  names.foldl (fun s name =>
    if (s.layers.lookup name).isSome then s
    else { s.push (.group (.layer (some name)) []) with
      layers := (name, s.rules.length) :: s.layers }) s

/-- One more layer: its rules go to the first layer of its name. -/
def addLayer (s : Shortening) (name : Option String) (rules : List Rule) : Shortening :=
  match name with
  | none => s.push (.group (.layer none) rules)
  | some word =>
    match s.layers.lookup word with
    | some place =>
      let more := match s.rules[place]?.join with
        | some (.group head before) => some (.group head (before ++ rules))
        | other => other
      { s with rules := s.rules.set place more }
    | none => { s.push (.group (.layer name) rules) with
        layers := (word, s.rules.length) :: s.layers }

end Shortening

namespace Rule

/-- Layers without rules, named together in front of the others. `declared` are the layers that
are named already, and `names` those that the last list of names holds so far, with its place
still open. -/
def settleLayers (declared : List String) (names : Option (List String)) :
    List Rule → List String × List Rule
  | [] => (names.getD [], [])
  | .group (.layer (some name)) [] :: rest =>
    if declared.contains name then settleLayers declared names rest
    else
      match names with
      | some more => settleLayers (name :: declared) (some (more ++ [name])) rest
      | none =>
        let (all, rest) := settleLayers (name :: declared) (some [name]) rest
        ([], .layers all :: rest)
  | .group (.layer none) [] :: rest => settleLayers declared names rest
  | .reference text (some layer) :: rest =>
    let (all, rest) := settleLayers (layer.toList ++ declared) none rest
    let rest := .reference text (some layer) :: rest
    match names with
    | some more => (more, rest)
    | none => (all, rest)
  | r :: rest =>
    let (all, rest) := settleLayers declared names rest
    (all, r :: rest)

/-- Whether a list of media queries holds for no medium. -/
def isNever (queries : List Medium) : Bool :=
  !queries.isEmpty && queries.all fun m =>
    m.qualifier = some "not" && m.kind = "all" && m.condition.isNone

/-- Whether neighbouring groups under these heads are one group. -/
def isSameHead (a b : GroupHead) : Bool :=
  match a, b with
  | .media _, .media _ => a.text? = b.text?
  | .supports _, .supports _ => a.text? = b.text?
  | .container _, .container _ => a.text? = b.text?
  | _, _ => false

/-- Whether a group without rules is left out. -/
def goesEmpty : GroupHead → Bool
  | .document => false
  | .layer _ => false
  | _ => true

mutual

/-- One more rule in its shortest form. The bound is on the depth of the rules. -/
def shorten : Nat → Shortening → Rule → Shortening
  | 0, s, r => s.push r
  | n + 1, s, r =>
    match r with
    | .style selectors block rules =>
      s.addStyle (.style selectors block.minify (minifyAll n rules))
    | .nest selectors block rules =>
      s.push (.nest selectors block.minify (minifyAll n rules))
    | .declarations block => s.push (.declarations block.minify)
    | .scope start stop rules => s.push (.scope start stop (minifyAll n rules))
    | .keyframes head name frames =>
      let frames := frames.map fun f => { f with block := f.block.minify }
      s.addKeyframes head name (.keyframes head name frames)
    | .descriptors head block => s.addDescriptors head (.descriptors head block)
    | .layers names => s.addLayers names
    | .group (.layer name) rules => s.addLayer name rules
    | .group head rules =>
      match s.last? with
      | some (.group other before) =>
        if isSameHead other head then
          s.setLast (some (.group other (minifyAll n (before ++ rules))))
        else addGroup n s head rules
      | _ => addGroup n s head rules
    | r => s.push r

/-- One more group of rules, unless it has none or holds nowhere. -/
def addGroup : Nat → Shortening → GroupHead → List Rule → Shortening
  | n, s, head, rules =>
    let rules := minifyAll n rules
    let never := match head with
      | .media queries => isNever queries
      | _ => false
    if (rules.isEmpty && goesEmpty head) || never then s else s.push (.group head rules)

/-- The rules of a list in their shortest form. -/
def shortenAll : Nat → Shortening → List Rule → Shortening
  | _, s, [] => s
  | n, s, r :: rest => shortenAll n (shorten n s r) rest

/-- A layer whose rules have their shortest form. -/
def shortenLayer : Nat → Rule → Rule
  | n + 1, .group (.layer name) rules => .group (.layer name) (minifyAll n rules)
  | _, r => r

/-- Rules in their shortest form. -/
def minifyAll : Nat → List Rule → List Rule
  | n, rules =>
    let rules := ((shortenAll n {} rules).rules.filterMap id).map (shortenLayer n)
    (settleLayers [] none rules).2

end

end Rule

/-- A stylesheet in its shortest form. -/
def Sheet.minify (s : Sheet) : Sheet :=
  { s with rules := Rule.minifyAll (Rule.depthOf s.rules + 2) s.rules }

end Pagefold.Css
