import Mathlib
import Pagefold.Css.Declaration.Animation
import Pagefold.Css.Selector
import Pagefold.Css.Sheet

/-!
# The names in a stylesheet

The classes of a selector and the names of a rule are listed, and renaming is told without the
actions of the traversal.
-/
namespace Pagefold.Css

/-!
## The classes of a selector

A selector is renamed by a traversal that carries out an action for each class. Here the result is
told without the actions. The classes of a selector are listed, at whatever depth they stand, and a
selector is renamed by a function on names.
-/

/-- The name that a partial function gives, or the name itself where it gives none. -/
def spelled (f : String → Option String) (name : String) : String := (f name).getD name

theorem spelled_eq {f : String → Option String} {name text : String} (found : f name = some text) :
    spelled f name = text := by
  simp [spelled, found]

mutual

/-- The classes in a simple selector, at any depth, in the order in which they are written. -/
def Simple.classes : Simple → List String
  | .cls name => [name]
  | .group _ among => Selector.classesOf among
  | .nth _ _ (some among) => Selector.classesOf among
  | .host (some inner) => inner.classes
  | .slotted inner => inner.classes
  | _ => []

/-- The classes in a compound. -/
def Simple.classesOf : List Simple → List String
  | [] => []
  | s :: rest => s.classes ++ Simple.classesOf rest

/-- The classes in a selector. -/
def Selector.classes : Selector → List String
  | .last compound => Simple.classesOf compound
  | .step compound _ rest => Simple.classesOf compound ++ rest.classes

/-- The classes in a list of selectors. -/
def Selector.classesOf : List Selector → List String
  | [] => []
  | s :: rest => s.classes ++ Selector.classesOf rest

end

mutual

/-- A simple selector with its classes under other names. What is no part of the document keeps its
names. -/
def Simple.rename (f : String → String) : Simple → Simple
  | .cls name => .cls (f name)
  | .group kind among => .group kind (Selector.renameAll f among)
  | .nth name positions (some among) => .nth name positions (some (Selector.renameAll f among))
  | .host (some inner) => .host (some (inner.rename f))
  | .slotted inner => .slotted (inner.rename f)
  | other => other

/-- A compound with its classes under other names. -/
def Simple.renameAll (f : String → String) : List Simple → List Simple
  | [] => []
  | s :: rest => s.rename f :: Simple.renameAll f rest

/-- A selector with its classes under other names. -/
def Selector.rename (f : String → String) : Selector → Selector
  | .last compound => .last (Simple.renameAll f compound)
  | .step compound joined rest => .step (Simple.renameAll f compound) joined (rest.rename f)

/-- Selectors with their classes under other names. -/
def Selector.renameAll (f : String → String) : List Selector → List Selector
  | [] => []
  | s :: rest => s.rename f :: Selector.renameAll f rest

end

theorem Selector.renameAll_eq (f : String → String) (list : List Selector) :
    renameAll f list = list.map (rename f) := by
  induction list with
  | nil => rfl
  | cons s rest inductionHypothesis => rw [renameAll, inductionHypothesis, List.map_cons]

theorem Selector.classesOf_eq (list : List Selector) :
    classesOf list = list.flatMap classes := by
  induction list with
  | nil => rfl
  | cons s rest inductionHypothesis => rw [classesOf, inductionHypothesis, List.flatMap_cons]

section Renaming

variable (f : String → String)

mutual

/-- The classes of a renamed simple selector are the new names, in the same places. -/
theorem Simple.classes_rename (s : Simple) : (s.rename f).classes = s.classes.map f := by
  cases s with
  | cls name => rfl
  | group kind among => exact Selector.classesOf_renameAll among
  | nth name positions among =>
    cases among with
    | none => rfl
    | some among => exact Selector.classesOf_renameAll among
  | host inner =>
    cases inner with
    | none => rfl
    | some inner => exact inner.classes_rename
  | slotted inner => exact inner.classes_rename
  | _ => rfl

theorem Simple.classesOf_renameAll (compound : List Simple) :
    Simple.classesOf (Simple.renameAll f compound) = (Simple.classesOf compound).map f := by
  cases compound with
  | nil => rfl
  | cons s rest =>
    simp only [Simple.renameAll, Simple.classesOf, List.map_append, s.classes_rename,
      Simple.classesOf_renameAll rest]

/-- The classes of a renamed selector are the new names, in the same places. -/
theorem Selector.classes_rename (s : Selector) : (s.rename f).classes = s.classes.map f := by
  cases s with
  | last compound => exact Simple.classesOf_renameAll compound
  | step compound joined rest =>
    simp only [Selector.rename, Selector.classes, List.map_append, rest.classes_rename,
      Simple.classesOf_renameAll compound]

theorem Selector.classesOf_renameAll (list : List Selector) :
    Selector.classesOf (Selector.renameAll f list) = (Selector.classesOf list).map f := by
  cases list with
  | nil => rfl
  | cons s rest =>
    simp only [Selector.renameAll, Selector.classesOf, List.map_append, s.classes_rename,
      Selector.classesOf_renameAll rest]

end

end Renaming

/-!
## The names of a rule

The rules of a stylesheet are listed at whatever depth they stand, outer ones first, and each rule
tells the names of its own: the classes in its selectors, the name of its keyframes, and the
keyframes that its declarations refer to. The selectors that bound a scope, the margins of a page
and values that are not understood may hold names too, but nothing is done with those.

Renaming by a function gives each name of a rule its new form and leaves the rules in their places;
so does replacing the addresses, which touches no name at all.
-/

/-- A value apart from the addresses in it. -/
def Value.bare (v : Value) : Value := v.mapUrls fun _ => ""

@[simp] theorem Value.bare_mapUrls (f : String → String) (v : Value) : (v.mapUrls f).bare = v.bare := by
  simp only [bare, mapUrls, List.map_map]
  refine List.map_congr_left fun piece _ => ?_
  cases piece <;> rfl

@[simp] theorem Value.urls_mapUrls (f : String → String) (v : Value) :
    (v.mapUrls f).urls = v.urls.map f := by
  simp only [urls, mapUrls, List.filterMap_map, List.map_filterMap]
  refine List.filterMap_congr fun piece _ => ?_
  cases piece <;> rfl

namespace AnimationName

/-- A reference under another name. -/
def rename (f : String → String) : AnimationName → AnimationName
  | none => none
  | ident name => ident (f name)
  | quoted name => quoted (f name)

@[simp] theorem name?_rename (f : String → String) (a : AnimationName) :
    (a.rename f).name? = a.name?.map f := by
  cases a <;> rfl

end AnimationName

namespace Content

/-- The keyframes that a content refers to, in order. -/
def references : Content → List String
  | animations list => list.filterMap (·.name.name?)
  | animationNames list => list.filterMap AnimationName.name?
  | _ => []

/-- The value of a content that is not understood, apart from its addresses. -/
def free? : Content → Option Value
  | free value => some value.bare
  | _ => none

/-- A content with its references under other names. -/
def rename (f : String → String) : Content → Content
  | animations list => animations (list.map fun a => { a with name := a.name.rename f })
  | animationNames list => animationNames (list.map (·.rename f))
  | other => other

@[simp] theorem references_rename (f : String → String) (c : Content) :
    (c.rename f).references = c.references.map f := by
  cases c <;> simp [rename, references, List.filterMap_map, List.map_filterMap]

@[simp] theorem references_mapUrls (f : String → String) (c : Content) :
    (c.mapUrls f).references = c.references := by
  cases c <;> rfl

@[simp] theorem free_rename (f : String → String) (c : Content) : (c.rename f).free? = c.free? := by
  cases c <;> rfl

@[simp] theorem free_mapUrls (f : String → String) (c : Content) : (c.mapUrls f).free? = c.free? := by
  cases c <;> simp [mapUrls, free?]

@[simp] theorem urls_rename (f : String → String) (c : Content) : (c.rename f).urls = c.urls := by
  cases c <;> rfl

@[simp] theorem urls_mapUrls (f : String → String) (c : Content) :
    (c.mapUrls f).urls = c.urls.map f := by
  cases c <;> simp [mapUrls, urls]

/-- A content apart from the addresses in it. -/
def bare (c : Content) : Content := c.mapUrls fun _ => ""

@[simp] theorem bare_mapUrls (f : String → String) (c : Content) : (c.mapUrls f).bare = c.bare := by
  cases c with
  | known value said =>
    have values : ∀ vs : List Value,
        (vs.map (Value.mapUrls f)).map Value.bare = vs.map Value.bare := by simp
    simp only [bare, mapUrls, List.map_map, known.injEq]
    exact ⟨value.bare_mapUrls f, List.map_congr_left fun s _ => by
      simpa [Function.comp_def, Value.bare] using values s.values⟩
  | free value => exact congrArg free (value.bare_mapUrls f)
  | _ => rfl

end Content

namespace Block

/-- The declarations of a block in the order in which they are renamed. -/
def declarations (b : Block) : List Declaration := b.normal ++ b.important

/-- The keyframes that a block refers to. -/
def references (b : Block) : List String := b.declarations.flatMap (·.content.references)

/-- The properties whose values are not understood, with these values. -/
def free (b : Block) : List (String × Value) :=
  b.declarations.filterMap fun d => d.content.free?.map (d.property, ·)

/-- A block with its references under other names. -/
def rename (f : String → String) (b : Block) : Block :=
  ⟨b.important.map fun d => { d with content := d.content.rename f },
    b.normal.map fun d => { d with content := d.content.rename f }⟩

@[simp] theorem references_rename (f : String → String) (b : Block) :
    (b.rename f).references = b.references.map f := by
  simp [references, declarations, rename, List.flatMap_map, List.map_flatMap]

@[simp] theorem references_mapUrls (f : String → String) (b : Block) :
    (b.mapUrls f).references = b.references := by
  simp [references, declarations, mapUrls, Declaration.mapUrls, List.flatMap_map]

@[simp] theorem free_rename (f : String → String) (b : Block) : (b.rename f).free = b.free := by
  simp [free, declarations, rename, List.filterMap_map]

@[simp] theorem free_mapUrls (f : String → String) (b : Block) : (b.mapUrls f).free = b.free := by
  simp [free, declarations, mapUrls, Declaration.mapUrls, List.filterMap_map]

@[simp] theorem urls_rename (f : String → String) (b : Block) : (b.rename f).urls = b.urls := by
  simp [urls, rename, List.flatMap_map]

@[simp] theorem urls_mapUrls (f : String → String) (b : Block) :
    (b.mapUrls f).urls = b.urls.map f := by
  simp [urls, mapUrls, Declaration.mapUrls, List.flatMap_map, List.map_flatMap]

/-- A block apart from the addresses in it. -/
def bare (b : Block) : Block := b.mapUrls fun _ => ""

@[simp] theorem bare_mapUrls (f : String → String) (b : Block) : (b.mapUrls f).bare = b.bare := by
  have contents : ∀ c : Content, (c.mapUrls f).mapUrls (fun _ => "") = c.mapUrls fun _ => "" :=
    Content.bare_mapUrls f
  simp [bare, mapUrls, Declaration.mapUrls, contents]

end Block

/-- The text of the name of keyframes. -/
def KeyframesName.name : KeyframesName → String
  | ident name => name
  | quoted name => name

/-- Keyframes under another name. -/
def KeyframesName.rename (f : String → String) : KeyframesName → KeyframesName
  | ident name => ident (f name)
  | quoted name => quoted (f name)

@[simp] theorem KeyframesName.name_rename (f : String → String) (k : KeyframesName) :
    (k.rename f).name = f k.name := by
  cases k <;> rfl

namespace Rule

/-- The selectors of a style rule. -/
def selectors : Rule → List Selector
  | style selectors _ _ => selectors
  | nest selectors _ _ => selectors
  | _ => []

/-- The selectors that bound a scope. -/
def bounds : Rule → List Selector
  | scope start stop _ => start.getD [] ++ stop.getD []
  | _ => []

/-- The blocks of a rule in which references are renamed. -/
def blocks : Rule → List Block
  | style _ block _ => [block]
  | nest _ block _ => [block]
  | declarations block => [block]
  | keyframes _ _ frames => frames.map (·.block)
  | sections _ block _ => [block]
  | _ => []

/-- The blocks after the first one of a rule, such as the margins of a page, apart from their
addresses. -/
def margins : Rule → List Block
  | sections _ _ named => named.map (·.2.bare)
  | _ => []

/-- The name of keyframes. -/
def keyframesName? : Rule → Option String
  | keyframes _ name _ => some name.name
  | _ => none

/-- The keyframes that a rule itself refers to. -/
def references (r : Rule) : List String := r.blocks.flatMap Block.references

/-- The values of a rule itself that are not understood. -/
def free (r : Rule) : List (String × Value) := r.blocks.flatMap Block.free

/-- All names of a rule itself that are renamed. -/
def names (r : Rule) : List String :=
  r.selectors.flatMap Selector.classes ++ r.keyframesName?.toList ++ r.references

theorem forall_names {told : String → Prop} (r : Rule) :
    (∀ name ∈ r.names, told name) ↔ (∀ name ∈ r.selectors.flatMap Selector.classes, told name) ∧
      (∀ name ∈ r.keyframesName?, told name) ∧
        ∀ block ∈ r.blocks, ∀ name ∈ block.references, told name := by
  simp only [names, references, List.forall_mem_append, List.mem_flatMap, Option.mem_toList,
    and_assoc]
  refine and_congr_right fun _ => and_congr_right fun _ => ?_
  exact ⟨fun all block inside name refers => all name ⟨block, inside, refers⟩,
    fun all name ⟨block, inside, refers⟩ => all block inside name refers⟩

mutual

/-- A rule and those inside it at any depth, outer ones first. -/
def inside : Rule → List Rule
  | style selectors block rules => style selectors block rules :: insideOf rules
  | nest selectors block rules => nest selectors block rules :: insideOf rules
  | group head rules => group head rules :: insideOf rules
  | scope start stop rules => scope start stop rules :: insideOf rules
  | other => [other]

/-- Some rules and those inside them at any depth. -/
def insideOf : List Rule → List Rule
  | [] => []
  | r :: rest => r.inside ++ insideOf rest

end

mutual

/-- A rule with its names under other names. -/
def rename (f : String → String) : Rule → Rule
  | style selectors block rules =>
    style (Selector.renameAll f selectors) (block.rename f) (renameAll f rules)
  | nest selectors block rules =>
    nest (Selector.renameAll f selectors) (block.rename f) (renameAll f rules)
  | declarations block => declarations (block.rename f)
  | group head rules => group head (renameAll f rules)
  | scope start stop rules => scope start stop (renameAll f rules)
  | keyframes head name frames =>
    keyframes head (name.rename f)
      (frames.map fun frame => { frame with block := frame.block.rename f })
  | sections head block named => sections head (block.rename f) named
  | other => other

/-- Rules with their names under other names. -/
def renameAll (f : String → String) : List Rule → List Rule
  | [] => []
  | r :: rest => r.rename f :: renameAll f rest

end

section Own

variable (f : String → String) (r : Rule)

@[simp] theorem selectors_rename :
    (r.rename f).selectors = r.selectors.map (Selector.rename f) := by
  cases r <;> simp [rename, selectors, Selector.renameAll_eq]

@[simp] theorem bounds_rename : (r.rename f).bounds = r.bounds := by
  cases r <;> rfl

@[simp] theorem blocks_rename : (r.rename f).blocks = r.blocks.map (Block.rename f) := by
  cases r <;> simp [rename, blocks]

@[simp] theorem margins_rename : (r.rename f).margins = r.margins := by
  cases r <;> rfl

@[simp] theorem keyframesName_rename : (r.rename f).keyframesName? = r.keyframesName?.map f := by
  cases r <;> simp [rename, keyframesName?]

@[simp] theorem references_rename : (r.rename f).references = r.references.map f := by
  simp [references, List.flatMap_map, List.map_flatMap]

@[simp] theorem free_rename : (r.rename f).free = r.free := by
  simp [free, List.flatMap_map]

@[simp] theorem selectors_mapUrls : (r.mapUrls f).selectors = r.selectors := by
  cases r <;> rfl

@[simp] theorem bounds_mapUrls : (r.mapUrls f).bounds = r.bounds := by
  cases r <;> rfl

@[simp] theorem blocks_mapUrls : (r.mapUrls f).blocks = r.blocks.map (Block.mapUrls f) := by
  cases r <;> simp [mapUrls, blocks]

@[simp] theorem margins_mapUrls : (r.mapUrls f).margins = r.margins := by
  cases r <;> simp [mapUrls, margins]

@[simp] theorem keyframesName_mapUrls : (r.mapUrls f).keyframesName? = r.keyframesName? := by
  cases r <;> rfl

@[simp] theorem references_mapUrls : (r.mapUrls f).references = r.references := by
  simp [references, List.flatMap_map]

@[simp] theorem free_mapUrls : (r.mapUrls f).free = r.free := by
  simp [free, List.flatMap_map]

end Own

section Inside

variable (f : String → String)

mutual

/-- Renaming leaves the rules in their places. -/
theorem inside_rename (r : Rule) : (r.rename f).inside = r.inside.map (rename f) := by
  cases r with
  | style selectors block rules =>
    simp only [rename, inside, List.map_cons, insideOf_renameAll rules]
  | nest selectors block rules =>
    simp only [rename, inside, List.map_cons, insideOf_renameAll rules]
  | group head rules => simp only [rename, inside, List.map_cons, insideOf_renameAll rules]
  | scope start stop rules => simp only [rename, inside, List.map_cons, insideOf_renameAll rules]
  | _ => rfl

theorem insideOf_renameAll (list : List Rule) :
    insideOf (renameAll f list) = (insideOf list).map (rename f) := by
  cases list with
  | nil => rfl
  | cons r rest =>
    simp only [renameAll, insideOf, List.map_append, r.inside_rename, insideOf_renameAll rest]

end

mutual

/-- Replacing addresses leaves the rules in their places. -/
theorem inside_mapUrls (r : Rule) : (r.mapUrls f).inside = r.inside.map (mapUrls f) := by
  cases r with
  | style selectors block rules =>
    simp only [mapUrls, inside, List.map_cons, insideOf_mapUrlsOf rules]
  | nest selectors block rules =>
    simp only [mapUrls, inside, List.map_cons, insideOf_mapUrlsOf rules]
  | group head rules => simp only [mapUrls, inside, List.map_cons, insideOf_mapUrlsOf rules]
  | scope start stop rules => simp only [mapUrls, inside, List.map_cons, insideOf_mapUrlsOf rules]
  | _ => rfl

theorem insideOf_mapUrlsOf (list : List Rule) :
    insideOf (mapUrlsOf f list) = (insideOf list).map (mapUrls f) := by
  cases list with
  | nil => rfl
  | cons r rest =>
    simp only [mapUrlsOf, insideOf, List.map_append, r.inside_mapUrls, insideOf_mapUrlsOf rest]

end

mutual

/-- Renaming touches no address. -/
theorem urls_rename (r : Rule) : (r.rename f).urls = r.urls := by
  cases r with
  | style selectors block rules =>
    simp only [rename, urls, Block.urls_rename, urlsOf_renameAll rules]
  | nest selectors block rules =>
    simp only [rename, urls, Block.urls_rename, urlsOf_renameAll rules]
  | declarations block => simp only [rename, urls, Block.urls_rename]
  | group head rules => simp only [rename, urls, urlsOf_renameAll rules]
  | scope start stop rules => simp only [rename, urls, urlsOf_renameAll rules]
  | keyframes head name frames => simp [rename, urls, List.flatMap_map]
  | sections head block named => simp only [rename, urls, Block.urls_rename]
  | _ => rfl

theorem urlsOf_renameAll (list : List Rule) : urlsOf (renameAll f list) = urlsOf list := by
  cases list with
  | nil => rfl
  | cons r rest => simp only [renameAll, urlsOf, r.urls_rename, urlsOf_renameAll rest]

end

mutual

/-- Replacing addresses replaces each of them where it stands. -/
theorem urls_mapUrls (r : Rule) : (r.mapUrls f).urls = r.urls.map f := by
  cases r with
  | style selectors block rules =>
    simp only [mapUrls, urls, Block.urls_mapUrls, urlsOf_mapUrlsOf rules, List.map_append]
  | nest selectors block rules =>
    simp only [mapUrls, urls, Block.urls_mapUrls, urlsOf_mapUrlsOf rules, List.map_append]
  | declarations block => simp only [mapUrls, urls, Block.urls_mapUrls]
  | group head rules => simp only [mapUrls, urls, urlsOf_mapUrlsOf rules]
  | scope start stop rules => simp only [mapUrls, urls, urlsOf_mapUrlsOf rules]
  | keyframes head name frames => simp [mapUrls, urls, List.flatMap_map, List.map_flatMap]
  | sections head block named => simp [mapUrls, urls, List.flatMap_map, List.map_flatMap]
  | descriptors head block => simp only [mapUrls, urls, Block.urls_mapUrls]
  | unknown name head body => cases body <;> simp [mapUrls, urls]
  | _ => rfl

theorem urlsOf_mapUrlsOf (list : List Rule) :
    urlsOf (mapUrlsOf f list) = (urlsOf list).map f := by
  cases list with
  | nil => rfl
  | cons r rest =>
    simp only [mapUrlsOf, urlsOf, r.urls_mapUrls, urlsOf_mapUrlsOf rest, List.map_append]

end

end Inside

end Rule

/-- All names of some rules have an answer. -/
def Rule.Answered (f : String → Option String) (list : List Rule) : Prop :=
  ∀ r ∈ list, ∀ name ∈ r.names, (f name).isSome

namespace Sheet

/-- All rules of a stylesheet at any depth, outer ones first. -/
def inside (s : Sheet) : List Rule := Rule.insideOf s.rules

/-- The names of the keyframes in a stylesheet. -/
def targets (s : Sheet) : List String := s.inside.filterMap Rule.keyframesName?

/-- What the animations in a stylesheet refer to. -/
def references (s : Sheet) : List String := s.inside.flatMap Rule.references

/-- One reference names one of the keyframes. -/
def Refers (s : Sheet) (reference target : Nat) : Prop :=
  ∃ name, s.references[reference]? = some name ∧ s.targets[target]? = some name

/-- A stylesheet with its names under other names. -/
def rename (f : String → String) (s : Sheet) : Sheet :=
  { s with rules := Rule.renameAll f s.rules }

@[simp] theorem inside_rename (f : String → String) (s : Sheet) :
    (s.rename f).inside = s.inside.map (Rule.rename f) := Rule.insideOf_renameAll f s.rules

@[simp] theorem inside_mapUrls (f : String → String) (s : Sheet) :
    (s.mapUrls f).inside = s.inside.map (Rule.mapUrls f) := Rule.insideOf_mapUrlsOf f s.rules

@[simp] theorem urls_rename (f : String → String) (s : Sheet) : (s.rename f).urls = s.urls :=
  Rule.urlsOf_renameAll f s.rules

@[simp] theorem urls_mapUrls (f : String → String) (s : Sheet) :
    (s.mapUrls f).urls = s.urls.map f := Rule.urlsOf_mapUrlsOf f s.rules

end Sheet

end Pagefold.Css
