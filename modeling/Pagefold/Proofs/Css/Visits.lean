import Mathlib
import Pagefold.Proofs.Css.Sheet

/-!
# The order in which names are asked for

A traversal comes to each name of a stylesheet once, in an order that is not the one in which they
are written: the compounds of a selector are visited from the last to the first. With this order a
traversal is known as a whole. It asks for the names that it visits, and gives the stylesheet renamed
by the answers.

The rest of a stylesheet is not touched: what a renaming changes is told by the names that are
visited, and renaming again goes on from the new names.
-/
namespace Pagefold

/-!
## Which names are asked for

An action that asks for nothing but the tokens of names is told by the calls that it makes, in order,
and by what it gives when each name is spelled by a function. The actions form a monad, so a
traversal can be carried out in it.
-/

/-- The calls of an action and what it gives, when each name is spelled by a function. -/
def Naming (κ α : Type) : Type := (String → String) → List κ × α

namespace Naming

variable {κ α β : Type}

instance : Monad (Naming κ) where
  pure a := fun _ => ([], a)
  bind x f := fun spell => ((x spell).1 ++ (f (x spell).2 spell).1, (f (x spell).2 spell).2)

/-- A name is asked for by a call. -/
def ask (call : κ) (name : String) : Naming κ String := fun spell => ([call], spell name)

variable {spell : String → String}

theorem pure_told (a : α) : (pure a : Naming κ α) spell = ([], a) := rfl

@[simp] theorem calls_pure (a : α) : ((pure a : Naming κ α) spell).1 = [] := rfl

@[simp] theorem calls_ask (call : κ) (name : String) : (ask call name spell).1 = [call] := rfl

@[simp] theorem calls_bind (x : Naming κ α) (f : α → Naming κ β) :
    ((x >>= f) spell).1 = (x spell).1 ++ (f (x spell).2 spell).1 := rfl

/-- Actions in a row make their calls in a row. -/
theorem bind_told {x : Naming κ α} {f : α → Naming κ β} {first second : List κ} {a : α} {b : β}
    (early : x spell = (first, a)) (late : f a spell = (second, b)) :
    (x >>= f) spell = (first ++ second, b) := by
  change ((x spell).1 ++ (f (x spell).2 spell).1, (f (x spell).2 spell).2) = _
  rw [early, late]

/-- The last step of a row does nothing but form a value. -/
theorem last_told {x : Naming κ α} {calls : List κ} {a : α} (told : x spell = (calls, a))
    (f : α → β) : (x >>= fun a => pure (f a)) spell = (calls, f a) := by
  rw [bind_told told (pure_told (f a)), List.append_nil]

/-- An action for each entry of a list. -/
theorem mapM_told {f : α → Naming κ β} (calls : α → List κ) (value : α → β)
    (told : ∀ a, f a spell = (calls a, value a)) (list : List α) :
    list.mapM f spell = (list.flatMap calls, list.map value) := by
  have loop : ∀ (rest : List α) (done : List β), List.mapM.loop f rest done spell =
      (rest.flatMap calls, done.reverse ++ rest.map value) := by
    intro rest
    induction rest with
    | nil => exact fun done => by simp [List.mapM.loop, pure_told]
    | cons a rest inductionHypothesis =>
      intro done
      rw [List.mapM.loop, bind_told (told a) (inductionHypothesis (value a :: done))]
      simp
  exact loop list []

end Naming

end Pagefold

namespace Pagefold.Css

mutual

/-- The classes in a simple selector, at any depth, in the order in which they are visited. -/
def Simple.visits : Simple → List String
  | .cls name => [name]
  | .group _ among => Selector.visitsOf among
  | .nth _ _ (some among) => Selector.visitsOf among
  | .host (some inner) => inner.visits
  | .slotted inner => inner.visits
  | _ => []

/-- The classes in a compound, from left to right. -/
def Simple.visitsOf : List Simple → List String
  | [] => []
  | s :: rest => s.visits ++ Simple.visitsOf rest

/-- The classes in a selector, from the last compound to the first. -/
def Selector.visits : Selector → List String
  | .last compound => Simple.visitsOf compound
  | .step compound _ rest => rest.visits ++ Simple.visitsOf compound

/-- The classes in a list of selectors. -/
def Selector.visitsOf : List Selector → List String
  | [] => []
  | s :: rest => s.visits ++ Selector.visitsOf rest

end

theorem Selector.visitsOf_eq (list : List Selector) : visitsOf list = list.flatMap visits := by
  induction list with
  | nil => rfl
  | cons s rest inductionHypothesis => rw [visitsOf, inductionHypothesis, List.flatMap_cons]

mutual

/-- A traversal visits each class as often as it stands there. -/
theorem Simple.visits_perm (s : Simple) : s.visits.Perm s.classes := by
  cases s with
  | group kind among => exact Selector.visitsOf_perm among
  | nth name positions among =>
    cases among with
    | none => exact .refl _
    | some among => exact Selector.visitsOf_perm among
  | host inner =>
    cases inner with
    | none => exact .refl _
    | some inner => exact inner.visits_perm
  | slotted inner => exact inner.visits_perm
  | _ => exact .refl _

theorem Simple.visitsOf_perm (compound : List Simple) :
    (Simple.visitsOf compound).Perm (Simple.classesOf compound) := by
  cases compound with
  | nil => exact .refl _
  | cons s rest => exact s.visits_perm.append (Simple.visitsOf_perm rest)

theorem Selector.visits_perm (s : Selector) : s.visits.Perm s.classes := by
  cases s with
  | last compound => exact Simple.visitsOf_perm compound
  | step compound joined rest =>
    exact (rest.visits_perm.append (Simple.visitsOf_perm compound)).trans List.perm_append_comm

theorem Selector.visitsOf_perm (list : List Selector) :
    (Selector.visitsOf list).Perm (Selector.classesOf list) := by
  cases list with
  | nil => exact .refl _
  | cons s rest => exact s.visits_perm.append (Selector.visitsOf_perm rest)

end

section Laws

variable (f g : String → String)

mutual

/-- The names in a renamed simple selector are the new ones, in the same order. -/
theorem Simple.visits_rename (s : Simple) : (s.rename f).visits = s.visits.map f := by
  cases s with
  | group kind among => exact Selector.visitsOf_renameAll among
  | nth name positions among =>
    cases among with
    | none => rfl
    | some among => exact Selector.visitsOf_renameAll among
  | host inner =>
    cases inner with
    | none => rfl
    | some inner => exact inner.visits_rename
  | slotted inner => exact inner.visits_rename
  | _ => rfl

theorem Simple.visitsOf_renameAll (compound : List Simple) :
    Simple.visitsOf (Simple.renameAll f compound) = (Simple.visitsOf compound).map f := by
  cases compound with
  | nil => rfl
  | cons s rest =>
    simp only [Simple.renameAll, Simple.visitsOf, List.map_append, s.visits_rename,
      Simple.visitsOf_renameAll rest]

theorem Selector.visits_rename (s : Selector) : (s.rename f).visits = s.visits.map f := by
  cases s with
  | last compound => exact Simple.visitsOf_renameAll compound
  | step compound joined rest =>
    simp only [Selector.rename, Selector.visits, List.map_append, rest.visits_rename,
      Simple.visitsOf_renameAll compound]

theorem Selector.visitsOf_renameAll (list : List Selector) :
    Selector.visitsOf (Selector.renameAll f list) = (Selector.visitsOf list).map f := by
  cases list with
  | nil => rfl
  | cons s rest =>
    simp only [Selector.renameAll, Selector.visitsOf, List.map_append, s.visits_rename,
      Selector.visitsOf_renameAll rest]

end

mutual

/-- Renaming again goes on from the new names. -/
theorem Simple.rename_rename (s : Simple) : (s.rename f).rename g = s.rename (g ∘ f) := by
  cases s with
  | group kind among => simp only [Simple.rename, Selector.renameAll_renameAll among]
  | nth name positions among =>
    cases among with
    | none => rfl
    | some among => simp only [Simple.rename, Selector.renameAll_renameAll among]
  | host inner =>
    cases inner with
    | none => rfl
    | some inner => simp only [Simple.rename, inner.rename_rename]
  | slotted inner => simp only [Simple.rename, inner.rename_rename]
  | _ => rfl

theorem Simple.renameAll_renameAll (compound : List Simple) :
    Simple.renameAll g (Simple.renameAll f compound) = Simple.renameAll (g ∘ f) compound := by
  cases compound with
  | nil => rfl
  | cons s rest =>
    simp only [Simple.renameAll, s.rename_rename, Simple.renameAll_renameAll rest]

theorem Selector.rename_rename (s : Selector) : (s.rename f).rename g = s.rename (g ∘ f) := by
  cases s with
  | last compound => simp only [Selector.rename, Simple.renameAll_renameAll compound]
  | step compound joined rest =>
    simp only [Selector.rename, rest.rename_rename, Simple.renameAll_renameAll compound]

theorem Selector.renameAll_renameAll (list : List Selector) :
    Selector.renameAll g (Selector.renameAll f list) = Selector.renameAll (g ∘ f) list := by
  cases list with
  | nil => rfl
  | cons s rest =>
    simp only [Selector.renameAll, s.rename_rename, Selector.renameAll_renameAll rest]

end

mutual

/-- A renaming changes nothing but the names that are visited. -/
theorem Simple.rename_fixed (s : Simple) (fixed : ∀ name ∈ s.visits, f name = name) :
    s.rename f = s := by
  cases s with
  | cls name => exact congrArg Simple.cls (fixed name List.mem_cons_self)
  | group kind among => exact congrArg (Simple.group kind) (Selector.renameAll_fixed among fixed)
  | nth name positions among =>
    cases among with
    | none => rfl
    | some among =>
      exact congrArg (fun list => Simple.nth name positions (some list))
        (Selector.renameAll_fixed among fixed)
  | host inner =>
    cases inner with
    | none => rfl
    | some inner =>
      exact congrArg (fun s => Simple.host (some s)) (inner.rename_fixed fixed)
  | slotted inner => exact congrArg Simple.slotted (inner.rename_fixed fixed)
  | _ => rfl

theorem Simple.renameAll_fixed (compound : List Simple)
    (fixed : ∀ name ∈ Simple.visitsOf compound, f name = name) :
    Simple.renameAll f compound = compound := by
  cases compound with
  | nil => rfl
  | cons s rest =>
    obtain ⟨first, later⟩ := List.forall_mem_append.mp fixed
    rw [Simple.renameAll, s.rename_fixed first, Simple.renameAll_fixed rest later]

theorem Selector.rename_fixed (s : Selector) (fixed : ∀ name ∈ s.visits, f name = name) :
    s.rename f = s := by
  cases s with
  | last compound => exact congrArg Selector.last (Simple.renameAll_fixed compound fixed)
  | step compound joined rest =>
    obtain ⟨later, first⟩ := List.forall_mem_append.mp fixed
    rw [Selector.rename, rest.rename_fixed later, Simple.renameAll_fixed compound first]

theorem Selector.renameAll_fixed (list : List Selector)
    (fixed : ∀ name ∈ Selector.visitsOf list, f name = name) :
    Selector.renameAll f list = list := by
  cases list with
  | nil => rfl
  | cons s rest =>
    obtain ⟨first, later⟩ := List.forall_mem_append.mp fixed
    rw [Selector.renameAll, s.rename_fixed first, Selector.renameAll_fixed rest later]

end

/-- Entries that stay as they are. -/
theorem map_fixed {α : Type} {change : α → α} {list : List α} (fixed : ∀ a ∈ list, change a = a) :
    list.map change = list :=
  (List.map_congr_left fixed).trans (List.map_id' list)

theorem AnimationName.rename_rename (a : AnimationName) :
    (a.rename f).rename g = a.rename (g ∘ f) := by
  cases a <;> rfl

theorem AnimationName.rename_fixed (a : AnimationName) (fixed : ∀ name ∈ a.name?, f name = name) :
    a.rename f = a := by
  cases a with
  | none => rfl
  | ident name => exact congrArg ident (fixed name rfl)
  | quoted name => exact congrArg quoted (fixed name rfl)

theorem Content.rename_rename (c : Content) : (c.rename f).rename g = c.rename (g ∘ f) := by
  cases c <;> simp [rename, AnimationName.rename_rename]

theorem Content.rename_fixed (c : Content) (fixed : ∀ name ∈ c.references, f name = name) :
    c.rename f = c := by
  cases c with
  | known value said => rfl
  | free value => rfl
  | animations list =>
    refine congrArg animations (map_fixed fun a among => ?_)
    rw [a.name.rename_fixed f fun name refers =>
      fixed name (List.mem_filterMap.mpr ⟨a, among, refers⟩)]
  | animationNames list =>
    refine congrArg animationNames (map_fixed fun a among => ?_)
    exact a.rename_fixed f fun name refers =>
      fixed name (List.mem_filterMap.mpr ⟨a, among, refers⟩)

theorem Block.rename_rename (b : Block) : (b.rename f).rename g = b.rename (g ∘ f) := by
  simp [rename, Content.rename_rename]

theorem Block.rename_fixed (b : Block) (fixed : ∀ name ∈ b.references, f name = name) :
    b.rename f = b := by
  have each : ∀ d ∈ b.declarations, { d with content := d.content.rename f } = d := by
    intro d among
    rw [d.content.rename_fixed f fun name refers =>
      fixed name (List.mem_flatMap.mpr ⟨d, among, refers⟩)]
  obtain ⟨normal, important⟩ := List.forall_mem_append.mp each
  rw [rename, map_fixed important, map_fixed normal]

theorem KeyframesName.rename_rename (k : KeyframesName) :
    (k.rename f).rename g = k.rename (g ∘ f) := by
  cases k <;> rfl

theorem KeyframesName.rename_fixed (k : KeyframesName) (fixed : f k.name = k.name) :
    k.rename f = k := by
  cases k with
  | ident name => exact congrArg ident fixed
  | quoted name => exact congrArg quoted fixed

end Laws

section Told

variable {κ : Type} (call : String → κ) (spell : String → String)

mutual

/-- A traversal asks for the classes in the order of the visits, and renames by the answers. -/
theorem Simple.traverse_told (s : Simple) :
    s.traverse (fun name => Naming.ask (call name) name) spell =
      (s.visits.map call, s.rename spell) := by
  cases s with
  | cls name => rfl
  | group kind among =>
    rw [Simple.traverse]
    exact Naming.last_told (Selector.traverseAll_told among) _
  | nth name positions among =>
    cases among with
    | none => rfl
    | some among =>
      rw [Simple.traverse]
      exact Naming.last_told (Selector.traverseAll_told among) _
  | host inner =>
    cases inner with
    | none => rfl
    | some inner =>
      rw [Simple.traverse]
      exact Naming.last_told (Selector.traverse_told inner) _
  | slotted inner =>
    rw [Simple.traverse]
    exact Naming.last_told (Selector.traverse_told inner) _
  | _ => rfl

theorem Simple.traverseAll_told (compound : List Simple) :
    Simple.traverseAll (fun name => Naming.ask (call name) name) compound spell =
      ((Simple.visitsOf compound).map call, Simple.renameAll spell compound) := by
  cases compound with
  | nil => rfl
  | cons s rest =>
    rw [Simple.traverseAll, Simple.visitsOf, List.map_append]
    exact Naming.bind_told (Simple.traverse_told s)
      (Naming.last_told (Simple.traverseAll_told rest) _)

theorem Selector.traverse_told (s : Selector) :
    s.traverse (fun name => Naming.ask (call name) name) spell =
      (s.visits.map call, s.rename spell) := by
  cases s with
  | last compound =>
    rw [Selector.traverse]
    exact Naming.last_told (Simple.traverseAll_told compound) _
  | step compound joined rest =>
    rw [Selector.traverse, Selector.visits, List.map_append]
    exact Naming.bind_told (Selector.traverse_told rest)
      (Naming.last_told (Simple.traverseAll_told compound) _)

theorem Selector.traverseAll_told (list : List Selector) :
    Selector.traverseAll (fun name => Naming.ask (call name) name) list spell =
      ((Selector.visitsOf list).map call, Selector.renameAll spell list) := by
  cases list with
  | nil => rfl
  | cons s rest =>
    rw [Selector.traverseAll, Selector.visitsOf, List.map_append]
    exact Naming.bind_told (Selector.traverse_told s)
      (Naming.last_told (Selector.traverseAll_told rest) _)

end

theorem AnimationName.traverse_told (a : AnimationName) :
    a.traverse (fun name => Naming.ask (call name) name) spell =
      (a.name?.toList.map call, a.rename spell) := by
  cases a <;> rfl

theorem Animation.traverse_told (a : Animation) :
    a.traverse (fun name => Naming.ask (call name) name) spell =
      (a.name.name?.toList.map call, { a with name := a.name.rename spell }) :=
  Naming.last_told (a.name.traverse_told call spell) _

theorem Content.traverse_told (c : Content) :
    c.traverse (fun name => Naming.ask (call name) name) spell =
      (c.references.map call, c.rename spell) := by
  cases c with
  | known value said => rfl
  | free value => rfl
  | animations list =>
    have each := Naming.mapM_told _ _ (Animation.traverse_told call spell) list
    rw [← List.map_flatMap, ← List.filterMap_eq_flatMap_toList] at each
    exact Naming.last_told each Content.animations
  | animationNames list =>
    have each := Naming.mapM_told _ _ (AnimationName.traverse_told call spell) list
    rw [← List.map_flatMap, ← List.filterMap_eq_flatMap_toList] at each
    exact Naming.last_told each Content.animationNames

theorem Declaration.traverse_told (d : Declaration) :
    d.traverse (fun name => Naming.ask (call name) name) spell =
      (d.content.references.map call, { d with content := d.content.rename spell }) :=
  Naming.last_told (d.content.traverse_told call spell) _

/-- The names in a block are visited as its declarations are listed, the important ones last. -/
theorem Block.traverse_told (b : Block) :
    b.traverse (fun name => Naming.ask (call name) name) spell =
      (b.references.map call, b.rename spell) := by
  have each := Naming.mapM_told _ _ (Declaration.traverse_told call spell)
  rw [references, declarations, List.flatMap_append, List.map_append, List.map_flatMap,
    List.map_flatMap]
  exact Naming.bind_told (each b.normal) (Naming.last_told (each b.important) _)

theorem KeyframesName.traverse_told (k : KeyframesName) :
    k.traverse (fun name => Naming.ask (call name) name) spell =
      ([call k.name], k.rename spell) := by
  cases k <;> rfl

end Told

namespace Rule

/-- The names of a rule itself, in the order in which they are visited. -/
def visits (r : Rule) : List (NameKind × String) :=
  (r.selectors.flatMap Selector.visits).map (.cls, ·) ++
    (r.keyframesName?.toList ++ r.references).map (.keyframes, ·)

/-- The names of a rule are visited, each as often as it stands there. -/
theorem visits_perm (r : Rule) : (r.visits.map Prod.snd).Perm r.names := by
  have classes := Selector.visitsOf_perm r.selectors
  rw [Selector.visitsOf_eq, Selector.classesOf_eq] at classes
  have split : r.visits.map Prod.snd =
      r.selectors.flatMap Selector.visits ++ (r.keyframesName?.toList ++ r.references) := by
    simp [visits, Function.comp_def]
  rw [split, names, List.append_assoc]
  exact classes.append_right _

@[simp] theorem visits_rename (spell : String → String) (r : Rule) :
    (r.rename spell).visits = r.visits.map fun visit => (visit.1, spell visit.2) := by
  simp [visits, List.flatMap_map, List.map_flatMap, Selector.visits_rename, Function.comp_def,
    Option.toList_map]

section Told

variable {κ : Type} (call : NameKind → String → κ) (spell : String → String)

/-- The names in the frames of keyframes. -/
theorem traverseFrame_told (frame : Frame) :
    traverseFrame (fun kind name => Naming.ask (call kind name) name) frame spell =
      (frame.block.references.map (call .keyframes), { frame with block := frame.block.rename spell }) :=
  Naming.last_told (frame.block.traverse_told (call .keyframes) spell) _

mutual

/-- A rule is traversed with all those inside it, outer ones first. -/
theorem traverse_told (r : Rule) :
    r.traverse (fun kind name => Naming.ask (call kind name) name) spell =
      ((r.inside.flatMap visits).map fun visit => call visit.1 visit.2, r.rename spell) := by
  cases r with
  | style selectors block rules =>
    rw [traverse]
    refine (Naming.bind_told (Selector.traverseAll_told (call .cls) spell selectors)
      (Naming.bind_told (block.traverse_told (call .keyframes) spell)
        (Naming.last_told (traverseAll_told rules) _))).trans ?_
    simp [inside, rename, visits, Rule.selectors, keyframesName?, Rule.references, blocks,
      Selector.visitsOf_eq, Function.comp_def]
  | nest selectors block rules =>
    rw [traverse]
    refine (Naming.bind_told (Selector.traverseAll_told (call .cls) spell selectors)
      (Naming.bind_told (block.traverse_told (call .keyframes) spell)
        (Naming.last_told (traverseAll_told rules) _))).trans ?_
    simp [inside, rename, visits, Rule.selectors, keyframesName?, Rule.references, blocks,
      Selector.visitsOf_eq, Function.comp_def]
  | declarations block =>
    rw [traverse]
    refine (Naming.last_told (block.traverse_told (call .keyframes) spell) _).trans ?_
    simp [inside, rename, visits, Rule.selectors, keyframesName?, Rule.references, blocks]
  | group head rules =>
    rw [traverse]
    refine (Naming.last_told (traverseAll_told rules) _).trans ?_
    simp [inside, rename, visits, Rule.selectors, keyframesName?, Rule.references, blocks]
  | scope start stop rules =>
    rw [traverse]
    refine (Naming.last_told (traverseAll_told rules) _).trans ?_
    simp [inside, rename, visits, Rule.selectors, keyframesName?, Rule.references, blocks]
  | keyframes head name frames =>
    rw [traverse]
    refine (Naming.bind_told (name.traverse_told (call .keyframes) spell)
      (Naming.last_told (Naming.mapM_told _ _ (traverseFrame_told call spell) frames) _)).trans ?_
    simp [inside, rename, visits, Rule.selectors, keyframesName?, Rule.references, blocks,
      List.map_flatMap, List.flatMap_map, Function.comp_def]
  | sections head block named =>
    rw [traverse]
    refine (Naming.last_told (block.traverse_told (call .keyframes) spell) _).trans ?_
    simp [inside, rename, visits, Rule.selectors, keyframesName?, Rule.references, blocks]
  | _ => simp [traverse, inside, rename, visits, Rule.selectors, keyframesName?, Rule.references,
      blocks, Naming.pure_told]

theorem traverseAll_told (list : List Rule) :
    traverseAll (fun kind name => Naming.ask (call kind name) name) list spell =
      (((insideOf list).flatMap visits).map fun visit => call visit.1 visit.2,
        renameAll spell list) := by
  cases list with
  | nil => rfl
  | cons r rest =>
    rw [traverseAll, insideOf, List.flatMap_append, List.map_append]
    exact Naming.bind_told (traverse_told r) (Naming.last_told (traverseAll_told rest) _)

end

end Told

section Laws

variable (f g : String → String)

mutual

/-- Renaming again goes on from the new names. -/
theorem rename_rename (r : Rule) : (r.rename f).rename g = r.rename (g ∘ f) := by
  cases r with
  | style selectors block rules =>
    simp only [rename, Selector.renameAll_renameAll, Block.rename_rename, renameAll_renameAll rules]
  | nest selectors block rules =>
    simp only [rename, Selector.renameAll_renameAll, Block.rename_rename, renameAll_renameAll rules]
  | declarations block => simp only [rename, Block.rename_rename]
  | group head rules => simp only [rename, renameAll_renameAll rules]
  | scope start stop rules => simp only [rename, renameAll_renameAll rules]
  | keyframes head name frames =>
    simp [rename, KeyframesName.rename_rename, Block.rename_rename]
  | sections head block named => simp only [rename, Block.rename_rename]
  | _ => rfl

theorem renameAll_renameAll (list : List Rule) :
    renameAll g (renameAll f list) = renameAll (g ∘ f) list := by
  cases list with
  | nil => rfl
  | cons r rest => simp only [renameAll, r.rename_rename, renameAll_renameAll rest]

end

/-- Names that a rule visits and that stay as they are stand in its parts. -/
theorem fixed_parts (r : Rule) (fixed : ∀ visit ∈ r.visits, f visit.2 = visit.2) :
    (∀ name ∈ Selector.visitsOf r.selectors, f name = name) ∧
      (∀ name ∈ r.keyframesName?, f name = name) ∧
        ∀ block ∈ r.blocks, ∀ name ∈ block.references, f name = name := by
  refine ⟨fun name member => ?_, fun name member => ?_, fun block inside name refers => ?_⟩
  · rw [Selector.visitsOf_eq] at member
    exact fixed _ (List.mem_append_left _ (List.mem_map_of_mem member))
  · exact fixed _ (List.mem_append_right _ (List.mem_map_of_mem
      (List.mem_append_left _ (Option.mem_toList.mpr member))))
  · exact fixed _ (List.mem_append_right _ (List.mem_map_of_mem
      (List.mem_append_right _ (List.mem_flatMap.mpr ⟨block, inside, refers⟩))))

mutual

/-- A renaming changes nothing but the names that are visited. -/
theorem rename_fixed (r : Rule)
    (fixed : ∀ visit ∈ r.inside.flatMap visits, f visit.2 = visit.2) : r.rename f = r := by
  cases r with
  | style selectors block rules =>
    obtain ⟨own, others⟩ := List.forall_mem_append.mp fixed
    obtain ⟨heads, _, bodies⟩ := fixed_parts f _ own
    rw [rename, Selector.renameAll_fixed f selectors heads,
      block.rename_fixed f (bodies block List.mem_cons_self), renameAll_fixed rules others]
  | nest selectors block rules =>
    obtain ⟨own, others⟩ := List.forall_mem_append.mp fixed
    obtain ⟨heads, _, bodies⟩ := fixed_parts f _ own
    rw [rename, Selector.renameAll_fixed f selectors heads,
      block.rename_fixed f (bodies block List.mem_cons_self), renameAll_fixed rules others]
  | declarations block =>
    obtain ⟨own, _⟩ := List.forall_mem_append.mp fixed
    obtain ⟨_, _, bodies⟩ := fixed_parts f _ own
    rw [rename, block.rename_fixed f (bodies block List.mem_cons_self)]
  | group head rules =>
    obtain ⟨_, others⟩ := List.forall_mem_append.mp fixed
    rw [rename, renameAll_fixed rules others]
  | scope start stop rules =>
    obtain ⟨_, others⟩ := List.forall_mem_append.mp fixed
    rw [rename, renameAll_fixed rules others]
  | keyframes head name frames =>
    obtain ⟨own, _⟩ := List.forall_mem_append.mp fixed
    obtain ⟨_, title, bodies⟩ := fixed_parts f _ own
    rw [rename, name.rename_fixed f (title _ rfl), map_fixed fun frame among => ?_]
    rw [frame.block.rename_fixed f (bodies frame.block (List.mem_map_of_mem among))]
  | sections head block named =>
    obtain ⟨own, _⟩ := List.forall_mem_append.mp fixed
    obtain ⟨_, _, bodies⟩ := fixed_parts f _ own
    rw [rename, block.rename_fixed f (bodies block List.mem_cons_self)]
  | _ => rfl

theorem renameAll_fixed (list : List Rule)
    (fixed : ∀ visit ∈ (insideOf list).flatMap visits, f visit.2 = visit.2) :
    renameAll f list = list := by
  cases list with
  | nil => rfl
  | cons r rest =>
    rw [insideOf, List.flatMap_append] at fixed
    obtain ⟨first, later⟩ := List.forall_mem_append.mp fixed
    rw [renameAll, r.rename_fixed first, renameAll_fixed rest later]

end

end Laws

end Rule

namespace Sheet

/-- The names of a stylesheet, in the order in which they are visited. -/
def visits (s : Sheet) : List (NameKind × String) := s.inside.flatMap Rule.visits

@[simp] theorem visits_rename (spell : String → String) (s : Sheet) :
    (s.rename spell).visits = s.visits.map fun visit => (visit.1, spell visit.2) := by
  simp [visits, List.flatMap_map, List.map_flatMap]

/-- If there is an answer for each name that is visited, there is one for each name of a rule. -/
theorem answered_visits {token : String → Option String} {s : Sheet}
    (known : ∀ visit ∈ s.visits, (token visit.2).isSome) : Rule.Answered token s.inside := by
  intro r inside name stands
  obtain ⟨visit, member, rfl⟩ := List.mem_map.mp (r.visits_perm.mem_iff.mpr stands)
  exact known visit (List.mem_flatMap.mpr ⟨r, inside, member⟩)

/-- Renaming again goes on from the new names. -/
theorem rename_rename (f g : String → String) (s : Sheet) :
    (s.rename f).rename g = s.rename (g ∘ f) := by
  simp [rename, Rule.renameAll_renameAll]

/-- A renaming changes nothing but the names that are visited. -/
theorem rename_fixed (f : String → String) (s : Sheet)
    (fixed : ∀ visit ∈ s.visits, f visit.2 = visit.2) : s.rename f = s := by
  rw [rename, Rule.renameAll_fixed f s.rules fixed]

/-- A traversal asks for the names that it visits, and gives the stylesheet renamed by the answers. -/
theorem traverse_told {κ : Type} (call : NameKind → String → κ) (spell : String → String)
    (s : Sheet) :
    s.traverse (fun kind name => Naming.ask (call kind name) name) spell =
      (s.visits.map fun visit => call visit.1 visit.2, s.rename spell) :=
  Naming.last_told (Rule.traverseAll_told call spell s.rules) _

end Sheet

end Pagefold.Css
