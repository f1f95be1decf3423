import Mathlib
import Pagefold.Bundle

/-!
# One text in two monads

The making of a document is written for any monad that answers what it asks for. If two such
monads are related, answer by answer, then what is made in the one is related to what is made in
the other. Nothing else is known of the relation than that it holds of values and of actions in
a row, so a relation has to be checked for the answers alone.
-/
namespace Pagefold

/-- A relation between the actions of two monads that values and actions in a row keep. -/
structure Simulation (first second : Type → Type) [Monad first] [Monad second] where
  rel : {α : Type} → first α → second α → Prop
  of_pure : ∀ {α : Type} (a : α), rel (pure a) (pure a)
  of_bind : ∀ {α β : Type} {x : first α} {y : second α} {f : α → first β} {g : α → second β},
    rel x y → (∀ a, rel (f a) (g a)) → rel (x >>= f) (y >>= g)

namespace Simulation

variable {first second : Type → Type} [Monad first] [Monad second]
  (sim : Simulation first second)

/-- The last step of a row does nothing but form a value. -/
theorem of_last {α β : Type} {x : first α} {y : second α} (related : sim.rel x y) (f : α → β) :
    sim.rel (x >>= fun a => pure (f a)) (y >>= fun a => pure (f a)) :=
  sim.of_bind related fun a => sim.of_pure (f a)

/-- Related actions for each entry of a list. -/
theorem of_mapM {α β : Type} {f : α → first β} {g : α → second β}
    (related : ∀ a, sim.rel (f a) (g a)) (list : List α) :
    sim.rel (list.mapM f) (list.mapM g) := by
  have loop : ∀ (rest : List α) (done : List β),
      sim.rel (List.mapM.loop f rest done) (List.mapM.loop g rest done) := by
    intro rest
    induction rest with
    | nil => exact fun done => sim.of_pure _
    | cons a rest inductionHypothesis =>
      exact fun done => sim.of_bind (related a) fun b => inductionHypothesis (b :: done)
  exact loop list []

section Names

variable {f : String → first String} {g : String → second String}

mutual

theorem of_simple (related : ∀ name, sim.rel (f name) (g name)) (s : Css.Simple) :
    sim.rel (s.traverse f) (s.traverse g) := by
  cases s with
  | cls name =>
    simp only [Css.Simple.traverse]
    exact sim.of_last (related name) _
  | group kind among =>
    simp only [Css.Simple.traverse]
    exact sim.of_last (of_selectors related among) _
  | nth name positions among =>
    cases among with
    | none => exact sim.of_pure _
    | some among =>
      simp only [Css.Simple.traverse]
      exact sim.of_last (of_selectors related among) _
  | host inner =>
    cases inner with
    | none => exact sim.of_pure _
    | some inner =>
      simp only [Css.Simple.traverse]
      exact sim.of_last (of_selector related inner) _
  | slotted inner =>
    simp only [Css.Simple.traverse]
    exact sim.of_last (of_selector related inner) _
  | _ => exact sim.of_pure _

theorem of_compound (related : ∀ name, sim.rel (f name) (g name)) (compound : List Css.Simple) :
    sim.rel (Css.Simple.traverseAll f compound) (Css.Simple.traverseAll g compound) := by
  cases compound with
  | nil => exact sim.of_pure _
  | cons s rest =>
    simp only [Css.Simple.traverseAll]
    exact sim.of_bind (of_simple related s) fun _ => sim.of_last (of_compound related rest) _

theorem of_selector (related : ∀ name, sim.rel (f name) (g name)) (s : Css.Selector) :
    sim.rel (s.traverse f) (s.traverse g) := by
  cases s with
  | last compound =>
    simp only [Css.Selector.traverse]
    exact sim.of_last (of_compound related compound) _
  | step compound joined rest =>
    simp only [Css.Selector.traverse]
    exact sim.of_bind (of_selector related rest) fun _ =>
      sim.of_last (of_compound related compound) _

theorem of_selectors (related : ∀ name, sim.rel (f name) (g name)) (list : List Css.Selector) :
    sim.rel (Css.Selector.traverseAll f list) (Css.Selector.traverseAll g list) := by
  cases list with
  | nil => exact sim.of_pure _
  | cons s rest =>
    simp only [Css.Selector.traverseAll]
    exact sim.of_bind (of_selector related s) fun _ => sim.of_last (of_selectors related rest) _

end

/-- Names of animations are the only names in a declaration. -/
theorem of_animationName (related : ∀ name, sim.rel (f name) (g name)) (a : Css.AnimationName) :
    sim.rel (a.traverse f) (a.traverse g) := by
  cases a with
  | none => exact sim.of_pure _
  | ident name => exact sim.of_last (related name) _
  | quoted name => exact sim.of_last (related name) _

theorem of_declaration (related : ∀ name, sim.rel (f name) (g name)) (d : Css.Declaration) :
    sim.rel (d.traverse f) (d.traverse g) := by
  obtain ⟨property, content⟩ := d
  have inner : sim.rel (content.traverse f) (content.traverse g) := by
    cases content with
    | known value said => exact sim.of_pure _
    | free value => exact sim.of_pure _
    | animations list =>
      refine sim.of_last (sim.of_mapM ?_ list) _
      exact fun a => sim.of_last (sim.of_animationName related a.name) _
    | animationNames list =>
      exact sim.of_last (sim.of_mapM (sim.of_animationName related) list) _
  exact sim.of_last inner _

theorem of_block (related : ∀ name, sim.rel (f name) (g name)) (b : Css.Block) :
    sim.rel (b.traverse f) (b.traverse g) :=
  sim.of_bind (sim.of_mapM (sim.of_declaration related) b.normal) fun _ =>
    sim.of_last (sim.of_mapM (sim.of_declaration related) b.important) _

theorem of_keyframesName (related : ∀ name, sim.rel (f name) (g name)) (k : Css.KeyframesName) :
    sim.rel (k.traverse f) (k.traverse g) := by
  cases k with
  | ident name => exact sim.of_last (related name) _
  | quoted name => exact sim.of_last (related name) _

end Names

section Sheets

variable {f : Css.NameKind → String → first String} {g : Css.NameKind → String → second String}

mutual

theorem of_rule (related : ∀ kind name, sim.rel (f kind name) (g kind name)) (r : Css.Rule) :
    sim.rel (r.traverse f) (r.traverse g) := by
  cases r with
  | style selectors block rules =>
    simp only [Css.Rule.traverse]
    exact sim.of_bind (sim.of_selectors (related .cls) selectors) fun _ =>
      sim.of_bind (sim.of_block (related .keyframes) block) fun _ =>
        sim.of_last (of_rules related rules) _
  | nest selectors block rules =>
    simp only [Css.Rule.traverse]
    exact sim.of_bind (sim.of_selectors (related .cls) selectors) fun _ =>
      sim.of_bind (sim.of_block (related .keyframes) block) fun _ =>
        sim.of_last (of_rules related rules) _
  | declarations block =>
    simp only [Css.Rule.traverse]
    exact sim.of_last (sim.of_block (related .keyframes) block) _
  | group head rules =>
    simp only [Css.Rule.traverse]
    exact sim.of_last (of_rules related rules) _
  | scope start stop rules =>
    simp only [Css.Rule.traverse]
    exact sim.of_last (of_rules related rules) _
  | keyframes head name frames =>
    simp only [Css.Rule.traverse]
    refine sim.of_bind (sim.of_keyframesName (related .keyframes) name) fun _ => ?_
    refine sim.of_last (sim.of_mapM ?_ frames) _
    exact fun frame => sim.of_last (sim.of_block (related .keyframes) frame.block) _
  | sections head block named =>
    simp only [Css.Rule.traverse]
    exact sim.of_last (sim.of_block (related .keyframes) block) _
  | _ => exact sim.of_pure _

theorem of_rules (related : ∀ kind name, sim.rel (f kind name) (g kind name))
    (list : List Css.Rule) :
    sim.rel (Css.Rule.traverseAll f list) (Css.Rule.traverseAll g list) := by
  cases list with
  | nil => exact sim.of_pure _
  | cons r rest =>
    simp only [Css.Rule.traverseAll]
    exact sim.of_bind (of_rule related r) fun _ => sim.of_last (of_rules related rest) _

end

/-- A stylesheet is rewritten alike if its names are. -/
theorem of_sheet (related : ∀ kind name, sim.rel (f kind name) (g kind name)) (s : Css.Sheet) :
    sim.rel (s.traverse f) (s.traverse g) :=
  sim.of_last (sim.of_rules related s.rules) _

end Sheets

section Texts

variable {f : String → first String} {g : String → second String}

/-- A script is rewritten alike if its classes are. -/
theorem of_script (related : ∀ name, sim.rel (f name) (g name)) (source : String) :
    sim.rel (Script.renameWith f source) (Script.renameWith g source) := by
  have pieces : ∀ list : List Script.Piece,
      sim.rel (Script.Piece.renameAll f list) (Script.Piece.renameAll g list) := by
    intro list
    induction list with
    | nil => exact sim.of_pure _
    | cons piece rest inductionHypothesis =>
      cases piece with
      | literal c => exact sim.of_last inductionHypothesis _
      | constant d =>
        exact sim.of_bind (related d.cls) fun _ => sim.of_last inductionHypothesis _
  exact sim.of_last (pieces _) _

variable (e : Html.Emitter)

/-- The class attribute is the only one with names in it. -/
theorem of_value (related : ∀ name, sim.rel (f name) (g name)) (element : String)
    (attributes : List Html.Attribute) (a : Html.Attribute) :
    sim.rel (e.value f element attributes a) (e.value g element attributes a) := by
  have classes : ∀ names : List String,
      sim.rel (Html.Emitter.classTokens f names) (Html.Emitter.classTokens g names) := by
    intro names
    induction names with
    | nil => exact sim.of_pure _
    | cons name rest inductionHypothesis =>
      exact sim.of_bind (related name) fun _ => sim.of_last inductionHypothesis _
  simp only [Html.Emitter.value]
  split
  · exact sim.of_pure _
  · split
    · exact sim.of_last (classes _) _
    · exact sim.of_pure _

theorem of_attributes (related : ∀ name, sim.rel (f name) (g name)) (element : String)
    (all list : List Html.Attribute) :
    sim.rel (e.attributes f element all list) (e.attributes g element all list) := by
  induction list with
  | nil => exact sim.of_pure _
  | cons a rest inductionHypothesis =>
    exact sim.of_bind (sim.of_value e related element all a) fun _ =>
      sim.of_last inductionHypothesis _

mutual

theorem of_node (related : ∀ name, sim.rel (f name) (g name)) (mode : Html.TextMode)
    (node : Html.Node) : sim.rel (e.node f mode node) (e.node g mode node) := by
  cases node with
  | document children =>
    simp only [Html.Emitter.node]
    exact of_nodes related mode children
  | element name attrs children =>
    simp only [Html.Emitter.node]
    split
    · exact sim.of_pure _
    · refine sim.of_bind (sim.of_attributes e related name attrs attrs) fun _ => ?_
      split
      · exact sim.of_pure _
      · exact sim.of_last (of_nodes related (mode.inside name) children) _
  | _ => exact sim.of_pure _

theorem of_nodes (related : ∀ name, sim.rel (f name) (g name)) (mode : Html.TextMode)
    (list : List Html.Node) : sim.rel (e.nodes f mode list) (e.nodes g mode list) := by
  cases list with
  | nil => exact sim.of_pure _
  | cons node rest =>
    simp only [Html.Emitter.nodes]
    exact sim.of_bind (of_node related mode node) fun _ =>
      sim.of_last (of_nodes related mode rest) _

end

end Texts

section Documents

variable [Supply first] [Supply second]

/-- What is asked for, other than assets, is answered alike. -/
structure Readings : Prop where
  text : ∀ file, sim.rel (Supply.text file) (Supply.text file)
  token : ∀ name kind, sim.rel (Supply.token name kind) (Supply.token name kind)
  refuse : ∀ {α : Type} failure,
    sim.rel (Supply.refuse failure : first α) (Supply.refuse failure : second α)

/-- What is asked for is answered alike, if assets are copied into the directory `dir`. -/
structure Answers (dir : Path) : Prop extends sim.Readings where
  asset : ∀ source, sim.rel (Supply.asset dir source) (Supply.asset dir source)

variable {sim} {c : Context}

theorem of_result (readings : sim.Readings) {α : Type} (result : Except Failure α) :
    sim.rel (Renaming.pureResult result) (Renaming.pureResult result) := by
  cases result with
  | ok a => exact sim.of_pure a
  | error failure => exact readings.refuse failure

/-- No asset is asked for in a script. -/
theorem of_scriptSource (readings : sim.Readings) (source : Html.Source) :
    sim.rel (Renaming.scriptSource c source) (Renaming.scriptSource c source) := by
  have text : sim.rel (Renaming.scriptText c source) (Renaming.scriptText c source) := by
    cases source with
    | inline content => exact sim.of_pure _
    | linked link =>
      refine sim.of_bind (of_result readings _) fun file => ?_
      exact sim.of_last (readings.text file) _
  refine sim.of_bind text fun found => ?_
  obtain ⟨text, file⟩ := found
  simp only
  split
  · exact sim.of_script (fun name => readings.token name .js) text
  · exact sim.of_pure text

variable (answers : sim.Answers c.assetDir)

include answers

theorem of_rename (link : String) (base : Path) :
    sim.rel (Renaming.rename c link base) (Renaming.rename c link base) := by
  simp only [Renaming.rename]
  split
  · exact sim.of_last (answers.asset _) _
  · exact sim.of_pure _

theorem of_renameAll (base : Path) (known : List (String × String)) (links : List String) :
    sim.rel (Renaming.renameAll c base known links) (Renaming.renameAll c base known links) := by
  induction links generalizing known with
  | nil => exact sim.of_pure _
  | cons link rest inductionHypothesis =>
    simp only [Renaming.renameAll]
    split
    · exact inductionHypothesis known
    · refine sim.of_bind (of_rename answers link base) fun renamed => ?_
      cases renamed with
      | some url => exact inductionHypothesis _
      | none => exact inductionHypothesis known

theorem of_style (source : String) (file : Option Path) :
    sim.rel (Renaming.style c source file) (Renaming.style c source file) := by
  simp only [Renaming.style]
  split
  · exact answers.refuse _
  · next sheet _ =>
    refine sim.of_bind (of_renameAll answers _ [] sheet.urls) fun renamed => ?_
    exact sim.of_last (sim.of_sheet (fun kind name => answers.token name _) sheet) _

theorem of_styleSource (source : Html.Source) :
    sim.rel (Renaming.styleSource c source) (Renaming.styleSource c source) := by
  cases source with
  | inline content => exact of_style answers content none
  | linked link =>
    refine sim.of_bind (of_result answers.toReadings _) fun file => ?_
    exact sim.of_bind (answers.text file) fun text => of_style answers text (some file)

/-- The sources of a document are renamed alike. -/
theorem of_parts (source : Path) :
    sim.rel (Bundle.parts c source) (Bundle.parts c source) := by
  refine sim.of_bind (answers.text source) fun text => ?_
  refine sim.of_bind (sim.of_mapM (of_styleSource answers) _) fun styles => ?_
  refine sim.of_bind (sim.of_mapM (of_scriptSource answers.toReadings) _) fun scripts => ?_
  exact sim.of_last (of_renameAll answers _ [] _) _

omit answers in
/-- A document is made alike. -/
theorem of_page {c : Config} (answers : sim.Answers c.assetOutputDir) (tools : Toolchain)
    (l : Localizer) (source : Path) :
    sim.rel (Bundle.page c tools l source) (Bundle.page c tools l source) := by
  have parts : sim.rel (Bundle.parts (Bundle.context c) source)
      (Bundle.parts (Bundle.context c) source) :=
    of_parts (c := Bundle.context c) answers source
  refine sim.of_bind parts fun p => ?_
  refine sim.of_bind (of_result answers.toReadings _) fun bundles => ?_
  exact sim.of_last (sim.of_node _ (fun name => answers.token name .html) _ _) _

end Documents

end Simulation

end Pagefold
