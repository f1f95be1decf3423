import Mathlib
import Pagefold.Proofs.Html.Assets
import Pagefold.Proofs.Renaming.Names

/-!
# What a document asks for

Which files are read for a document, which names are written in it and which assets it refers to is
decided by the files alone. The tokens and the records that are answered only come into the text of
the document, and nothing that is asked for depends on them.

A `Survey` makes a document without any tables. It takes the files from a given state, lets every
name stand for itself, and collects the questions. Whatever a run answers, it was asked the same.
-/
namespace Pagefold

section Names

variable {κ : Type} (call : String → κ) (spell : String → String)

/-- The class constants of a script are asked for in order. -/
theorem Script.renameWith_calls (source : String) :
    (renameWith (fun name => Naming.ask (call name) name) source spell).1 =
      (constants source).map fun d => call d.cls := by
  obtain ⟨declared, listed, copied, named⟩ : ∃ declared : Piece → Option ClassConstant,
      constants source = (Piece.scan source.toList).filterMap declared ∧
      (∀ c, declared (.literal c) = none) ∧ ∀ d, declared (.constant d) = some d :=
    ⟨_, rfl, fun _ => rfl, fun _ => rfl⟩
  have pieces : ∀ list : List Piece,
      (Piece.renameAll (fun name => Naming.ask (call name) name) list spell).1 =
        (list.filterMap declared).map fun d => call d.cls := by
    intro list
    induction list with
    | nil => rfl
    | cons piece rest inductionHypothesis =>
      cases piece <;> simp [Piece.renameAll, inductionHypothesis, copied, named]
  simp [renameWith, listed, pieces]

namespace Html

/-- The names in the class attributes of an element, with their placeholders replaced. -/
def classNames (l : Localizer) (element : String × List Attribute) : List String :=
  element.2.flatMap fun a =>
    if a.name = "class" then
      (Text.words (· == ' ') (l.apply (Text.collapse (Text.trim a.value.toList)))).map String.ofList
    else []

namespace Emitter

variable (e : Emitter)

theorem classTokens_calls (names : List String) :
    (classTokens (fun name => Naming.ask (call name) name) names spell).1 = names.map call := by
  induction names with
  | nil => rfl
  | cons name rest inductionHypothesis => simp [classTokens, inductionHypothesis]

/-- No new name of an asset takes the place of classes. -/
theorem attributes_calls (element : String) (all list : List Attribute) :
    (e.attributes (fun name => Naming.ask (call name) name) element all list spell).1 =
      (classNames e.localizer (element, list)).map call := by
  induction list with
  | nil => rfl
  | cons a rest inductionHypothesis =>
    have value : (e.value (fun name => Naming.ask (call name) name) element all a spell).1 =
        (classNames e.localizer (element, [a])).map call := by
      by_cases cls : a.name = "class"
      · have kept : e.renamed? element all a = none := by
          have other := class_not_asset element all
          simp [renamed?, cls, other]
        simp [Emitter.value, kept, classNames, cls, classTokens_calls]
      · unfold Emitter.value
        cases e.renamed? element all a <;> simp [classNames, cls]
    have split : classNames e.localizer (element, a :: rest) =
        classNames e.localizer (element, [a]) ++ classNames e.localizer (element, rest) := by
      simp [classNames]
    simp [attributes, value, inductionHypothesis, split]

mutual

/-- The names in the markup of a node are asked for in order. -/
theorem node_calls (mode : TextMode) (node : Node) :
    (e.node (fun name => Naming.ask (call name) name) mode node spell).1 =
      (node.written.flatMap (classNames e.localizer)).map call := by
  cases node with
  | document children => exact nodes_calls mode children
  | element name attributes children =>
    rw [Emitter.node, Node.written]
    split
    · rfl
    · have inner := nodes_calls (mode.inside name) children
      have outer := attributes_calls call spell e name attributes attributes
      split
      · next childless =>
        have none : children = [] := by
          simp only [Bool.and_eq_true, List.isEmpty_iff] at childless
          exact childless.1
        simp [outer, none, writtenOf]
      · simp [outer, inner]
  | _ => rfl

theorem nodes_calls (mode : TextMode) (list : List Node) :
    (e.nodes (fun name => Naming.ask (call name) name) mode list spell).1 =
      ((writtenOf list).flatMap (classNames e.localizer)).map call := by
  cases list with
  | nil => rfl
  | cons node rest =>
    have first := node_calls mode node
    have others := nodes_calls mode rest
    simp [Emitter.nodes, writtenOf, first, others]

end

end Emitter

end Html

end Names

/-- What the making of a document asks for. -/
inductive Question where
  | text (file : Path)
  | token (name : String) (kind : Class.Usage)
  | asset (file : Path)

namespace Question

/-- The file that is read for the answer, if one is. -/
def file? : Question → Option Path
  | .text file => some file
  | .token .. => none
  | .asset file => some file

/-- The files among some questions that are assets. -/
def assets (questions : List Question) : List Path :=
  questions.filterMap fun question =>
    match question with
    | .asset file => some file
    | _ => none

/-- The names among some questions, each with the kind of its source. -/
def calls (questions : List Question) : List (String × Class.Usage) :=
  questions.filterMap fun question =>
    match question with
    | .token name kind => some (name, kind)
    | _ => none

theorem assets_append (first second : List Question) :
    assets (first ++ second) = assets first ++ assets second :=
  List.filterMap_append

theorem calls_append (first second : List Question) :
    calls (first ++ second) = calls first ++ calls second :=
  List.filterMap_append

/-- Calls ask for names and for nothing else. -/
theorem of_calls (list : List (String × Class.Usage)) :
    calls (list.map fun call => .token call.1 call.2) = list ∧
      assets (list.map fun call => .token call.1 call.2) = [] := by
  simp [calls, assets, List.filterMap_map]

end Question

/-- The questions of an action and its value, if it has one, when the files hold what is given. -/
def Survey (α : Type) : Type := (Path → Option Bytes) → List Question × Option α

namespace Survey

instance : Monad Survey where
  pure a := fun _ => ([], some a)
  bind x f := fun held =>
    match x held with
    | (asked, some a) => (asked ++ (f a held).1, (f a held).2)
    | (asked, none) => (asked, none)

/-- Names stand for themselves, and the record of an asset has nothing but its paths. -/
instance : Supply Survey where
  text file := fun held =>
    ([.text file], (held file).bind fun bytes => (Text.Utf8.decode bytes).toOption)
  token name kind := fun _ => ([.token name kind], some name)
  asset dir source := fun _ =>
    let file := Asset.Table.sourceOf source.text
    ([.asset file], some ⟨"", "", file, dir⟩)
  refuse _ := fun _ => ([], none)

/-- What comes after an action that has a value. -/
theorem bind_some {α β : Type} {x : Survey α} {f : α → Survey β} {held : Path → Option Bytes}
    {a : α} (value : (x held).2 = some a) :
    (x >>= f) held = ((x held).1 ++ (f a held).1, (f a held).2) := by
  obtain ⟨asked, same⟩ : ∃ asked, x held = (asked, some a) := ⟨(x held).1, Prod.ext rfl value⟩
  change (match x held with
    | (asked, some a) => (asked ++ (f a held).1, (f a held).2)
    | (asked, none) => (asked, none)) = _
  rw [same]

/-- An action has asked its questions when the next one follows. -/
theorem bind_asked {α β : Type} (x : Survey α) (f : α → Survey β) (held : Path → Option Bytes) :
    (x held).1 <+: ((x >>= f) held).1 := by
  change (x held).1 <+: (match x held with
    | (asked, some a) => (asked ++ (f a held).1, (f a held).2)
    | (asked, none) => (asked, none)).1
  rcases x held with ⟨asked, _ | a⟩
  · exact List.prefix_refl _
  · exact List.prefix_append _ _

/-- A survey that asks for nothing but names. -/
def naming : Simulation Survey (Naming (String × Class.Usage)) where
  rel x y := ∀ held, x held =
    ((y id).1.map fun call => .token call.1 call.2, some (y id).2)
  of_pure a held := rfl
  of_bind := by
    intro α β x y f g left right held
    have value : (x held).2 = some (y id).2 := by rw [left held]
    rw [bind_some value, left held, right _ held]
    simp only [Naming.calls_bind, List.map_append]
    rfl

theorem naming_token (name : String) (kind : Class.Usage) :
    naming.rel (Supply.token name kind) (Naming.ask (name, kind) name) := fun _ => rfl

end Survey

/-- The answers are answers to the questions: the same names were written, and each asset has the
record of its file. -/
structure Answered (answers : List Answer) (questions : List Question) : Prop where
  calls : Answer.calls answers = Question.calls questions
  records : (Answer.records answers).map (fun r => r.source.components) =
    (Question.assets questions).map Path.components

theorem Answered.append {early late : List Answer} {first second : List Question}
    (left : Answered early first) (right : Answered late second) :
    Answered (early ++ late) (first ++ second) where
  calls := by rw [Answer.calls_append, Question.calls_append, left.calls, right.calls]
  records := by
    rw [Answer.records_append, Question.assets_append, List.map_append, List.map_append,
      left.records, right.records]

section Surveyed

variable (held : Path → Option Bytes) {α β γ δ : Type}

/-- Whenever the action comes to a value, it was asked what the survey asks, and the values are
related. The texts that are read have to be those of the survey. -/
def Surveyed (R : α → β → Prop) (x : Settled α) (y : Survey β) : Prop :=
  ∀ (w : World) (answers : List Answer) (a : α), x w answers a →
    (∀ file, .text file ∈ (y held).1 → ∀ bytes, w.content file bytes → held file = some bytes) →
      ∃ b, (y held).2 = some b ∧ R a b ∧ Answered answers (y held).1

variable {held} {R : α → β → Prop} {S : γ → δ → Prop}

theorem surveyed_pure {a : α} {b : β} (related : R a b) :
    Surveyed held R (pure a) (pure b) := by
  rintro w answers c ⟨rfl, rfl⟩ _
  exact ⟨b, rfl, related, rfl, rfl⟩

theorem surveyed_bind {x : Settled α} {y : Survey β} {f : α → Settled γ} {g : β → Survey δ}
    (first : Surveyed held R x y) (second : ∀ a b, R a b → Surveyed held S (f a) (g b)) :
    Surveyed held S (x >>= f) (y >>= g) := by
  rintro w answers c ⟨early, late, a, rfl, here, there⟩ texts
  have before : ∀ file, .text file ∈ (y held).1 →
      ∀ bytes, w.content file bytes → held file = some bytes :=
    fun file asked => texts file ((Survey.bind_asked y g held).subset asked)
  obtain ⟨b, value, related, answered⟩ := first w early a here before
  rw [Survey.bind_some value] at texts ⊢
  obtain ⟨d, outcome, alike, more⟩ := second a b related w late c there fun file asked =>
    texts file (List.mem_append_right _ asked)
  exact ⟨d, outcome, alike, answered.append more⟩

/-- The last step of a row does nothing but form a value. -/
theorem surveyed_last {x : Settled α} {y : Survey β} {f : α → γ} {g : β → δ}
    (first : Surveyed held R x y) (related : ∀ a b, R a b → S (f a) (g b)) :
    Surveyed held S (x >>= fun a => pure (f a)) (y >>= fun b => pure (g b)) :=
  surveyed_bind first fun a b alike => surveyed_pure (related a b alike)

/-- Actions for each entry of a list, whatever their values are. -/
theorem surveyed_mapM {ι : Type} {f : ι → Settled α} {g : ι → Survey β}
    (related : ∀ i, Surveyed held (fun _ _ => True) (f i) (g i)) (list : List ι) :
    Surveyed held (fun _ _ => True) (list.mapM f) (list.mapM g) := by
  have loop : ∀ (rest : List ι) (made : List α) (done : List β),
      Surveyed held (fun _ _ => True) (List.mapM.loop f rest made) (List.mapM.loop g rest done) := by
    intro rest
    induction rest with
    | nil => exact fun made done => surveyed_pure trivial
    | cons i rest inductionHypothesis =>
      exact fun made done => surveyed_bind (related i) fun a b _ =>
        inductionHypothesis (a :: made) (b :: done)
  exact loop list [] []

/-- Actions that ask for the same names, however these are spelled. -/
theorem surveyed_names {x : Settled α} {y : Survey β} {t : Naming (String × Class.Usage) α}
    {u : Naming (String × Class.Usage) β} (settled : Settled.naming.rel x t)
    (surveyed : Survey.naming.rel y u) (same : ∀ spell other, (t spell).1 = (u other).1) :
    Surveyed held (fun _ _ => True) x y := by
  intro w answers a given _
  obtain ⟨none, _, told⟩ := settled w answers a given
  have calls : Answer.calls answers = (u id).1 := by
    rw [← same (Css.spelled w.classes.written?) id, told]
  obtain ⟨names, nothing⟩ := Question.of_calls (u id).1
  rw [surveyed held]
  refine ⟨_, rfl, trivial, calls.trans names.symm, ?_⟩
  rw [none, nothing]
  rfl

theorem surveyed_text (file : Path) : Surveyed held (· = ·) (Supply.text file)
    (Supply.text file) := by
  rintro w answers text ⟨rfl, bytes, found, decoded⟩ texts
  have same : held file = some bytes := texts file List.mem_cons_self bytes found
  refine ⟨text, ?_, rfl, rfl, rfl⟩
  change (held file).bind _ = _
  rw [same, Option.bind_some, decoded]
  rfl

theorem surveyed_asset (dir source : Path) : Surveyed held (fun _ _ => True)
    (Supply.asset dir source) (Supply.asset dir source) := by
  rintro w answers r ⟨rfl, found⟩ _
  refine ⟨_, rfl, trivial, rfl, ?_⟩
  have same := Asset.Table.find_source found
  exact congrArg (fun parts => [parts]) ((Path.beq_iff _ _).mp same)

/-- A failure comes to no value. -/
theorem surveyed_refuse (failure : Failure) (y : Survey β) :
    Surveyed held R (Supply.refuse failure) y := by
  intro w answers a impossible _
  exact impossible.elim

/-- A result that was computed without asking. -/
theorem surveyed_result (result : Except Failure α) : Surveyed held (· = ·)
    (Renaming.pureResult result) (Renaming.pureResult result) := by
  cases result with
  | ok a => exact surveyed_pure rfl
  | error failure => exact surveyed_refuse failure _

/-- What is done with a result that was computed without asking asks for all there is. -/
theorem surveyed_given {result : Except Failure α} {f : α → Settled γ} {y : Survey δ}
    (related : ∀ a, Surveyed held S (f a) y) :
    Surveyed held S (Renaming.pureResult result >>= f) y := by
  rintro w answers c ⟨early, late, a, rfl, here, there⟩ texts
  cases result with
  | ok b =>
    obtain ⟨rfl, rfl⟩ := here
    exact related a w late c there texts
  | error failure => exact here.elim

/-- What is formed of the last answer asks for nothing. -/
theorem surveyed_formed {x : Settled α} {y : Survey β} (f : α → γ) (related : Surveyed held R x y) :
    Surveyed held (fun _ _ => True) (x >>= fun a => pure (f a)) y := by
  rintro w answers c ⟨early, late, a, rfl, here, rfl, rfl⟩ texts
  obtain ⟨b, value, _, answered⟩ := related w early a here texts
  rw [List.append_nil]
  exact ⟨b, value, trivial, answered⟩

end Surveyed

section Documents

variable {held : Path → Option Bytes} {c : Context}

/-- Whether a link has a new form depends on the link alone. -/
theorem surveyed_rename (link : String) (base : Path) :
    Surveyed held (fun a b => a.isSome = b.isSome) (Renaming.rename c link base)
      (Renaming.rename c link base) := by
  unfold Renaming.rename
  split
  · exact surveyed_last (surveyed_asset _ _) fun _ _ _ => rfl
  · exact surveyed_pure rfl

theorem lookup_keys (known : List (String × String)) (link : String) :
    (known.lookup link).isSome = (known.map Prod.fst).contains link := by
  induction known with
  | nil => rfl
  | cons entry rest inductionHypothesis =>
    rw [List.lookup_cons, List.map_cons, List.contains_cons]
    cases link == entry.1 with
    | true => rfl
    | false => simpa using inductionHypothesis

/-- The same links get new forms. -/
theorem surveyed_renameAll (base : Path) (links : List String)
    {known other : List (String × String)} (same : known.map Prod.fst = other.map Prod.fst) :
    Surveyed held (fun _ _ => True) (Renaming.renameAll c base known links)
      (Renaming.renameAll c base other links) := by
  induction links generalizing known other with
  | nil => exact surveyed_pure trivial
  | cons link rest inductionHypothesis =>
    have seen : (known.lookup link).isSome = (other.lookup link).isSome := by
      rw [lookup_keys, lookup_keys, same]
    simp only [Renaming.renameAll, seen]
    split
    · exact inductionHypothesis same
    · refine surveyed_bind (surveyed_rename link base) fun renamed counterpart alike => ?_
      cases renamed <;> cases counterpart
      · exact inductionHypothesis same
      · cases alike
      · cases alike
      · exact inductionHypothesis (by simp [same])

theorem surveyed_style (source : String) (file : Option Path) :
    Surveyed held (fun _ _ => True) (Renaming.style c source file)
      (Renaming.style c source file) := by
  unfold Renaming.style
  split
  · exact surveyed_refuse _ _
  · next sheet _ =>
    have names : Surveyed held (fun _ _ => True) (Renaming.renameNames sheet)
        (Renaming.renameNames sheet) := by
      refine surveyed_names
        (Settled.naming.of_sheet (fun kind name => Settled.naming_token name _) sheet)
        (Survey.naming.of_sheet (fun kind name => Survey.naming_token name _) sheet) ?_
      intro spell other
      rw [sheet.traverse_told fun kind name => (name, Renaming.usageOf kind),
        sheet.traverse_told fun kind name => (name, Renaming.usageOf kind)]
    refine surveyed_bind (surveyed_renameAll _ sheet.urls rfl) fun renamed other _ => ?_
    exact surveyed_last names fun _ _ _ => trivial

theorem surveyed_styleSource (source : Html.Source) :
    Surveyed held (fun _ _ => True) (Renaming.styleSource c source)
      (Renaming.styleSource c source) := by
  cases source with
  | inline content => exact surveyed_style content none
  | linked link =>
    refine surveyed_bind (surveyed_result _) ?_
    rintro file _ rfl
    refine surveyed_bind (surveyed_text file) ?_
    rintro text _ rfl
    exact surveyed_style text (some file)

theorem surveyed_scriptSource (source : Html.Source) :
    Surveyed held (fun _ _ => True) (Renaming.scriptSource c source)
      (Renaming.scriptSource c source) := by
  have text : Surveyed held (· = ·) (Renaming.scriptText c source)
      (Renaming.scriptText c source) := by
    cases source with
    | inline content => exact surveyed_pure rfl
    | linked link =>
      refine surveyed_bind (surveyed_result _) ?_
      rintro file _ rfl
      refine surveyed_last (surveyed_text file) ?_
      rintro text _ rfl
      rfl
  refine surveyed_bind text ?_
  rintro ⟨text, file⟩ _ rfl
  simp only
  split
  · refine surveyed_names
      (Settled.naming.of_script (fun name => Settled.naming_token name .js) text)
      (Survey.naming.of_script (fun name => Survey.naming_token name .js) text) ?_
    intro spell other
    rw [Script.renameWith_calls (fun name => (name, Class.Usage.js)),
      Script.renameWith_calls (fun name => (name, Class.Usage.js))]
  · exact surveyed_pure trivial

/-- The document is read from the file, and its styles, scripts and assets are surveyed. -/
theorem surveyed_parts (source : Path) :
    Surveyed held (fun p q => p.document = q.document) (Bundle.parts c source)
      (Bundle.parts c source) := by
  refine surveyed_bind (surveyed_text source) ?_
  rintro text _ rfl
  refine surveyed_bind (surveyed_mapM surveyed_styleSource _) fun styles _ _ => ?_
  refine surveyed_bind (surveyed_mapM surveyed_scriptSource _) fun scripts _ _ => ?_
  exact surveyed_last (surveyed_renameAll _ _ rfl) fun _ _ _ => rfl

/-- The names in the markup do not depend on what becomes of the rest of the document. -/
theorem surveyed_markup (l : Localizer) {p q : Bundle.Parts} (same : p.document = q.document)
    (css js otherCss otherJs : String) :
    Surveyed held (fun _ _ => True) (Bundle.markup l p css js)
      (Bundle.markup l q otherCss otherJs) := by
  refine surveyed_names
    (Settled.naming.of_node _ (fun name => Settled.naming_token name .html) _ _)
    (Survey.naming.of_node _ (fun name => Survey.naming_token name .html) _ _) ?_
  intro spell other
  rw [Html.Emitter.node_calls (fun name => (name, Class.Usage.html)),
    Html.Emitter.node_calls (fun name => (name, Class.Usage.html)), same]

end Documents

namespace Bundle

/-- The making of a document without its bundles. -/
def survey (c : Config) (l : Localizer) (source : Path) : Survey String := do
  let p ← parts (context c) source
  markup l p "" ""

/-- What the making of a document asks for in a run is what its survey asks for. -/
theorem surveyed_page (held : Path → Option Bytes) (c : Config) (tools : Toolchain) (l : Localizer)
    (source : Path) :
    Surveyed held (fun _ _ => True) (page c tools l source) (survey c l source) := by
  refine surveyed_bind (surveyed_parts source) fun p q same => ?_
  refine surveyed_given fun bundles => ?_
  exact surveyed_formed _ (surveyed_markup l same _ _ _ _)

end Bundle

end Pagefold
