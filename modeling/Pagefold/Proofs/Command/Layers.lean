import Mathlib
import Pagefold.Command.Settings
import Pagefold.Proofs.Config
import Pagefold.Store.Memory

/-!
# Which layer decides a setting

Source and destination are those of the arguments. Any other setting is decided by an argument that
is given for it, then by the environment, then by the settings file, and else by its default: a
layer decides only if it has an entry for the setting, and then no lower layer is asked. Within a
layer the last entry with a key counts. As a switch that is not given has no entry, it decides
nothing, and a destination is replaced only if a layer says so.

Settings are found exactly if each value that decides is of the kind of its setting. The
configuration of a run takes them over as they are.
-/
namespace Pagefold.Command

/-!
## What layers say
-/

/-- The last entry of a layer with this key has this value. -/
def Says (layer : Layer) (key : String) (value : Json) : Prop :=
  ∃ earlier later, layer = earlier ++ (key, value) :: later ∧ ∀ entry ∈ later, entry.1 ≠ key

/-- A layer has no entry with this key. -/
def Silent (layer : Layer) (key : String) : Prop := ∀ entry ∈ layer, entry.1 ≠ key

/-- What the first of some layers says that has an entry with this key. -/
inductive Highest (key : String) : List Layer → Json → Prop where
  | first {layer : Layer} {lower : List Layer} {value : Json} (spoken : Says layer key value) :
      Highest key (layer :: lower) value
  | later {layer : Layer} {lower : List Layer} {value : Json} (silent : Silent layer key)
      (highest : Highest key lower value) : Highest key (layer :: lower) value

theorem value_eq_some_iff (layer : Layer) (setting : Setting) (value : Json) :
    layer.value? setting = some value ↔ Says layer setting.key value := by
  rw [Layer.value?, List.lookup_eq_some_iff]
  constructor
  · rintro ⟨later, earlier, split, others⟩
    refine ⟨earlier.reverse, later.reverse, ?_, fun entry member => ?_⟩
    · rw [← List.reverse_reverse layer, split]
      simp
    · have other := others entry (List.mem_reverse.mp member)
      exact (bne_iff_ne.mp other).symm
  · rintro ⟨earlier, later, rfl, others⟩
    refine ⟨later.reverse, earlier.reverse, by simp, fun entry member => ?_⟩
    exact bne_iff_ne.mpr (others entry (List.mem_reverse.mp member)).symm

theorem value_eq_none_iff (layer : Layer) (setting : Setting) :
    layer.value? setting = none ↔ Silent layer setting.key := by
  rw [Layer.value?, List.lookup_eq_none_iff]
  simp only [Silent, List.mem_reverse, bne_iff_ne, ne_comm]

/-- The decision is made by the highest layer that has an entry. -/
theorem decision_eq_some_iff (layers : List Layer) (setting : Setting) (value : Json) :
    decision? layers setting = some value ↔ Highest setting.key layers value := by
  induction layers with
  | nil =>
    constructor
    · intro found
      cases found
    · intro highest
      cases highest
  | cons layer lower inductionHypothesis =>
    rw [decision?, List.findSome?_cons]
    cases said : layer.value? setting with
    | some other =>
      have spoken : Says layer setting.key other := (value_eq_some_iff layer setting other).mp said
      constructor
      · rintro ⟨⟩
        exact .first spoken
      · intro highest
        cases highest with
        | first found =>
          exact said.symm.trans ((value_eq_some_iff layer setting value).mpr found)
        | later silent _ =>
          rw [(value_eq_none_iff layer setting).mpr silent] at said
          cases said
    | none =>
      have silent : Silent layer setting.key := (value_eq_none_iff layer setting).mp said
      change decision? lower setting = some value ↔ _
      rw [inductionHypothesis]
      constructor
      · exact .later silent
      · intro highest
        cases highest with
        | first found =>
          rw [(value_eq_some_iff layer setting value).mpr found] at said
          cases said
        | later _ highest => exact highest

/-- Nothing is decided if no layer has an entry. -/
theorem decision_eq_none_iff (layers : List Layer) (setting : Setting) :
    decision? layers setting = none ↔ ∀ layer ∈ layers, Silent layer setting.key := by
  rw [decision?, List.findSome?_eq_none_iff]
  exact forall₂_congr fun layer _ => value_eq_none_iff layer setting

/-!
## Decided values
-/

/-- The value of a setting for which an argument may be given: that of the argument, or else what
the highest of the lower layers with an entry says, read as a value of the kind of the setting, or
else the default. -/
inductive Decided {α : Type} (key : String) (reads : Json → Option α) (default : α)
    (argument : Option α) (lower : List Layer) : α → Prop where
  | argument {value : α} (given : argument = some value) :
      Decided key reads default argument lower value
  | lower {said : Json} {value : α} (absent : argument = none) (highest : Highest key lower said)
      (read : reads said = some value) : Decided key reads default argument lower value
  | default (absent : argument = none) (silent : ∀ layer ∈ lower, Silent layer key) :
      Decided key reads default argument lower default

/-- The truth value that a source gives. -/
def readTruth : Json → Option Bool
  | .bool value => some value
  | _ => none

/-- The text that a source gives. -/
def readText : Json → Option String
  | .string text => some text
  | _ => none

/-- The text that a source gives, or that there is none. -/
def readOptional : Json → Option (Option String)
  | .null => some none
  | .string text => some (some text)
  | _ => none

/-- What layers decide about a setting, read as a value of its kind. -/
def Settles {α : Type} (reads : Json → Option α) (default : α) (layers : List Layer)
    (setting : Setting) (value : α) : Prop :=
  (decision? layers setting).elim (default = value) fun said => reads said = some value

theorem truth_eq_ok_iff (layers : List Layer) (setting : Setting) (default value : Bool) :
    Settings.truth layers setting default = .ok value ↔
      Settles readTruth default layers setting value := by
  unfold Settings.truth Settles
  split <;> simp_all [readTruth]

theorem text_eq_ok_iff (layers : List Layer) (setting : Setting) (default value : String) :
    Settings.text layers setting default = .ok value ↔
      Settles readText default layers setting value := by
  unfold Settings.text Settles
  split <;> simp_all [readText]

theorem optional_eq_ok_iff (layers : List Layer) (setting : Setting) (value : Option String) :
    Settings.text? layers setting = .ok value ↔
      Settles readOptional none layers setting value := by
  unfold Settings.text? Settles
  split <;> simp_all [readOptional]

/-- If the highest layer says exactly what an argument gives, the layers decide on the argument, or
without one as the lower layers do. -/
theorem settles_iff {α : Type} {reads : Json → Option α} (default : α) {argument : Option α}
    {write : α → Json} {highest : Layer} {setting : Setting}
    (said : highest.value? setting = argument.map write)
    (back : ∀ value, reads (write value) = some value) (lower : List Layer) (value : α) :
    Settles reads default (highest :: lower) setting value ↔
      Decided setting.key reads default argument lower value := by
  unfold Settles
  rw [decision?, List.findSome?_cons, said]
  cases argument with
  | some given =>
    rw [Option.map_some, Option.elim_some, back, Option.some.injEq]
    constructor
    · rintro rfl
      exact .argument rfl
    · intro decided
      cases decided with
      | argument same => exact Option.some.inj same
      | lower absent => cases absent
      | default absent => cases absent
  | none =>
    change (decision? lower setting).elim (default = value) _ ↔ _
    cases found : decision? lower setting with
    | some json =>
      have first : Highest setting.key lower json :=
        (decision_eq_some_iff lower setting json).mp found
      constructor
      · exact .lower rfl first
      · intro decided
        cases decided with
        | argument given => cases given
        | @lower other _ _ highest read =>
          have same : json = other := Option.some.inj
            (found.symm.trans ((decision_eq_some_iff lower setting other).mpr highest))
          exact same ▸ read
        | default _ silent =>
          rw [(decision_eq_none_iff lower setting).mpr silent] at found
          cases found
    | none =>
      have silent := (decision_eq_none_iff lower setting).mp found
      constructor
      · rintro rfl
        exact .default rfl silent
      · intro decided
        cases decided with
        | argument given => cases given
        | @lower other _ _ highest _ =>
          rw [(decision_eq_some_iff lower setting other).mpr highest] at found
          cases found
        | default _ _ => rfl

/-- An argument that is given decides. -/
theorem decided_given {α : Type} {key : String} {reads : Json → Option α} {default given value : α}
    {lower : List Layer} : Decided key reads default (some given) lower value ↔ value = given := by
  constructor
  · intro decided
    cases decided with
    | argument same => exact (Option.some.inj same).symm
    | lower absent => cases absent
    | default absent => cases absent
  · rintro rfl
    exact .argument rfl

/-!
## The layer of the arguments
-/

/-- The truth value that a switch stands for if it is given. -/
def Arguments.asserted (a : Arguments) (given : Switch) (value : Bool) : Option Bool :=
  if a.has given then some value else none

/-- A setting with a switch differs from its default exactly if the switch is given or the highest
of the lower layers with an entry says so. -/
theorem decided_switch_iff (a : Arguments) (given : Switch) (key : String) (lower : List Layer)
    (value : Bool) :
    Decided key readTruth (!value) (a.asserted given value) lower value ↔
      a.has given = true ∨ Highest key lower (.bool value) := by
  unfold Arguments.asserted
  by_cases has : a.has given = true
  · rw [if_pos has]
    exact iff_of_true (.argument rfl) (.inl has)
  · rw [if_neg has, or_iff_right has]
    constructor
    · intro decided
      generalize default : (!value) = other at decided
      cases decided with
      | argument given => cases given
      | @lower said _ _ highest read =>
        cases said with
        | bool found =>
          obtain rfl := Option.some.inj read
          exact highest
        | _ => cases read
      | default => exact (Bool.not_ne_self _ default).elim
    · intro highest
      exact .lower rfl highest rfl

/-- What the arguments say about a setting. -/
def Arguments.about (a : Arguments) : Setting → Option Json
  | .source => some (.string a.source.text)
  | .destination => some (.string a.destination.text)
  | .assetsDir => (a.assetsDir.map (·.text)).map .string
  | .replace => (a.asserted .replace true).map .bool
  | .dictionary => (a.dictionary.map (·.text)).map .string
  | .scriptFile => a.scriptFile.map .string
  | .minify => (a.asserted .keepSize false).map .bool

theorem value_append (front back : Layer) (setting : Setting) :
    Layer.value? (front ++ back) setting =
      (back.value? setting).or (front.value? setting) := by
  rw [Layer.value?, List.reverse_append, List.lookup_append]
  rfl

theorem key_eq_iff (s t : Setting) : s.key = t.key ↔ s = t := by
  cases s <;> cases t <;> decide

/-- A layer of one entry speaks about the setting of its key. -/
theorem value_singleton (s setting : Setting) (value : Json) :
    Layer.value? [(s.key, value)] setting = if setting = s then some value else none := by
  rw [Layer.value?, List.reverse_singleton, List.lookup_cons, List.lookup_nil]
  by_cases same : setting = s
  · simp [same]
  · have other : (setting.key == s.key) = false :=
      beq_false_of_ne fun key => same ((key_eq_iff setting s).mp key)
    rw [other, if_neg same]

/-- A text that may be given speaks about its setting if it is given. -/
theorem value_text (s setting : Setting) (text : Option String) :
    Layer.value? (text.toList.map fun given => (s.key, .string given)) setting =
      if setting = s then text.map .string else none := by
  cases text with
  | none => simp [Layer.value?]
  | some given => exact value_singleton s setting (.string given)

/-- A switch speaks about its setting if it is given. -/
theorem value_truth (a : Arguments) (s setting : Setting) (given : Switch) (value : Bool) :
    Layer.value? (if a.has given then [(s.key, .bool value)] else []) setting =
      if setting = s then (a.asserted given value).map .bool else none := by
  unfold Arguments.asserted
  by_cases has : a.has given = true
  · rw [if_pos has, if_pos has]
    exact value_singleton s setting (.bool value)
  · rw [if_neg has, if_neg has]
    simp [Layer.value?]

/-- The arguments say what is given, and nothing about what is not. -/
theorem value_arguments (a : Arguments) (setting : Setting) :
    a.layer.value? setting = a.about setting := by
  have named : a.layer = [(Setting.source.key, .string a.source.text)] ++
      [(Setting.destination.key, .string a.destination.text)] ++
      (a.assetsDir.map (·.text)).toList.map (fun given => (Setting.assetsDir.key, .string given)) ++
      (a.dictionary.map (·.text)).toList.map
        (fun given => (Setting.dictionary.key, .string given)) ++
      a.scriptFile.toList.map (fun given => (Setting.scriptFile.key, .string given)) ++
      (if a.has .replace then [(Setting.replace.key, .bool true)] else []) ++
      (if a.has .keepSize then [(Setting.minify.key, .bool false)] else []) := rfl
  simp only [named, value_append, value_singleton, value_text, value_truth]
  cases setting <;> simp [Arguments.about]

/-!
## Settings of layers
-/

/-- Settings that are those of the arguments where these are given, and else those of the lower
layers, from high to low, and of the defaults. -/
structure Layered (a : Arguments) (lower : List Layer) (s : Settings) : Prop where
  source : s.source = a.source
  destination : s.destination = a.destination
  assetsDir : Decided "assets_dir" readText "" (a.assetsDir.map (·.text)) lower s.assetsDir.text
  replace : Decided "force_delete_dst" readTruth false (a.asserted .replace true) lower s.replace
  dictionary : Decided "lang" readOptional none ((a.dictionary.map (·.text)).map some) lower
    (s.dictionary.map (·.text))
  scriptFile : Decided "js_class_file" readOptional none (a.scriptFile.map some) lower s.scriptFile
  minify : Decided "minify" readTruth true (a.asserted .keepSize false) lower s.minify

/-- Steps in a row succeed exactly if each of them does in turn. -/
theorem bind_eq_ok_iff {ε α β : Type} (step : Except ε α) (next : α → Except ε β) (b : β) :
    (step >>= next) = .ok b ↔ ∃ a, step = .ok a ∧ next a = .ok b := by
  cases step with
  | error e =>
    constructor
    · intro failed
      cases failed
    · rintro ⟨_, failed, _⟩
      cases failed
  | ok a =>
    constructor
    · exact fun later => ⟨a, rfl, later⟩
    · rintro ⟨_, ⟨⟩, later⟩
      exact later

/-- Settings are found in layers exactly if each of them is. -/
theorem ofLayers_eq_ok_iff (layers : List Layer) (s : Settings) :
    Settings.ofLayers layers = .ok s ↔
      Settles readText "" layers .source s.source.text ∧
      Settles readText "" layers .destination s.destination.text ∧
      Settles readText "" layers .assetsDir s.assetsDir.text ∧
      Settles readTruth false layers .replace s.replace ∧
      Settles readOptional none layers .dictionary (s.dictionary.map (·.text)) ∧
      Settles readOptional none layers .scriptFile s.scriptFile ∧
      Settles readTruth true layers .minify s.minify := by
  simp only [Settings.ofLayers, bind_eq_ok_iff, text_eq_ok_iff, truth_eq_ok_iff,
    optional_eq_ok_iff]
  constructor
  · rintro ⟨source, hasSource, destination, hasDestination, assetsDir, hasAssetsDir, replace,
      hasReplace, dictionary, hasDictionary, scriptFile, hasScriptFile, minify, hasMinify, made⟩
    obtain rfl := Except.ok.inj made
    have texts : (dictionary.map Path.mk).map (·.text) = dictionary := by
      rw [Option.map_map]
      exact congrFun Option.map_id _
    exact ⟨hasSource, hasDestination, hasAssetsDir, hasReplace, texts.symm ▸ hasDictionary,
      hasScriptFile, hasMinify⟩
  · rintro ⟨hasSource, hasDestination, hasAssetsDir, hasReplace, hasDictionary, hasScriptFile,
      hasMinify⟩
    refine ⟨_, hasSource, _, hasDestination, _, hasAssetsDir, _, hasReplace, _, hasDictionary, _,
      hasScriptFile, _, hasMinify, ?_⟩
    have paths : (s.dictionary.map (·.text)).map Path.mk = s.dictionary := by
      rw [Option.map_map]
      exact congrFun Option.map_id _
    rw [paths]
    rfl

/-- Settings are found below the arguments exactly if each is decided by the highest layer that
speaks about it. -/
theorem layered_iff (a : Arguments) (lower : List Layer) (s : Settings) :
    Settings.ofLayers (a.layer :: lower) = .ok s ↔ Layered a lower s := by
  have texts : ∀ text, readText (.string text) = some text := fun _ => rfl
  have truths : ∀ value, readTruth (.bool value) = some value := fun _ => rfl
  have options : ∀ text : Option String, readOptional (text.elim .null .string) = some text := by
    intro text
    cases text <;> rfl
  have optional : ∀ given : Option String,
      given.map Json.string = (given.map some).map fun text => text.elim .null .string := by
    intro given
    cases given <;> rfl
  have given : a.layer.value? .source = (some a.source.text).map .string :=
    value_arguments a .source
  have aimed : a.layer.value? .destination = (some a.destination.text).map .string :=
    value_arguments a .destination
  have source := settles_iff "" given texts lower
  have destination := settles_iff "" aimed texts lower
  have assetsDir := settles_iff "" (value_arguments a .assetsDir) texts lower
  have replace := settles_iff false (value_arguments a .replace) truths lower
  have dictionary := settles_iff none
    ((value_arguments a .dictionary).trans (optional _)) options lower
  have scriptFile := settles_iff none
    ((value_arguments a .scriptFile).trans (optional _)) options lower
  have minify := settles_iff true (value_arguments a .minify) truths lower
  rw [ofLayers_eq_ok_iff, source, destination, assetsDir, replace, dictionary, scriptFile, minify,
    decided_given, decided_given]
  constructor
  · rintro ⟨source, destination, assetsDir, replace, dictionary, scriptFile, minify⟩
    exact ⟨congrArg Path.mk source, congrArg Path.mk destination, assetsDir, replace, dictionary,
      scriptFile, minify⟩
  · intro layered
    exact ⟨congrArg Path.text layered.source, congrArg Path.text layered.destination,
      layered.assetsDir, layered.replace, layered.dictionary, layered.scriptFile, layered.minify⟩

/-- The configuration of a run has the settings as they are. -/
structure Carries (s : Settings) (c : Config) : Prop where
  source : c.source = s.source
  destination : c.destination = s.destination
  assetsDir : c.assetsDir = s.assetsDir
  replace : c.replace = s.replace
  dictionary : c.dictionary = s.dictionary
  everywhere : c.scope = .everywhere ↔ s.scriptFile = none
  file : ∀ name, c.scope = .file name ↔ s.scriptFile = some name
  minify : c.minify = s.minify

theorem carries_config (s : Settings) : Carries s s.config where
  source := rfl
  destination := rfl
  assetsDir := rfl
  replace := rfl
  dictionary := rfl
  everywhere := by cases file : s.scriptFile <;> simp [Settings.config, file]
  file name := by cases file : s.scriptFile <;> simp [Settings.config, file]
  minify := rfl

/-!
## Loading
-/

/-- What a settings file holds: its content is text, and the text is an object in JSON. -/
def Holds (content : Bytes) (members : Layer) : Prop :=
  ∃ text, Text.Utf8.decode content = .ok text ∧ Json.read? text = some (.object members)

/-- The layers of a settings file that may be given: the members of the object that it holds. -/
inductive SettingsFile {m : Type → Type} [Monad m] [FileStore m] {σ : Type} (exec : Execution m σ)
    (start : σ) : Option Path → List Layer → Prop where
  | absent : SettingsFile exec start none []
  | read {file : Path} {members : Layer} {content : Bytes} {between after : σ}
      (found : exec.gives (FileStore.isFile file) start true between)
      (answer : exec.gives (FileStore.read file).run between (.ok content) after)
      (held : Holds content members) : SettingsFile exec start (some file) [members]

/-- A step with its failure under another name succeeds exactly if the step does. -/
theorem mapError_eq_ok_iff {ε φ α : Type} (step : Except ε α) (wording : ε → φ) (a : α) :
    step.mapError wording = .ok a ↔ step = .ok a := by
  cases step with
  | error e =>
    constructor <;> intro failed <;> cases failed
  | ok b =>
    constructor <;> rintro ⟨⟩ <;> rfl

/-- A layer is made of a content exactly if the content could be read and holds it. -/
theorem layerOf_eq_ok_iff (answer : Except StoreError Bytes) (members : Layer) :
    Settings.layerOf answer = .ok members ↔
      ∃ content, answer = .ok content ∧ Holds content members := by
  simp only [Settings.layerOf, bind_eq_ok_iff, mapError_eq_ok_iff, Holds]
  refine exists_congr fun content => and_congr_right fun _ => exists_congr fun text =>
    and_congr_right fun _ => ?_
  cases Json.read? text with
  | none =>
    constructor <;> intro made <;> cases made
  | some json =>
    cases json with
    | object found =>
      constructor
      · intro made
        rw [Except.ok.inj made]
      · rintro ⟨⟩
        rfl
    | _ =>
      constructor <;> intro made <;> cases made

section Loading

variable {m : Type → Type} [Monad m] [LawfulMonad m] [FileStore m] {σ : Type} (exec : Execution m σ)

/-- The layers of a settings file are those that it holds. -/
theorem settingsFile_of_gives {file : Option Path} {files : List Layer} {s s' : σ}
    (given : exec.gives (Settings.fileLayers file : ExceptT SettingsDefect m (List Layer)).run s
      (.ok files) s') : SettingsFile exec s file files := by
  cases file with
  | none =>
    obtain ⟨rfl, _⟩ := exec.ok_pure given
    exact .absent
  | some file =>
    obtain ⟨found, between, asked, given⟩ := exec.ok_bind given
    cases found with
    | false =>
      obtain ⟨_, _, missing, _⟩ := exec.ok_bind given
      exact (exec.ok_throw missing).elim
    | true =>
      obtain ⟨answer, after, reading, given⟩ := exec.ok_bind given
      obtain ⟨members, _, made, given⟩ := exec.ok_bind given
      obtain ⟨rfl, _⟩ := exec.ok_pure given
      obtain ⟨content, rfl, held⟩ :=
        (layerOf_eq_ok_iff answer members).mp (exec.of_pure made).1.symm
      exact .read (exec.ok_lift asked) (exec.ok_lift reading) held

/-- Whenever settings are loaded, source and destination are those of the arguments, and each other
setting is that of the highest of arguments, environment, settings file and defaults that gives it.
In particular the destination is replaced only if the switch is given, or if the higher one of
environment and file that mentions it says so. The configuration of the run takes each setting over
as it is. -/
theorem load_layered {env : Environment} {a : Arguments} {settings : Settings} {s s' : σ}
    (loaded : exec.gives (Settings.load env a : ExceptT SettingsDefect m Settings).run s
      (.ok settings) s') :
    ∃ files, SettingsFile exec s a.settingsFile files ∧
      Layered a (env.layer :: files) settings ∧
      (settings.replace = true → a.has .replace = true ∨
        Highest "force_delete_dst" (env.layer :: files) (.bool true)) ∧
      Carries settings settings.config := by
  obtain ⟨files, between, read, decided⟩ := exec.ok_bind loaded
  obtain ⟨found, _⟩ := exec.of_pure decided
  have layered : Layered a (env.layer :: files) settings :=
    (layered_iff a (env.layer :: files) settings).mp found.symm
  have replaces (replaced : settings.replace = true) :=
    (decided_switch_iff a .replace _ (env.layer :: files) true).mp (replaced ▸ layered.replace)
  exact ⟨files, settingsFile_of_gives exec read, layered, replaces, carries_config settings⟩

end Loading

/-- A file names a directory and asks for a replacement, but the environment names another directory
and forbids the replacement. The size is kept as only the switch says. -/
theorem load_layered_forbidden :
    let env : Environment := [("TATER_ASSETS_DIR", "media"), ("TATER_FORCE_DELETE_DST", "false")]
    let a : Arguments :=
      { source := ⟨"site"⟩, destination := ⟨"dist"⟩, settingsFile := some ⟨"/tater.json"⟩,
        switches := [.keepSize] }
    let store := ({} : Memory).insertFile ⟨"/tater.json"⟩
      ("\x7b\"assets_dir\":\"static\",\"force_delete_dst\":true," ++
        "\"js_class_file\":\"a.js\"\x7d").toUTF8
    ∃ settings finish,
      (Settings.load env a : ExceptT SettingsDefect (StateM Memory) Settings).run.run store =
        (.ok settings, finish) ∧
      (settings.assetsDir.text = "media" ∧ settings.replace = false ∧
        settings.scriptFile = some "a.js" ∧ settings.minify = false) ∧
      ∃ files, SettingsFile (Execution.ofState Memory) store a.settingsFile files ∧
        Layered a (env.layer :: files) settings ∧
        (settings.replace = true → a.has .replace = true ∨
          Highest "force_delete_dst" (env.layer :: files) (.bool true)) ∧
        Carries settings settings.config := by
  intro env a store
  let load : ExceptT SettingsDefect (StateM Memory) Settings := Settings.load env a
  have values : (load.run.run store).1.toOption.map
      (fun s => (s.assetsDir.text, s.replace, s.scriptFile, s.minify)) =
        some ("media", false, some "a.js", false) := by
    decide +kernel
  obtain ⟨settings, finish, loaded⟩ := Execution.exists_ok load store (by decide +kernel)
  rw [loaded] at values
  obtain ⟨assetsDir, replace, scriptFile, minify⟩ : settings.assetsDir.text = "media" ∧
      settings.replace = false ∧ settings.scriptFile = some "a.js" ∧ settings.minify = false := by
    simpa [Except.toOption] using values
  exact ⟨settings, finish, loaded, ⟨assetsDir, replace, scriptFile, minify⟩,
    load_layered (Execution.ofState Memory) loaded⟩

end Pagefold.Command
