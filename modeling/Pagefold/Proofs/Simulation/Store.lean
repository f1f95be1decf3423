import Mathlib
import Pagefold.Proofs.Execution
import Pagefold.Proofs.Simulation

/-!
# One run over two stores

A run reaches its store by operations alone. If two stores are related, operation by operation, then
a run over the one is related to the same run over the other. The checks of a configuration only ask
questions, so for them the questions have to be related and no changes.
-/
namespace Pagefold

/-- Actions that lead to related states, one beside itself. -/
def Execution.keeping {m : Type → Type} [Monad m] {σ : Type} (exec : Execution m σ)
    (R : σ → σ → Prop) (refl : ∀ s, R s s) (trans : ∀ s t u, R s t → R t u → R s u) :
    Simulation m m where
  rel x _ := exec.Keeps R x
  of_pure a := exec.keeps_pure refl a
  of_bind first second := fun s _ s' given => by
    obtain ⟨a, between, early, late⟩ := exec.of_bind given
    exact trans s between s' (first early) (second a late)

namespace Simulation

variable {first second : Type → Type} [Monad first] [Monad second]
  (sim : Simulation first second)

/-- Actions that may fail, related by what they end with. -/
def failing (ε : Type) : Simulation (ExceptT ε first) (ExceptT ε second) where
  rel x y := sim.rel x.run y.run
  of_pure a := sim.of_pure (Except.ok a)
  of_bind related later := sim.of_bind related fun result => by
    cases result with
    | ok a => exact later a
    | error e => exact sim.of_pure (Except.error e)

/-- Actions on a further state, related from each state on. -/
def above (τ : Type) : Simulation (StateT τ first) (StateT τ second) where
  rel x y := ∀ t, sim.rel (x.run t) (y.run t)
  of_pure a t := sim.of_pure (a, t)
  of_bind related later t := sim.of_bind (related t) fun outcome => later outcome.1 outcome.2

section Lifting

variable {α : Type} {x : first α} {y : second α}

/-- Related actions are related as actions that may fail. -/
theorem of_lift [LawfulMonad first] [LawfulMonad second] {ε : Type} (related : sim.rel x y) :
    (sim.failing ε).rel (ExceptT.lift x) (ExceptT.lift y) := by
  have left : (ExceptT.lift x : ExceptT ε first α).run = x >>= fun a => pure (.ok a) :=
    map_eq_pure_bind _ _
  have right : (ExceptT.lift y : ExceptT ε second α).run = y >>= fun a => pure (.ok a) :=
    map_eq_pure_bind _ _
  change sim.rel (ExceptT.lift x).run (ExceptT.lift y).run
  rw [left, right]
  exact sim.of_last related Except.ok

/-- Related actions whose failures get other names stay related. -/
theorem of_renamed {ε φ : Type} {x : ExceptT ε first α} {y : ExceptT ε second α}
    (related : sim.rel x.run y.run) (wording : ε → φ) :
    (sim.failing φ).rel (ExceptT.mk do pure ((← x.run).mapError wording))
      (ExceptT.mk do pure ((← y.run).mapError wording)) :=
  sim.of_last related _

/-- A failure is related to itself. -/
theorem of_throw {ε : Type} (e : ε) :
    (sim.failing ε).rel (throw e : ExceptT ε first α) (throw e : ExceptT ε second α) :=
  sim.of_pure (Except.error e)

end Lifting

section Shared

/-- Actions on the store are related below the tables of a run. -/
theorem of_store {α : Type} {x : ExceptT StoreError first α} {y : ExceptT StoreError second α}
    (related : sim.rel x.run y.run) :
    ((sim.above Tables).failing Failure).rel (Renaming.store x) (Renaming.store y) := by
  have lifted : (sim.above Tables).rel (StateT.lift x.run) (StateT.lift y.run) := fun t =>
    sim.of_bind related fun result => sim.of_pure (result, t)
  refine (sim.above Tables).of_bind lifted fun result => ?_
  cases result with
  | ok a => exact (sim.above Tables).of_pure _
  | error e => exact (sim.above Tables).of_pure _

/-- The tables are the same on both sides. -/
theorem of_tables :
    ((sim.above Tables).failing Failure).rel (get : Renaming first Tables)
      (get : Renaming second Tables) := fun t =>
  sim.of_bind (sim.of_pure (t, t)) fun found => sim.of_pure (Except.ok found.1, found.2)

theorem of_setTables (sim : Simulation first second) (t : Tables) :
    ((sim.above Tables).failing Failure).rel (set t : Renaming first PUnit)
      (set t : Renaming second PUnit) := fun _ =>
  sim.of_bind (sim.of_pure (PUnit.unit, t)) fun found => sim.of_pure (Except.ok found.1, found.2)

theorem of_takeReferenced :
    ((sim.above Tables).failing Failure).rel
      (Renaming.takeReferenced : Renaming first (List Asset.Record))
      (Renaming.takeReferenced : Renaming second (List Asset.Record)) :=
  ((sim.above Tables).failing Failure).of_bind sim.of_tables fun _ =>
    ((sim.above Tables).failing Failure).of_last (sim.of_setTables _) _

end Shared

section Stores

variable [FileStore first] [FileStore second]

/-- The questions to two stores are related. -/
structure Questions : Prop where
  workingDir : sim.rel FileStore.workingDir FileStore.workingDir
  entry : ∀ p, sim.rel (FileStore.entry p).run (FileStore.entry p).run
  hasEntry : ∀ p, sim.rel (FileStore.hasEntry p) (FileStore.hasEntry p)
  allows : ∀ p access, sim.rel (FileStore.allows p access) (FileStore.allows p access)
  list : ∀ p, sim.rel (FileStore.list p).run (FileStore.list p).run

/-- All operations of two stores are related. -/
structure Operations : Prop extends sim.Questions where
  read : ∀ p, sim.rel (FileStore.read p).run (FileStore.read p).run
  write : ∀ p content, sim.rel (FileStore.write p content).run (FileStore.write p content).run
  createDir : ∀ p all, sim.rel (FileStore.createDir p all).run (FileStore.createDir p all).run
  removeTree : ∀ p, sim.rel (FileStore.removeTree p).run (FileStore.removeTree p).run
  copy : ∀ source target,
    sim.rel (FileStore.copy source target).run (FileStore.copy source target).run

variable {sim} {c : Config}

section Checks

variable (questions : sim.Questions)

include questions

/-- A question about an entry is answered alike. -/
theorem of_answer (p : Path) (ask : Entry → Bool) :
    sim.rel (FileStore.answer false (ask <$> FileStore.entry p))
      (FileStore.answer false (ask <$> FileStore.entry p)) := by
  have asked : sim.rel ((ask <$> FileStore.entry p : ExceptT StoreError first Bool).run)
      (ask <$> FileStore.entry p : ExceptT StoreError second Bool).run :=
    sim.of_bind (questions.entry p) fun result => by
      cases result with
      | ok e => exact sim.of_pure _
      | error e => exact sim.of_pure _
  refine sim.of_bind asked fun result => ?_
  cases result with
  | ok answer => exact sim.of_pure answer
  | error e => exact sim.of_pure false

theorem of_canHold (places : List Path) :
    sim.rel (FileStore.canHold places) (FileStore.canHold places) := by
  induction places with
  | nil => exact sim.of_pure false
  | cons dir above inductionHypothesis =>
    have decided : ∀ (decides : Bool) (place : Path),
        sim.rel
          (if decides = true then do
            if ← FileStore.isDir place then FileStore.allows place .write else pure false
          else FileStore.canHold above)
          (if decides = true then do
            if ← FileStore.isDir place then FileStore.allows place .write else pure false
          else FileStore.canHold above) := by
      intro decides place
      split
      · refine sim.of_bind (of_answer questions place _) fun directory => ?_
        split
        · exact questions.allows place .write
        · exact sim.of_pure false
      · exact inductionHypothesis
    simp only [FileStore.canHold]
    split
    · exact sim.of_bind (sim.of_pure true) fun decides => decided decides _
    · exact sim.of_bind (questions.hasEntry dir) fun decides => decided decides _

theorem of_absolute (p : Path) : sim.rel (Config.absolute p) (Config.absolute p) := by
  unfold Config.absolute
  split
  · exact sim.of_pure _
  · exact sim.of_last questions.workingDir _

variable [LawfulMonad first] [LawfulMonad second]

omit questions [FileStore first] [FileStore second] in
theorem of_require {x : first Bool} {y : second Bool} (related : sim.rel x y)
    (defect : ConfigDefect) :
    (sim.failing ConfigDefect).rel (Config.require x defect) (Config.require y defect) := by
  refine (sim.failing ConfigDefect).of_bind (sim.of_lift related) fun holds => ?_
  split
  · exact sim.of_throw defect
  · exact sim.of_pure _

theorem of_checkSource (c : Config) :
    (sim.failing ConfigDefect).rel c.checkSource c.checkSource :=
  (sim.failing ConfigDefect).of_bind (of_require (questions.hasEntry _) _) fun _ =>
    (sim.failing ConfigDefect).of_bind (of_require (of_answer questions _ _) _) fun _ =>
      of_require (questions.allows _ _) _

omit questions [FileStore first] [FileStore second] [LawfulMonad first] [LawfulMonad second] in
theorem of_checkNesting (c : Config) (source destination : Path) :
    (sim.failing ConfigDefect).rel (c.checkNesting source destination)
      (c.checkNesting source destination) := by
  have around : (sim.failing ConfigDefect).rel
      (if source.isBelow destination then throw (.sourceInsideDestination c.source c.destination)
        else pure ())
      (if source.isBelow destination then throw (.sourceInsideDestination c.source c.destination)
        else pure ()) := by
    split
    · exact sim.of_throw _
    · exact sim.of_pure _
  simp only [Config.checkNesting]
  split
  · exact (sim.failing ConfigDefect).of_bind (sim.of_throw _) fun _ => around
  · exact around

theorem of_checkExisting (c : Config) :
    (sim.failing ConfigDefect).rel c.checkExisting c.checkExisting := by
  refine (sim.failing ConfigDefect).of_bind (of_require (of_answer questions _ _) _) fun _ => ?_
  have allowed : (sim.failing ConfigDefect).rel
      (Config.require (FileStore.allows c.destination .write)
        (.destinationNotCreatable c.destination))
      (Config.require (FileStore.allows c.destination .write)
        (.destinationNotCreatable c.destination)) :=
    of_require (questions.allows _ _) _
  split
  · refine (sim.failing ConfigDefect).of_bind (sim.of_lift (questions.list _)) fun listed => ?_
    cases listed with
    | error e => exact (sim.failing ConfigDefect).of_bind (sim.of_throw _) fun _ => allowed
    | ok names =>
      dsimp only
      split
      · exact (sim.failing ConfigDefect).of_bind (sim.of_throw _) fun _ => allowed
      · exact allowed
  · exact sim.of_pure _

theorem of_checkDestination (c : Config) (destination : Path) :
    (sim.failing ConfigDefect).rel (c.checkDestination destination)
      (c.checkDestination destination) := by
  refine (sim.failing ConfigDefect).of_bind (sim.of_lift (questions.hasEntry _)) fun there => ?_
  split
  · exact of_checkExisting questions c
  · exact of_require (of_canHold questions _) _

theorem of_checkDictionary (c : Config) :
    (sim.failing ConfigDefect).rel c.checkDictionary c.checkDictionary := by
  unfold Config.checkDictionary
  split
  · exact sim.of_pure _
  · exact (sim.failing ConfigDefect).of_bind (of_require (questions.hasEntry _) _) fun _ =>
      (sim.failing ConfigDefect).of_bind (of_require (of_answer questions _ _) _) fun _ =>
        of_require (questions.allows _ _) _

/-- The checks of a configuration are related if the questions are. -/
theorem of_validate (c : Config) : (sim.failing ConfigDefect).rel c.validate c.validate := by
  refine (sim.failing ConfigDefect).of_bind (of_checkSource questions c) fun _ => ?_
  refine (sim.failing ConfigDefect).of_bind (sim.of_lift (of_absolute questions _)) fun source => ?_
  refine (sim.failing ConfigDefect).of_bind (sim.of_lift (of_absolute questions _)) fun place => ?_
  refine (sim.failing ConfigDefect).of_bind (of_checkNesting c source place) fun _ => ?_
  refine (sim.failing ConfigDefect).of_bind (of_checkDestination questions c place) fun _ => ?_
  refine (sim.failing ConfigDefect).of_bind (of_checkDictionary questions c) fun _ => ?_
  split
  · exact sim.of_throw _
  · exact sim.of_pure _

end Checks

/-- The dictionary is loaded alike if files are read alike. -/
theorem of_loadLocalizer [LawfulMonad first] [LawfulMonad second]
    (read : ∀ p, sim.rel (FileStore.read p).run (FileStore.read p).run) (c : Config) :
    (sim.failing ConfigDefect).rel c.loadLocalizer c.loadLocalizer := by
  unfold Config.loadLocalizer
  split
  · exact sim.of_pure _
  · exact (sim.failing ConfigDefect).of_bind (sim.of_lift (read _)) fun _ => sim.of_pure _

section Reading

variable (read : ∀ p, sim.rel (FileStore.read p).run (FileStore.read p).run)

include read

/-- The record of an asset is found alike if files are read alike. -/
theorem of_associate (table : Asset.Table) (url : String) (dir : Path) :
    (sim.failing StoreError).rel (table.associate url dir) (table.associate url dir) := by
  simp only [Asset.Table.associate]
  split
  · exact sim.of_pure _
  · exact (sim.failing StoreError).of_last (read _) _

/-- Whatever the making of a document asks for is answered alike if files are read alike. -/
theorem of_supply (dir : Path) : ((sim.above Tables).failing Failure).Answers dir where
  text file := ((sim.above Tables).failing Failure).of_bind (sim.of_store (read file))
    fun _ => (sim.above Tables).of_pure _
  token _ _ := ((sim.above Tables).failing Failure).of_bind sim.of_tables fun _ =>
    ((sim.above Tables).failing Failure).of_last (sim.of_setTables _) _
  asset _ := ((sim.above Tables).failing Failure).of_bind sim.of_tables fun tables =>
    ((sim.above Tables).failing Failure).of_bind
      (sim.of_store (of_associate read tables.assets _ dir)) fun _ =>
        ((sim.above Tables).failing Failure).of_last (sim.of_setTables _) _
  refuse failure := (sim.above Tables).of_throw failure

end Reading

section Runs

variable (operations : sim.Operations)

include operations

theorem of_prepare [LawfulMonad first] [LawfulMonad second] (c : Config) :
    (sim.failing Failure).rel (Bundle.prepare c) (Bundle.prepare c) := by
  have created : (sim.failing Failure).rel
      (do
        Bundle.orFail (FileStore.createDir c.destination true)
        Bundle.orFail (FileStore.createDir c.assetOutputDir true))
      (do
        Bundle.orFail (FileStore.createDir c.destination true)
        Bundle.orFail (FileStore.createDir c.assetOutputDir true)) :=
    (sim.failing Failure).of_bind (sim.of_renamed (operations.createDir _ _) _) fun _ =>
      sim.of_renamed (operations.createDir _ _) _
  simp only [Bundle.prepare]
  split
  · refine (sim.failing Failure).of_bind (sim.of_lift (operations.hasEntry _)) fun there => ?_
    split
    · exact (sim.failing Failure).of_bind (sim.of_renamed (operations.removeTree _) _) fun _ =>
        created
    · exact created
  · exact created

theorem of_entriesAmong (dir : Path) (names : List String) :
    (sim.failing Failure).rel (Bundle.entriesAmong dir names) (Bundle.entriesAmong dir names) := by
  induction names with
  | nil => exact sim.of_pure _
  | cons name rest inductionHypothesis =>
    have others : ∀ chosen : Bool, (sim.failing Failure).rel
        (do
          let others ← Bundle.entriesAmong dir rest
          pure (if chosen then dir.child name :: others else others))
        (do
          let others ← Bundle.entriesAmong dir rest
          pure (if chosen then dir.child name :: others else others)) := fun chosen =>
      (sim.failing Failure).of_last inductionHypothesis _
    simp only [Bundle.entriesAmong]
    split
    · refine (sim.failing Failure).of_bind (sim.of_renamed (operations.entry _) _) fun found => ?_
      exact (sim.failing Failure).of_bind (sim.of_pure _) others
    · exact (sim.failing Failure).of_bind (sim.of_pure _) others

theorem of_entryPoints (dir : Path) :
    (sim.failing Failure).rel (Bundle.entryPoints dir) (Bundle.entryPoints dir) :=
  (sim.failing Failure).of_bind (sim.of_renamed (operations.list _) _) fun names =>
    (sim.failing Failure).of_last (of_entriesAmong operations dir names) _

theorem of_copyAssets (records : List Asset.Record) :
    ((sim.above Tables).failing Failure).rel (Bundle.copyAssets records)
      (Bundle.copyAssets records) := by
  induction records with
  | nil => exact (sim.above Tables).of_pure _
  | cons record rest inductionHypothesis =>
    refine ((sim.above Tables).failing Failure).of_bind sim.of_tables fun tables => ?_
    refine ((sim.above Tables).failing Failure).of_bind (sim.of_setTables _) fun _ => ?_
    split
    · exact ((sim.above Tables).failing Failure).of_bind
        (sim.of_store (operations.copy _ _)) fun _ =>
          ((sim.above Tables).failing Failure).of_last inductionHypothesis _
    · exact inductionHypothesis

theorem of_publish (c : Config) (source : Path) (made : Bundle.Page) :
    ((sim.above Tables).failing Failure).rel (Bundle.publish c source made)
      (Bundle.publish c source made) :=
  ((sim.above Tables).failing Failure).of_bind (sim.of_store (operations.write _ _)) fun _ =>
    ((sim.above Tables).failing Failure).of_bind sim.of_takeReferenced fun referenced =>
      ((sim.above Tables).failing Failure).of_last (of_copyAssets operations referenced) _

/-- An entry point is made and published alike. -/
theorem of_entry (c : Config) (tools : Toolchain) (l : Localizer) (source : Path) :
    ((sim.above Tables).failing Failure).rel (Bundle.entry c tools l source)
      (Bundle.entry c tools l source) :=
  ((sim.above Tables).failing Failure).of_bind sim.of_takeReferenced fun _ =>
    ((sim.above Tables).failing Failure).of_bind
      (of_page (of_supply operations.read c.assetOutputDir) tools l source) fun page =>
        of_publish operations c source page

theorem of_entries (c : Config) (tools : Toolchain) (l : Localizer) (sources : List Path) :
    ((sim.above Tables).failing Failure).rel (Bundle.entries c tools l sources)
      (Bundle.entries c tools l sources) := by
  induction sources with
  | nil => exact (sim.above Tables).of_pure _
  | cons source rest inductionHypothesis =>
    exact ((sim.above Tables).failing Failure).of_bind (of_entry operations c tools l source)
      fun _ => ((sim.above Tables).failing Failure).of_last inductionHypothesis _

theorem of_documents (c : Config) (tools : Toolchain) (l : Localizer) (sources : List Path) :
    (sim.failing Failure).rel (Bundle.documents c tools l sources)
      (Bundle.documents c tools l sources) :=
  sim.of_last (of_entries operations c tools l sources {}) _

/-- A run over one store is related to the same run over the other. -/
theorem of_run [LawfulMonad first] [LawfulMonad second] (c : Config) (tools : Toolchain) :
    (sim.failing Failure).rel (Bundle.run c tools) (Bundle.run c tools) := by
  have checked := sim.of_renamed (of_validate operations.toQuestions c) Failure.config
  have loaded := sim.of_renamed (of_loadLocalizer operations.read c) Failure.config
  refine (sim.failing Failure).of_bind checked fun _ => ?_
  refine (sim.failing Failure).of_bind loaded fun l => ?_
  refine (sim.failing Failure).of_bind (of_prepare operations c) fun _ => ?_
  exact (sim.failing Failure).of_bind (of_entryPoints operations c.source) fun sources =>
    of_documents operations c tools l sources

end Runs

end Stores

end Simulation

end Pagefold
