import Mathlib
import Pagefold.Bundle
import Pagefold.Proofs.Settled

/-!
# Where failures come from

Each step of a run fails for causes of its own. The store fails because of the store, and the sources
of a document fail because of it, of a text that cannot be read, or of a reference that is not
supported. The bundles fail for a key without a value or for a tool, and what is left to do then fails
because of the store. So a cause can be traced to the step that fails for it.
-/
namespace Pagefold

section Sparing

variable {m : Type → Type} [Monad m] {σ : Type} (exec : Execution m σ)

/-- An action that never fails for some causes. -/
def Execution.Spares {α : Type} (cause : Failure → Prop) (action : ExceptT Failure m α) : Prop :=
  ∀ ⦃s failure s'⦄, exec.gives action.run s (.error failure) s' → ¬ cause failure

variable {exec} {cause : Failure → Prop}

theorem spares_pure {α : Type} (a : α) : exec.Spares cause (pure a : ExceptT Failure m α) :=
  fun _ _ _ given => by cases (exec.of_pure given).1

theorem spares_bind {α β : Type} {x : ExceptT Failure m α} {f : α → ExceptT Failure m β}
    (first : exec.Spares cause x) (second : ∀ a, exec.Spares cause (f a)) :
    exec.Spares cause (x >>= f) := by
  intro s failure s' given
  rcases exec.any_bind given with ⟨a, _, _, later⟩ | ⟨e, failed, same⟩
  · exact second a later
  · cases same
    exact first failed

/-- The last step does nothing but form a value. -/
theorem spares_last {α β : Type} {x : ExceptT Failure m α} (first : exec.Spares cause x)
    (f : α → β) : exec.Spares cause (x >>= fun a => pure (f a)) :=
  spares_bind first fun a => spares_pure (f a)

variable (exec cause) in
/-- Actions that never fail for some causes, one beside itself. -/
def Execution.sparing : Simulation (ExceptT Failure m) (ExceptT Failure m) where
  rel x _ := exec.Spares cause x
  of_pure := spares_pure
  of_bind := spares_bind

/-- A result with another failure or none. -/
theorem spares_result {α : Type} (result : Except Failure α)
    (other : ∀ failure, result = .error failure → ¬ cause failure) :
    exec.Spares cause (ExceptT.mk (pure result)) :=
  fun _ failure _ given => other failure (exec.of_pure given).1.symm

theorem spares_lift [LawfulMonad m] {α : Type} (action : m α) :
    exec.Spares cause (ExceptT.lift action) := by
  intro s failure s' given
  obtain ⟨a, _, same⟩ := exec.any_lift given
  cases same

theorem spares_get : (exec.above Tables).Spares cause (get : Renaming m Tables) :=
  fun _ _ _ given => by cases (exec.any_get given).1

theorem spares_set (t : Tables) : (exec.above Tables).Spares cause (set t : Renaming m PUnit) :=
  fun _ _ _ given => by cases (exec.any_set given).1

theorem spares_takeReferenced : (exec.above Tables).Spares cause
    (Renaming.takeReferenced : Renaming m (List Asset.Record)) :=
  spares_bind spares_get fun _ =>
    spares_last (spares_set _) _

section Stored

variable (store : ∀ e, ¬ cause (.store e))

include store

/-- What fails in the store fails because of the store. -/
theorem spares_orFail {α : Type} (action : ExceptT StoreError m α) :
    exec.Spares cause (Bundle.orFail action) := by
  intro s failure s' given
  obtain ⟨answer, between, _, done⟩ := exec.of_bind given
  cases answer with
  | ok a => cases (exec.of_pure done).1
  | error e =>
    cases (exec.of_pure done).1
    exact store e

theorem spares_store {α : Type} (action : ExceptT StoreError m α) :
    (exec.above Tables).Spares cause (Renaming.store action) := by
  intro s failure s' given
  obtain ⟨answer, _, _, _, same⟩ := exec.any_store given
  cases answer with
  | ok a => cases same
  | error e =>
    cases same
    exact store e

end Stored

end Sparing

namespace Bundle

/-- Causes that lie neither in the store nor in the sources of a document. -/
structure Elsewhere (cause : Failure → Prop) : Prop where
  store : ∀ e, ¬ cause (.store e)
  notText : ∀ file defect, ¬ cause (.notText file defect)
  unreadable : ∀ source, ¬ cause (.unreadableStyles source)
  unsupported : ∀ tag attr link, ¬ cause (.unsupportedReference tag attr link)

variable {m : Type → Type} [Monad m] [FileStore m] {σ : Type} {exec : Execution m σ}
  {cause : Failure → Prop}

/-- A name always gets its token. -/
theorem spares_token (name : String) (kind : Class.Usage) :
    (exec.above Tables).Spares cause (Supply.token name kind : Renaming m String) :=
  spares_bind spares_get fun _ =>
    spares_last (spares_set _) _

/-- Once its bundles are made, a document cannot fail to be written down. -/
theorem spares_markup (l : Localizer) (p : Parts) (css js : String) :
    (exec.above Tables).Spares cause (markup l p css js : Renaming m String) :=
  ((exec.above Tables).sparing cause).of_node (g := (Supply.token · .html)) _
    (fun name => spares_token name .html) .collapse p.document

/-- What is computed without asking may fail for other causes. -/
theorem spares_pureResult {α : Type} (result : Except Failure α)
    (other : ∀ failure, result = .error failure → ¬ cause failure) :
    (exec.above Tables).Spares cause (Renaming.pureResult result : Renaming m α) := by
  cases result with
  | ok a => exact spares_pure a
  | error failure => exact spares_result _ other

section Sources

variable {c : Context} (elsewhere : Elsewhere cause)

include elsewhere

theorem spares_text (file : Path) :
    (exec.above Tables).Spares cause (Supply.text file : Renaming m String) := by
  refine spares_bind (spares_store elsewhere.store _) fun bytes => spares_result _ ?_
  intro failure failed
  cases decoded : Text.Utf8.decode bytes with
  | ok text =>
    rw [decoded] at failed
    cases failed
  | error defect =>
    rw [decoded] at failed
    cases failed
    exact elsewhere.notText file defect

theorem spares_asset (dir source : Path) :
    (exec.above Tables).Spares cause (Supply.asset dir source : Renaming m Asset.Record) :=
  spares_bind spares_get fun _ =>
    spares_bind (spares_store elsewhere.store _) fun _ =>
      spares_last (spares_set _) _

theorem spares_renameAll (base : Path) (known : List (String × String)) (links : List String) :
    (exec.above Tables).Spares cause (Renaming.renameAll c base known links : Renaming m _) := by
  induction links generalizing known with
  | nil => exact spares_pure known
  | cons link rest inductionHypothesis =>
    have renamed :
        (exec.above Tables).Spares cause (Renaming.rename c link base : Renaming m _) := by
      simp only [Renaming.rename]
      split
      · exact spares_last (spares_asset elsewhere _ _) _
      · exact spares_pure _
    simp only [Renaming.renameAll]
    split
    · exact inductionHypothesis known
    · refine spares_bind renamed fun url => ?_
      cases url with
      | some url => exact inductionHypothesis _
      | none => exact inductionHypothesis known

theorem spares_style (source : String) (file : Option Path) :
    (exec.above Tables).Spares cause (Renaming.style c source file : Renaming m String) := by
  simp only [Renaming.style]
  split
  · exact spares_result _ fun failure failed => by
      cases failed
      exact elsewhere.unreadable _
  · next sheet _ =>
    have named : (exec.above Tables).Spares cause (Renaming.renameNames sheet : Renaming m _) :=
      ((exec.above Tables).sparing cause).of_sheet
        (g := fun kind name => Supply.token name (Renaming.usageOf kind))
        (fun _ name => spares_token name _) sheet
    exact spares_bind (spares_renameAll elsewhere _ _ _) fun _ => spares_last named _

/-- A link that is refused is refused for itself. -/
theorem spares_resolveInlined (tag attr link : String) :
    (exec.above Tables).Spares cause
      (Renaming.pureResult (c.resolveInlined tag attr link) : Renaming m Path) := by
  refine spares_pureResult _ fun failure failed => ?_
  unfold Context.resolveInlined at failed
  split at failed
  · cases failed
    exact elsewhere.unsupported tag attr link
  · cases failed

theorem spares_styleSource (source : Html.Source) :
    (exec.above Tables).Spares cause (Renaming.styleSource c source : Renaming m String) := by
  cases source with
  | inline content => exact spares_style elsewhere content none
  | linked link =>
    refine spares_bind (spares_resolveInlined elsewhere _ _ _) fun file => ?_
    exact spares_bind (spares_text elsewhere file) fun text =>
      spares_style elsewhere text (some file)

theorem spares_scriptSource (source : Html.Source) :
    (exec.above Tables).Spares cause (Renaming.scriptSource c source : Renaming m String) := by
  have text : (exec.above Tables).Spares cause (Renaming.scriptText c source : Renaming m _) := by
    cases source with
    | inline content => exact spares_pure _
    | linked link =>
      refine spares_bind (spares_resolveInlined elsewhere _ _ _) fun file => ?_
      exact spares_last (spares_text elsewhere file) _
  refine spares_bind text fun found => ?_
  obtain ⟨text, file⟩ := found
  simp only
  split
  · exact ((exec.above Tables).sparing cause).of_script (g := (Supply.token · .js))
      (fun name => spares_token name .js) text
  · exact spares_pure text

/-- The sources of a document fail for themselves or because of the store. -/
theorem spares_parts (source : Path) :
    (exec.above Tables).Spares cause (parts c source : Renaming m Parts) := by
  refine spares_bind (spares_text elsewhere source) fun text => ?_
  refine spares_bind (((exec.above Tables).sparing cause).of_mapM
    (g := Renaming.styleSource c) (spares_styleSource elsewhere) _) fun styles => ?_
  refine spares_bind (((exec.above Tables).sparing cause).of_mapM
    (g := Renaming.scriptSource c) (spares_scriptSource elsewhere) _) fun scripts => ?_
  exact spares_last (spares_renameAll elsewhere _ _ _) _

end Sources

/-- A bundle fails for its tool. -/
theorem compressed_cause {role : Tool.Role} {tool : Tool} {bundle source : String}
    {failure : Failure} (failed : compressed role tool bundle source = .error failure) :
    ∃ diagnostics, failure = .tool role diagnostics := by
  unfold compressed at failed
  split at failed
  · cases failed
  · cases answer : tool source with
    | ok code =>
      rw [answer] at failed
      cases failed
    | error diagnostics =>
      rw [answer] at failed
      cases failed
      exact ⟨diagnostics, rfl⟩

/-- Bundles fail for keys without values, or else for a tool. -/
theorem bundles_cause {tools : Toolchain} {l : Localizer} {p : Parts} {failure : Failure}
    (failed : bundles tools l p = .error failure) :
    (p.missing l ≠ [] ∧ failure = .missingLocalization (p.missing l)) ∨
      (p.missing l = [] ∧ ∃ role diagnostics, failure = .tool role diagnostics) := by
  unfold bundles at failed
  split at failed
  · next complete =>
    refine Or.inr ⟨complete, ?_⟩
    simp only [bind, Except.bind] at failed
    split at failed
    · next e stopped =>
      cases failed
      exact ⟨_, compressed_cause stopped⟩
    · split at failed
      · next e stopped =>
        cases failed
        exact ⟨_, compressed_cause stopped⟩
      · cases failed
  · next incomplete =>
    cases failed
    exact Or.inl ⟨incomplete, rfl⟩

section Storing

variable (store : ∀ e, ¬ cause (.store e))

include store

/-- A document that is made fails to be published because of the store alone. -/
theorem spares_publish (c : Config) (source : Path) (made : Page) :
    (exec.above Tables).Spares cause (publish c source made : Renaming m Outcome) := by
  have copied : ∀ records,
      (exec.above Tables).Spares cause (copyAssets records : Renaming m Nat) := by
    intro records
    induction records with
    | nil => exact spares_pure _
    | cons record rest inductionHypothesis =>
      refine spares_bind spares_get fun tables => ?_
      refine spares_bind (spares_set _) fun _ => ?_
      split
      · exact spares_bind (spares_store store _) fun _ =>
          spares_last inductionHypothesis _
      · exact inductionHypothesis
  exact spares_bind (spares_store store _) fun _ =>
    spares_bind spares_takeReferenced fun _ =>
      spares_last (copied _) _

theorem spares_prepare [LawfulMonad m] (c : Config) :
    exec.Spares cause (prepare c : ExceptT Failure m Unit) := by
  have created : exec.Spares cause (do
      orFail (FileStore.createDir c.destination true)
      orFail (FileStore.createDir c.assetOutputDir true) : ExceptT Failure m Unit) :=
    spares_bind (spares_orFail store _) fun _ => spares_orFail store _
  simp only [prepare]
  split
  · refine spares_bind (spares_lift _) fun there => ?_
    split
    · exact spares_bind (spares_orFail store _) fun _ => created
    · exact created
  · exact created

theorem spares_entryPoints (dir : Path) :
    exec.Spares cause (entryPoints dir : ExceptT Failure m (List Path)) := by
  have among : ∀ names,
      exec.Spares cause (entriesAmong dir names : ExceptT Failure m (List Path)) := by
    intro names
    induction names with
    | nil => exact spares_pure _
    | cons name rest inductionHypothesis =>
      have others : ∀ chosen : Bool, exec.Spares cause (do
          let others ← entriesAmong dir rest
          pure (if chosen then dir.child name :: others else others) :
            ExceptT Failure m (List Path)) := fun chosen =>
        spares_last inductionHypothesis _
      simp only [entriesAmong]
      split
      · exact spares_bind (spares_orFail store _) fun _ =>
          spares_bind (spares_pure _) others
      · exact spares_bind (spares_pure _) others
  exact spares_bind (spares_orFail store _) fun _ => spares_last (among _) _

end Storing

section Documents

variable (elsewhere : Elsewhere cause) (missing : ∀ keys, ¬ cause (.missingLocalization keys))
  (tool : ∀ role diagnostics, ¬ cause (.tool role diagnostics))

include elsewhere missing tool

theorem spares_page (c : Config) (tools : Toolchain) (l : Localizer) (source : Path) :
    (exec.above Tables).Spares cause (page c tools l source : Renaming m Page) := by
  have bundled : ∀ p, (exec.above Tables).Spares cause
      (Renaming.pureResult (bundles tools l p) : Renaming m _) := by
    refine fun p => spares_pureResult _ fun failure failed => ?_
    rcases bundles_cause failed with ⟨_, rfl⟩ | ⟨_, role, diagnostics, rfl⟩
    · exact missing _
    · exact tool role diagnostics
  exact spares_bind (spares_parts elsewhere source) fun p =>
    spares_bind (bundled p) fun made =>
      spares_last (spares_markup l p made.1 made.2) _

theorem spares_entries (c : Config) (tools : Toolchain) (l : Localizer) (sources : List Path) :
    (exec.above Tables).Spares cause (entries c tools l sources : Renaming m (List Outcome)) := by
  induction sources with
  | nil => exact spares_pure _
  | cons source rest inductionHypothesis =>
    have entered :
        (exec.above Tables).Spares cause (entry c tools l source : Renaming m Outcome) :=
      spares_bind spares_takeReferenced fun _ =>
        spares_bind (spares_page elsewhere missing tool c tools l source) fun made =>
          spares_publish elsewhere.store c source made
    exact spares_bind entered fun _ =>
      spares_last inductionHypothesis _

theorem spares_documents (c : Config) (tools : Toolchain) (l : Localizer) (sources : List Path) :
    exec.Spares cause (documents c tools l sources : ExceptT Failure m Report) := by
  intro s failure s' given
  obtain ⟨⟨answer, tables⟩, between, entered, done⟩ := exec.of_bind given
  cases answer with
  | ok outcomes => cases (exec.of_pure done).1
  | error e =>
    cases (exec.of_pure done).1
    have spared : (exec.above Tables).Spares cause (entries c tools l sources : Renaming m _) :=
      spares_entries elsewhere missing tool c tools l sources
    exact @spared ({}, s) _ (tables, between) entered

end Documents

end Bundle

end Pagefold
