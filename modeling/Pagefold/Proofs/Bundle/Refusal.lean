import Mathlib
import Pagefold.Proofs.Bundle.Failures
import Pagefold.Proofs.Bundle.Preparation
import Pagefold.Proofs.Settled
import Pagefold.Proofs.Store.Journal

/-!
# Refused configurations

A run ends because of its configuration exactly if it never asks its store for a change. Up to the
last check it only asks questions, and of what comes after the checks, each failure has another
cause. So nothing is deleted or created for a configuration that is refused, also if the destination
is to be replaced.
-/
namespace Pagefold

namespace Bundle

section Watched

/-- What a memory store with a journal gives. -/
def journaled : Execution (StateT Journal (StateM Memory)) (Journal × Memory) :=
  (Execution.ofState Memory).above Journal

variable {c : Config} {s s' : Journal × Memory}

/-- What is asked below a journal leaves the journal alone. -/
theorem journaled_lift {α : Type} {x : StateM Memory α} {a : α}
    (given : journaled.gives (StateT.lift x) s a s') :
    s'.1 = s.1 ∧ (Execution.ofState Memory).gives x s.2 a s'.2 := by
  obtain ⟨journal, store⟩ := s'
  cases given
  exact ⟨rfl, rfl⟩

/-- Nothing is changed but counts of reads, and no change is noted. -/
def Unchanged (s s' : Journal × Memory) : Prop :=
  s'.1 = s.1 ∧ ∃ reads, s'.2 = { s.2 with reads := reads }

theorem unchanged_refl (s : Journal × Memory) : Unchanged s s := ⟨rfl, s.2.reads, rfl⟩

theorem unchanged_trans (s t u : Journal × Memory) (first : Unchanged s t)
    (second : Unchanged t u) : Unchanged s u := by
  obtain ⟨journal, counted, store⟩ := first
  obtain ⟨later, recounted, last⟩ := second
  exact ⟨later.trans journal, recounted, by rw [last, store]⟩

/-- Actions that ask only, one beside itself. -/
def inquiring : Simulation (StateT Journal (StateM Memory)) (StateT Journal (StateM Memory)) :=
  journaled.keeping Unchanged unchanged_refl unchanged_trans

/-- A question that leaves the store alone is not noted. -/
theorem inquiring_lift {α : Type} {x : StateM Memory α}
    (leaves : (Execution.ofState Memory).Leaves x) :
    inquiring.rel (StateT.lift x) (StateT.lift x) := by
  intro s a s' given
  obtain ⟨journal, lower⟩ := journaled_lift given
  exact ⟨journal, s.2.reads, leaves lower⟩

theorem inquiring_questions : inquiring.Questions where
  workingDir := inquiring_lift fun _ _ _ given => by
    cases given
    rfl
  entry p := inquiring_lift (Memory.entry_leaves p)
  hasEntry p := inquiring_lift (Memory.hasEntry_leaves p)
  allows p access := inquiring_lift (Memory.allows_leaves p access)
  list p := inquiring_lift (Memory.list_leaves p)

/-- The checks of a run: those of the configuration, and the loading of its dictionary. -/
def checks {m : Type → Type} [Monad m] [FileStore m] (c : Config) :
    ExceptT ConfigDefect m Localizer := do
  c.validate
  c.loadLocalizer

/-- The checks change nothing and ask for no change, whether they succeed or fail. -/
theorem checks_unchanged (c : Config) : journaled.Keeps Unchanged
    (checks c : ExceptT ConfigDefect (StateT Journal (StateM Memory)) Localizer).run := by
  have read : ∀ p, inquiring.rel (FileStore.read p).run (FileStore.read p).run := by
    intro p s a s' given
    obtain ⟨journal, lower⟩ := journaled_lift given
    exact ⟨journal, Memory.read_counts lower⟩
  exact (inquiring.failing ConfigDefect).of_bind
    (Simulation.of_validate inquiring_questions c) fun _ => Simulation.of_loadLocalizer read c

/-- The journal goes on. -/
def Continued (s s' : Journal × Memory) : Prop := s.1.changes <+: s'.1.changes

/-- Actions that keep what is in the journal, one beside itself. -/
def continuing : Simulation (StateT Journal (StateM Memory)) (StateT Journal (StateM Memory)) :=
  journaled.keeping Continued (fun _ => List.prefix_refl _) fun _ _ _ => List.IsPrefix.trans

/-- No operation removes what is in the journal. -/
theorem continuing_operations : continuing.Operations := by
  have asks : ∀ {α : Type} (x : StateM Memory α),
      continuing.rel (StateT.lift x) (StateT.lift x) := fun x s a s' given => by
    rw [Continued, (journaled_lift given).1]
  have notes : ∀ operation (change : ExceptT StoreError (StateM Memory) Unit),
      continuing.rel (Journal.changing operation change).run
        (Journal.changing operation change).run := fun operation change s a s' given => by
    obtain ⟨journal, store⟩ := s'
    cases given
    exact List.prefix_append _ _
  exact {
    workingDir := asks _
    entry := fun p => asks (FileStore.entry p).run
    hasEntry := fun p => asks (FileStore.hasEntry p)
    allows := fun p access => asks (FileStore.allows p access)
    list := fun p => asks (FileStore.list p).run
    read := fun p => asks (FileStore.read p).run
    write := fun p content => notes (.write p content) (FileStore.write p content)
    createDir := fun p above => notes (.createDir p above) (FileStore.createDir p above)
    removeTree := fun p => notes (.removeTree p) (FileStore.removeTree p)
    copy := fun source target => notes (.copy source target) (FileStore.copy source target) }

/-- The action asks for some change, whether it succeeds or fails. -/
def Notes {α : Type} (action : ExceptT Failure (StateT Journal (StateM Memory)) α) : Prop :=
  journaled.Keeps (fun _ s' => s'.1.changes ≠ []) action.run

/-- Every change is noted. -/
theorem notes_changing (operation : Operation) (change : ExceptT StoreError (StateM Memory) Unit) :
    Notes (orFail (Journal.changing operation change)) := by
  intro s result s' given
  obtain ⟨answer, ⟨journal, store⟩, changed, done⟩ := journaled.of_bind given
  obtain ⟨_, rfl⟩ := journaled.of_pure done
  cases changed
  simp

/-- What has been noted once stays noted. -/
theorem notes_bind {α β : Type} {x : ExceptT Failure (StateT Journal (StateM Memory)) α}
    {f : α → ExceptT Failure (StateT Journal (StateM Memory)) β} (first : Notes x)
    (second : ∀ a, (continuing.failing Failure).rel (f a) (f a)) : Notes (x >>= f) := by
  intro s result s' given
  rcases journaled.any_bind given with ⟨a, between, early, late⟩ | ⟨e, failed, _⟩
  · intro empty
    have goes_on : between.1.changes <+: s'.1.changes := second a late
    rw [empty, List.prefix_nil] at goes_on
    exact first early goes_on
  · exact first failed

/-- A destination is not prepared without a change. -/
theorem notes_prepare (c : Config) : Notes (prepare c) := by
  have created : Notes (do
      orFail (FileStore.createDir c.destination true)
      orFail (FileStore.createDir c.assetOutputDir true)) :=
    notes_bind (notes_changing _ _) fun _ =>
      continuing.of_renamed (continuing_operations.createDir _ _) _
  simp only [prepare]
  split
  · intro s result s' given
    rcases journaled.any_bind given with ⟨there, between, _, late⟩ | ⟨e, failed, same⟩
    · split at late
      · exact notes_bind (notes_changing _ _)
          (fun _ => (continuing.failing Failure).of_bind
            (continuing.of_renamed (continuing_operations.createDir _ _) _)
            fun _ => continuing.of_renamed (continuing_operations.createDir _ _) _) late
      · exact created late
    · obtain ⟨_, _, other⟩ := journaled.any_lift failed
      cases other
  · exact created

/-- What comes after the checks of a run. -/
def work {m : Type → Type} [Monad m] [FileStore m] (c : Config) (tools : Toolchain)
    (l : Localizer) : ExceptT Failure m Report := do
  prepare c
  documents c tools l (← entryPoints c.source)

/-- A run checks first and works then. -/
theorem run_eq {m : Type → Type} [Monad m] [LawfulMonad m] [FileStore m] (c : Config)
    (tools : Toolchain) :
    (run c tools : ExceptT Failure m Report) = orRefuse (checks c) >>= work c tools := by
  have refused : (orRefuse (checks c) : ExceptT Failure m Localizer) =
      orRefuse c.validate >>= fun _ => orRefuse c.loadLocalizer := by
    apply ExceptT.ext
    simp only [orRefuse, checks, ExceptT.run_mk, ExceptT.run_bind, bind_assoc, pure_bind]
    congr 1
    funext answer
    cases answer <;> simp [Except.mapError]
  rw [refused, bind_assoc]
  rfl

/-- What a run fails of besides its configuration. -/
theorem elsewhere_config : Elsewhere fun failure => ∃ defect, failure = .config defect where
  store _ := by simp
  notText _ _ := by simp
  unreadable _ := by simp
  unsupported _ _ _ := by simp

/-- The work of a run asks for a change, and no failure of it comes from the configuration. -/
theorem work_noted (c : Config) (tools : Toolchain) (l : Localizer) :
    Notes (work c tools l) ∧
      ∀ ⦃s defect s'⦄, ¬ journaled.gives (work c tools l).run s (.error (.config defect)) s' := by
  have spared : journaled.Spares (fun failure => ∃ defect, failure = .config defect)
      (work c tools l) :=
    spares_bind (spares_prepare elsewhere_config.store c) fun _ =>
      spares_bind (spares_entryPoints elsewhere_config.store c.source) fun sources =>
        spares_documents elsewhere_config (by simp) (by simp) c tools l sources
  refine ⟨?_, fun s defect s' given => spared given ⟨defect, rfl⟩⟩
  exact notes_bind (notes_prepare c) fun _ => (continuing.failing Failure).of_bind
    (Simulation.of_entryPoints continuing_operations c.source) fun sources =>
      Simulation.of_documents continuing_operations c tools l sources

/-- The checks give with a journal what they give without. -/
theorem checks_watched (c : Config) :
    (Journal.watching.failing ConfigDefect).rel
      (checks c : ExceptT ConfigDefect (StateT Journal (StateM Memory)) Localizer) (checks c) :=
  (Journal.watching.failing ConfigDefect).of_bind
    (Simulation.of_validate Journal.watching_operations.toQuestions c) fun _ =>
      Simulation.of_loadLocalizer Journal.watching_operations.read c

/-- The checks of a run decide with a journal what they decide without. -/
theorem checks_decided {c : Config} {start : Memory} {result : Except ConfigDefect Localizer}
    {finish : Journal × Memory}
    (given : journaled.gives (checks c).run ({}, start) result finish) :
    ((checks c : ExceptT ConfigDefect (StateM Memory) Localizer).run.run start).1 = result := by
  rw [← checks_watched c {}]
  exact congrArg (fun outcome => outcome.1.1) given

/-- A run ends because of its configuration exactly if one of the checks fails, and then with the
defect that this check found; and exactly if the store was never asked for a change. In that case
files, directories and flags are as before the run: only files that were read have been counted.

Proof: the checks ask only questions. The work that follows them begins with a change, and whatever
fails in it has another cause. -/
theorem run_refused (c : Config) (tools : Toolchain) (start : Memory) :
    let checked := (checks c : ExceptT ConfigDefect (StateM Memory) Localizer).run.run start
    let watched :=
      ((run c tools : ExceptT Failure (StateT Journal (StateM Memory)) Report).run.run {}).run start
    let result := watched.1.1
    let asked := watched.1.2.changes
    let finish := watched.2
    (run c tools : ExceptT Failure (StateM Memory) Report).run.run start = (result, finish) ∧
      (∀ defect, result = .error (.config defect) ↔ checked.1 = .error defect) ∧
      ((∃ defect, result = .error (.config defect)) ↔ asked = []) ∧
      (asked = [] → ∃ reads, finish = { start with reads := reads }) := by
  intro checked watched result asked finish
  have same : (run c tools : ExceptT Failure (StateM Memory) Report).run.run start =
      (result, finish) := by
    rw [← Journal.run_watched c tools {}]
    rfl
  refine ⟨same, ?_⟩
  have given : journaled.gives (orRefuse (checks c) >>= work c tools).run ({}, start) result
      (watched.1.2, finish) := by
    rw [← run_eq]
    rfl
  rcases journaled.any_bind given with ⟨l, between, early, late⟩ | ⟨failure, early, refused⟩
  · obtain ⟨found, middle, examined, named⟩ := journaled.of_bind early
    obtain ⟨passed, rfl⟩ := journaled.of_pure named
    obtain ⟨noted, spared⟩ := work_noted c tools l
    have changed : asked ≠ [] := noted late
    have other : ∀ defect, result ≠ .error (.config defect) := fun defect refused =>
      spared (refused ▸ late)
    rw [checks_decided examined]
    cases found with
    | error defect => cases passed
    | ok l' =>
      exact ⟨fun defect => by simp [other], by simp [other, changed],
        fun empty => absurd empty changed⟩
  · obtain ⟨found, middle, examined, named⟩ := journaled.of_bind early
    obtain ⟨failed, same⟩ := journaled.of_pure named
    obtain ⟨unasked, reads, store⟩ := checks_unchanged c examined
    rw [checks_decided examined]
    rw [← same] at unasked store
    cases found with
    | ok l' => cases failed
    | error defect =>
      cases failed
      rw [refused]
      exact ⟨fun other => by simp, by simpa using congrArg Journal.changes unasked,
        fun _ => ⟨reads, store⟩⟩

end Watched

end Bundle

end Pagefold
