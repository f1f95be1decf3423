import Mathlib
import Pagefold.Proofs.Simulation.Store
import Pagefold.Proofs.Store.Operation

/-!
# A store with a journal

A store that notes each change it is asked for, whether the change is then carried out or fails.
Questions are not noted. The journal only watches: without it, every run gives the same.
-/
namespace Pagefold

/-- The changes that a store was asked for, in order. -/
structure Journal where
  changes : List Operation := []

namespace Journal

/-- The journal with one more change. -/
def note (operation : Operation) (j : Journal) : Journal := ⟨j.changes ++ [operation]⟩

variable {m : Type → Type} [Monad m]

/-- A question to the store below. -/
def asking {α : Type} (question : ExceptT StoreError m α) :
    ExceptT StoreError (StateT Journal m) α :=
  ExceptT.mk (StateT.lift question.run)

/-- A change of the store below, which is noted first. -/
def changing (operation : Operation) (change : ExceptT StoreError m Unit) :
    ExceptT StoreError (StateT Journal m) Unit :=
  ExceptT.mk do
    modify (note operation)
    StateT.lift change.run

end Journal

instance {m : Type → Type} [Monad m] [FileStore m] : FileStore (StateT Journal m) where
  workingDir := StateT.lift FileStore.workingDir
  read p := Journal.asking (FileStore.read p)
  write p content := Journal.changing (.write p content) (FileStore.write p content)
  entry p := Journal.asking (FileStore.entry p)
  hasEntry p := StateT.lift (FileStore.hasEntry p)
  allows p access := StateT.lift (FileStore.allows p access)
  createDir p above := Journal.changing (.createDir p above) (FileStore.createDir p above)
  removeTree p := Journal.changing (.removeTree p) (FileStore.removeTree p)
  list p := Journal.asking (FileStore.list p)
  copy source target := Journal.changing (.copy source target) (FileStore.copy source target)

namespace Journal

section Watching

variable {m : Type → Type} [Monad m] [LawfulMonad m]

/-- What an action gives without its journal, from whatever journal it starts. -/
def watching : Simulation (StateT Journal m) m where
  rel x y := ∀ j, Prod.fst <$> x.run j = y
  of_pure a j := by simp
  of_bind {_ _ x y f g} first second j := by
    calc Prod.fst <$> (x >>= f).run j
        = x.run j >>= fun outcome => Prod.fst <$> (f outcome.1).run outcome.2 := by
          rw [StateT.run_bind, map_bind]
      _ = x.run j >>= fun outcome => g outcome.1 := by simp only [second]
      _ = (Prod.fst <$> x.run j) >>= g := by rw [bind_map_left]
      _ = y >>= g := by rw [first]

/-- Without its journal, what is asked below is what is given. -/
theorem watching_lift {α : Type} (x : m α) : watching.rel (StateT.lift x) x := by
  intro j
  simp [StateT.lift, StateT.run]

theorem watching_changing (operation : Operation) (change : ExceptT StoreError m Unit) :
    watching.rel (changing operation change).run change.run := by
  intro j
  rw [changing, ExceptT.run_mk, StateT.run_bind, StateT.run_modify, pure_bind]
  exact watching_lift change.run _

variable [FileStore m]

/-- The journal changes no operation. -/
theorem watching_operations : (watching : Simulation (StateT Journal m) m).Operations where
  workingDir := watching_lift _
  entry _ := watching_lift _
  hasEntry _ := watching_lift _
  allows _ _ := watching_lift _
  list _ := watching_lift _
  read _ := watching_lift _
  write _ _ := watching_changing _ _
  createDir _ _ := watching_changing _ _
  removeTree _ := watching_changing _ _
  copy _ _ := watching_changing _ _

/-- An entry point with a journal is made and published as it is without. -/
theorem entry_watched (c : Config) (tools : Toolchain) (l : Localizer) (source : Path)
    (t : Tables) (j : Journal) :
    Prod.fst <$>
        ((Bundle.entry c tools l source : Renaming (StateT Journal m) Bundle.Outcome).run.run t).run j =
      (Bundle.entry c tools l source : Renaming m Bundle.Outcome).run.run t :=
  Simulation.of_entry watching_operations c tools l source t j

/-- A run with a journal gives what it gives without. -/
theorem run_watched (c : Config) (tools : Toolchain) (j : Journal) :
    Prod.fst <$> (Bundle.run c tools : ExceptT Failure (StateT Journal m) Report).run.run j =
      (Bundle.run c tools : ExceptT Failure m Report).run :=
  Simulation.of_run watching_operations c tools j

end Watching

end Journal

end Pagefold
