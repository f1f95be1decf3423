import Mathlib
import Pagefold.Proofs.Store.Change

/-!
# Operations one after the other

What is done with a store is a list of operations, and each of them has a reply. A store in memory
arises from the empty one by putting entries in place, by marking paths and by such operations. Its
directories are closed: above each one there are all others that have a name. So a directory that is
created in another one comes alone.
-/
namespace Pagefold

/-- An operation of a store with what it is given. -/
inductive Operation where
  | read (p : Path)
  | write (p : Path) (content : Bytes)
  | entry (p : Path)
  | hasEntry (p : Path)
  | allows (p : Path) (access : Access)
  | createDir (p : Path) (above : Bool)
  | removeTree (p : Path)
  | list (p : Path)
  | copy (source target : Path)

/-- What an operation answers, failures included. -/
inductive Reply where
  | bytes (result : Except StoreError Bytes)
  | entry (result : Except StoreError Entry)
  | names (result : Except StoreError (List String))
  | changed (result : Except StoreError Unit)
  | told (answer : Bool)

variable {m : Type → Type} [Monad m] [FileStore m]

/-- Carries out an operation. -/
def Operation.perform : Operation → m Reply
  | read p => Reply.bytes <$> (FileStore.read p).run
  | write p content => Reply.changed <$> (FileStore.write p content).run
  | entry p => Reply.entry <$> (FileStore.entry p).run
  | hasEntry p => Reply.told <$> FileStore.hasEntry p
  | allows p access => Reply.told <$> FileStore.allows p access
  | createDir p above => Reply.changed <$> (FileStore.createDir p above).run
  | removeTree p => Reply.changed <$> (FileStore.removeTree p).run
  | list p => Reply.names <$> (FileStore.list p).run
  | copy source target => Reply.changed <$> (FileStore.copy source target).run

/-- Carries out operations one after the other, the ones after a failure included. -/
def Operation.performAll (operations : List Operation) : m (List Reply) :=
  operations.mapM Operation.perform

namespace Memory

/-- How a store in memory comes about. -/
inductive Arises : Memory → Prop
  | empty : Arises {}
  | insertFile {s : Memory} (p : Path) (content : Bytes) :
      Arises s → Arises (s.insertFile p content)
  | insertDir {s : Memory} (p : Path) : Arises s → Arises (s.insertDir p)
  | setReadOnly {s : Memory} (p : Path) : Arises s → Arises (s.setReadOnly p)
  | setUnlistable {s : Memory} (p : Path) : Arises s → Arises (s.setUnlistable p)
  | performed {s : Memory} (operation : Operation) :
    Arises s → Arises ((operation.perform : StateM Memory Reply).run s).2

/-- Above each directory there is a directory, unless its path is empty. -/
def Closed (s : Memory) : Prop :=
  ∀ d ∈ s.dirs, ∀ q, d.parent? = some q → q.text ≠ "" → s.hasDir q = true

section Closed

variable {s : Memory}

/-- The directory above a known directory is known, however that one is spelled. -/
theorem Closed.parent (closed : s.Closed) {p q : Path} (known : s.hasDir p = true)
    (found : p.parent? = some q) (named : q.text ≠ "") : s.hasDir q = true := by
  obtain ⟨d, member, same⟩ := (s.hasDir_iff p).mp known
  obtain ⟨other, parent, spelled⟩ := Path.parent_congr same.symm found
  have otherNamed : other.text ≠ "" := by
    rw [ne_eq, Path.text_empty_iff, spelled, ← Path.text_empty_iff]
    exact named
  obtain ⟨e, inside, equal⟩ := (s.hasDir_iff other).mp (closed d member other parent otherNamed)
  exact (s.hasDir_iff q).mpr ⟨e, inside, equal.trans spelled⟩

/-- All directories above a path are known if the nearest one is.

Proof: by induction along the walk upwards. The empty path ends it. -/
theorem Closed.ancestors (closed : s.Closed) (fuel : Nat) (p : Path)
    (first : ∀ q, p.parent? = some q → q.text ≠ "" → s.hasDir q = true) :
    ∀ q ∈ Path.ancestorsFrom fuel p, q.text ≠ "" → s.hasDir q = true := by
  induction fuel generalizing p with
  | zero => exact fun _ member => absurd member List.not_mem_nil
  | succ fuel inductionHypothesis =>
    simp only [Path.ancestorsFrom]
    intro q member named
    split at member
    · cases member
    · next parent found =>
      rcases List.mem_cons.mp member with rfl | later
      · exact first q found named
      · refine inductionHypothesis parent ?_ q later named
        intro higher above higherNamed
        have parentNamed : parent.text ≠ "" := by
          intro empty
          have none := (Path.parent_none_iff parent).mpr (Or.inl ((Path.text_empty_iff _).mp empty))
          rw [none] at above
          cases above
        exact closed.parent (first parent found parentNamed) above higherNamed

/-- A directory in a known one has all directories above it. -/
theorem Closed.addParents (closed : s.Closed) {p : Path} (held : s.missingParent? p = none) :
    s.addParents p = s := by
  have first : ∀ q, p.parent? = some q → q.text ≠ "" → s.hasDir q = true := by
    intro q found named
    simpa [missingParent?, Path.namedParent?, found, named] using held
  have known : ∀ q ∈ namedAncestors p, s.dirs.contains q = true := fun q member =>
    have above := (mem_namedAncestors p q).mp member
    closed.ancestors _ p first q above.1 above.2
  rw [Memory.addParents, adjoinAll_known _ _ known]

/-- Directories stay closed when those above a path are added, and the path itself or not. -/
theorem Closed.grow (closed : s.Closed) (p : Path) (s' : Memory)
    (only : ∀ q ∈ s'.dirs, q = p ∨ q ∈ (s.addParents p).dirs)
    (all : ∀ q, (s.addParents p).hasDir q = true → s'.hasDir q = true) : s'.Closed := by
  obtain ⟨first, higher⟩ := namedAncestors_closed p
  obtain ⟨among, kept⟩ := adjoinAll (namedAncestors p) s.dirs
  intro d member q found named
  apply all
  apply kept
  rcases only d member with rfl | added
  · exact Or.inl (first q found named)
  · rcases among d added with above | old
    · exact Or.inl (higher d above q found named)
    · exact Or.inr (closed d old q found named)

theorem Closed.insertFile (closed : s.Closed) (p : Path) (content : Bytes) :
    (s.insertFile p content).Closed :=
  closed.grow p _ (fun _ member => Or.inr member) fun _ known => known

theorem Closed.insertDir (closed : s.Closed) (p : Path) : (s.insertDir p).Closed :=
  closed.grow p _ (fun q member => mem_adjoin p q _ member)
    fun q known => adjoin_contains p q _ (Or.inr known)

/-- Directories stay closed when one is removed with everything below it.

Proof: a directory above one that stays does not lie below the removed one. -/
theorem Closed.removeTree (closed : s.Closed) (p : Path) : (removeTree p s).2.Closed := by
  unfold Memory.removeTree
  split
  · intro d member q found named
    obtain ⟨inside, outside⟩ := List.mem_filter.mp member
    rw [Bool.not_eq_true'] at outside
    obtain ⟨e, known, same⟩ := (s.hasDir_iff q).mp (closed d inside q found named)
    refine (hasDir_iff _ q).mpr ⟨e, List.mem_filter.mpr ⟨known, ?_⟩, same⟩
    rw [Bool.not_eq_true', ← Bool.not_eq_true]
    intro below
    obtain ⟨⟨last, ending, _⟩, _⟩ := Path.parent_some found
    rw [Path.isBelow_iff, same] at below
    have all : d.isBelow p = true := by
      rw [Path.isBelow_iff, ending]
      exact below.trans (List.prefix_append _ _)
    exact absurd all (by simp [outside])
  · exact closed

/-- Directories stay closed when no directory changes. -/
theorem Closed.same (closed : s.Closed) {s' : Memory} (dirs : s'.dirs = s.dirs) : s'.Closed := by
  intro d member q found named
  have known := closed d (dirs ▸ member) q found named
  rwa [hasDir, dirs]

theorem Closed.write (closed : s.Closed) (p : Path) (content : Bytes) :
    (write p content s).2.Closed := by
  unfold Memory.write
  split <;> exact closed

theorem Closed.copy (closed : s.Closed) (source target : Path) :
    (copy source target s).2.Closed := by
  have counted : (Memory.read source s).2.Closed := by
    unfold Memory.read
    split <;> exact closed
  unfold Memory.copy
  split
  · next read =>
    rw [read] at counted
    exact counted.write target _
  · next read =>
    rw [read] at counted
    exact counted

theorem Closed.createDir (closed : s.Closed) (p : Path) (above : Bool) :
    (createDir p above s).2.Closed := by
  unfold Memory.createDir
  split
  · exact closed
  · exact closed.insertDir p

/-- The operations keep directories closed. -/
theorem Closed.perform (closed : s.Closed) (operation : Operation) :
    ((operation.perform : StateM Memory Reply).run s).2.Closed := by
  cases operation with
  | read p =>
    have counted : (Memory.read p s).2.dirs = s.dirs := by
      unfold Memory.read
      split <;> rfl
    exact closed.same counted
  | write p content => exact closed.write p content
  | entry p => exact closed
  | hasEntry p => exact closed
  | allows p access => exact closed
  | createDir p above => exact closed.createDir p above
  | removeTree p => exact closed.removeTree p
  | list p =>
    have left : (Memory.list p s).2 = s := by
      unfold Memory.list
      split <;> [rfl; split <;> rfl]
    exact closed.same (congrArg Memory.dirs left)
  | copy source target => exact closed.copy source target

/-- In every store in memory the directories are closed. -/
theorem Arises.closed (arises : s.Arises) : s.Closed := by
  induction arises with
  | empty => exact fun _ member => absurd member List.not_mem_nil
  | insertFile p content _ inductionHypothesis => exact inductionHypothesis.insertFile p content
  | insertDir p _ inductionHypothesis => exact inductionHypothesis.insertDir p
  | setReadOnly p _ inductionHypothesis => exact inductionHypothesis
  | setUnlistable p _ inductionHypothesis => exact inductionHypothesis
  | performed operation _ inductionHypothesis => exact inductionHypothesis.perform operation

end Closed

end Memory

end Pagefold
