import Mathlib
import Pagefold.Proofs.Execution
import Pagefold.Proofs.Path.Parent
import Pagefold.Store.Memory

/-!
# The files of a store in memory

A file that is put under a path with no file comes to the end of the list, and everything else
stays as it is. The other operations keep the list of files or take some away.
-/
namespace Pagefold.Memory

/-- A file that is found stands in the list under a spelling of its path. -/
theorem file_some (s : Memory) (p : Path) (bytes : Bytes) (found : s.file? p = some bytes) :
    ∃ q, (q, bytes) ∈ s.files ∧ (p == q) = true := by
  rw [file?, List.lookup_eq_findSome?] at found
  obtain ⟨entry, member, chosen⟩ := List.exists_of_findSome?_eq_some found
  split at chosen
  · next same =>
    obtain rfl : entry.2 = bytes := by simpa using chosen
    exact ⟨entry.1, member, same⟩
  · cases chosen

/-- A file in the list is found. -/
theorem file_member (s : Memory) (entry : Path × Bytes) (member : entry ∈ s.files) :
    (s.file? entry.1).isSome = true := by
  rw [file?, List.lookup_isSome_iff]
  exact ⟨entry, member, Path.beq_self _⟩

/-- A file is found under every spelling of its path. -/
theorem file_congr (s : Memory) (p q : Path) (same : p.components = q.components) :
    s.file? p = s.file? q := by
  have spelled : ∀ other : Path, (p == other) = (q == other) := by
    intro other
    rw [Bool.eq_iff_iff, Path.beq_iff, Path.beq_iff, same]
  simp only [file?, List.lookup_eq_findSome?, spelled]

/-- Files that come to the end of the list hide no earlier ones. -/
theorem file_later (s later : Memory) (grown : s.files <+: later.files) (p : Path) (bytes : Bytes)
    (found : s.file? p = some bytes) : later.file? p = some bytes := by
  obtain ⟨more, grown⟩ := grown
  rw [file?] at found ⊢
  rw [← grown, List.lookup_append, found]
  rfl

/-- A value for a new key comes to the end. -/
theorem put_fresh {α : Type} (key : Path) (value : α) (list : List (Path × α))
    (fresh : ∀ entry ∈ list, (key == entry.1) = false) :
    put key value list = list ++ [(key, value)] := by
  induction list with
  | nil => rfl
  | cons entry rest inductionHypothesis =>
    obtain ⟨other, old⟩ := entry
    have different : (other == key) = false := by
      rw [Path.beq_comm]
      exact fresh (other, old) List.mem_cons_self
    have later := inductionHypothesis fun entry member =>
      fresh entry (List.mem_cons_of_mem _ member)
    simp [put, different, later]

section Operations

variable {s s' : Memory}

/-- Reading counts, and changes nothing else, whether there is a file or not. -/
theorem read_counts {p : Path} {result : Except StoreError Bytes}
    (given : (Execution.ofState Memory).gives (FileStore.read p).run s result s') :
    ∃ reads, s' = { s with reads := reads } := by
  have ran : Memory.read p s = (result, s') := given
  unfold Memory.read at ran
  split at ran <;> cases ran <;> exact ⟨_, rfl⟩

/-- Reading counts, and changes nothing else. -/
theorem read_ok {p : Path} {bytes : Bytes}
    (given : (Execution.ofState Memory).gives (FileStore.read p).run s (.ok bytes) s') :
    s.file? p = some bytes ∧ ∃ reads, s' = { s with reads := reads } := by
  have ran : Memory.read p s = (.ok bytes, s') := given
  unfold Memory.read at ran
  cases found : s.file? p with
  | none =>
    simp only [found, Prod.mk.injEq, reduceCtorEq, false_and] at ran
  | some content =>
    simp only [found, Prod.mk.injEq, Except.ok.injEq] at ran
    obtain ⟨rfl, rfl⟩ := ran
    exact ⟨rfl, _, rfl⟩

theorem write_ok {p : Path} {bytes : Bytes} {u : Unit}
    (given : (Execution.ofState Memory).gives (FileStore.write p bytes).run s (.ok u) s') :
    s'.files = put p bytes s.files := by
  have ran : Memory.write p bytes s = (.ok u, s') := given
  unfold Memory.write at ran
  split at ran
  · cases ran
  · cases ran
    rfl

/-- A copy has what was read. -/
theorem copy_ok {source target : Path} {u : Unit}
    (given : (Execution.ofState Memory).gives (FileStore.copy source target).run s (.ok u) s') :
    ∃ bytes, s.file? source = some bytes ∧ s'.files = put target bytes s.files := by
  have ran : Memory.copy source target s = (.ok u, s') := given
  unfold Memory.copy at ran
  split at ran
  · next bytes between read =>
    obtain ⟨found, reads, rfl⟩ := read_ok (s := s) read
    exact ⟨bytes, found, write_ok (s := { s with reads := reads }) ran⟩
  · cases ran

theorem list_ok {p : Path} {names : List String}
    (given : (Execution.ofState Memory).gives (FileStore.list p).run s (.ok names) s') :
    names = s.names p ∧ s' = s := by
  have ran : Memory.list p s = (.ok names, s') := given
  unfold Memory.list at ran
  split at ran
  · cases ran
  · split at ran
    · cases ran
    · cases ran
      exact ⟨rfl, rfl⟩

end Operations

end Pagefold.Memory
