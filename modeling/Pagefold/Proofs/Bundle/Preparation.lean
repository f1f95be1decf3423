import Mathlib
import Pagefold.Proofs.Config
import Pagefold.Proofs.Store.WellFormed

/-!
# What a run starts with

When the destination is prepared, there is no file below it, and all other files are as before.
The entry points are then the files in the source directory that are named like documents, in the
order of their names.
-/
namespace Pagefold

namespace Memory

/-- Nothing lies below a directory that lists no names and is no file.

Proof: a file below it would either be spelled like it or go on with a name, which would be listed. -/
theorem WellFormed.none_below {s : Memory} (formed : s.WellFormed) (p : Path) (normal : p.IsNormal)
    (bare : s.has p = true → s.file? p = none ∧ s.names p = []) :
    ∀ entry ∈ s.files, entry.1.isBelow p = false := by
  intro entry member
  rw [← Bool.not_eq_true]
  intro below
  have inside : entry.1 ∈ s.entries := List.mem_append_left _ (List.mem_map_of_mem member)
  obtain ⟨names, dir⟩ := normal
  obtain ⟨more, components⟩ := entry.1.below_normal p names (formed.normal _ inside) dir below
  cases more with
  | nil =>
    rw [List.append_nil, ← dir] at components
    have found := s.file_member entry member
    rw [s.file_congr entry.1 p components] at found
    have known : s.has p = true := by simp [has, found]
    rw [(bare known).1] at found
    cases found
  | cons name rest =>
    obtain ⟨d, there, same⟩ := formed.dir_above names (name :: rest) (List.cons_ne_nil _ _) entry.1
      inside components
    have known : s.has p = true := by
      simp [has, (s.hasDir_iff p).mpr ⟨d, there, same.trans dir.symm⟩]
    have listed := formed.listed_below p entry.1 names rest name dir inside components
    rw [(bare known).2] at listed
    cases listed

/-- An entry is told to be a file exactly if there is one. -/
theorem entry_ok {s s' : Memory} {p : Path} {e : Entry}
    (given : (Execution.ofState Memory).gives (FileStore.entry p).run s (.ok e) s') :
    e.isFile = (s.file? p).isSome ∧ s' = s := by
  have ran := (s.entry_run p).symm.trans given
  cases known : s.entry? p with
  | none =>
    rw [known] at ran
    cases ran
  | some found =>
    rw [known] at ran
    cases ran
    refine ⟨?_, rfl⟩
    unfold entry? at known
    cases file : s.file? p with
    | some content =>
      rw [file] at known
      cases known
      rfl
    | none =>
      cases dir : s.hasDir p with
      | true =>
        rw [file, dir] at known
        cases known
        rfl
      | false => simp [file, dir] at known

end Memory

namespace Bundle

variable {c : Config} {s s' : Memory} {u : Unit}

theorem ok_orFail {m : Type → Type} [Monad m] {σ α : Type} (exec : Execution m σ)
    {action : ExceptT StoreError m α} {a : α} {s s' : σ}
    (given : exec.gives (orFail action).run s (.ok a) s') : exec.gives action.run s (.ok a) s' :=
  exec.ok_renamed _ given

/-- A name is picked exactly if it is that of a document and there is a file. -/
theorem entriesAmong_exact {dir : Path} {names : List String} {sources : List Path}
    (given : (Execution.ofState Memory).gives
      (entriesAmong dir names : ExceptT Failure (StateM Memory) _).run s (.ok sources) s') :
    sources = (names.filter fun name =>
      isEntryName (dir.child name) && (s.file? (dir.child name)).isSome).map dir.child ∧ s' = s := by
  induction names generalizing s sources with
  | nil =>
    obtain ⟨rfl, rfl⟩ := (Execution.ofState Memory).ok_pure given
    exact ⟨rfl, rfl⟩
  | cons name rest inductionHypothesis =>
    simp only [entriesAmong] at given
    split at given
    · next named =>
      obtain ⟨e, _, asked, given⟩ := (Execution.ofState Memory).ok_bind given
      obtain ⟨chosen, _, decided, given⟩ := (Execution.ofState Memory).ok_bind given
      obtain ⟨others, _, picked, given⟩ := (Execution.ofState Memory).ok_bind given
      obtain ⟨rfl, rfl⟩ := (Execution.ofState Memory).ok_pure given
      obtain ⟨rfl, rfl⟩ := inductionHypothesis picked
      obtain ⟨rfl, rfl⟩ := (Execution.ofState Memory).ok_pure decided
      obtain ⟨isFile, rfl⟩ := Memory.entry_ok (ok_orFail _ asked)
      refine ⟨?_, rfl⟩
      cases found : (s'.file? (dir.child name)).isSome <;> simp [isFile, found, named]
    · next unnamed =>
      obtain ⟨chosen, _, decided, given⟩ := (Execution.ofState Memory).ok_bind given
      obtain ⟨others, _, picked, given⟩ := (Execution.ofState Memory).ok_bind given
      obtain ⟨rfl, rfl⟩ := (Execution.ofState Memory).ok_pure given
      obtain ⟨rfl, rfl⟩ := inductionHypothesis picked
      obtain ⟨rfl, rfl⟩ := (Execution.ofState Memory).ok_pure decided
      exact ⟨by simp [unnamed], rfl⟩

/-- The names that a directory lists are plain. -/
theorem listed_plain (s : Memory) (dir : Path) (name : String) (member : name ∈ s.names dir) :
    IsName name := by
  obtain ⟨q, _, _, named⟩ := (s.mem_names dir name).mp member
  exact q.fileName_name name named

/-- The entry points are the files that a directory lists and that are named like documents, in the
order of their names. -/
theorem entryPoints_listed {dir : Path} {sources : List Path}
    (given : (Execution.ofState Memory).gives
      (entryPoints dir : ExceptT Failure (StateM Memory) _).run s (.ok sources) s') :
    ∃ names : List String, sources = names.map dir.child ∧ s' = s ∧ names.Pairwise (· < ·) ∧
      ∀ name, name ∈ names ↔
        name ∈ s.names dir ∧ isEntryName (dir.child name) = true ∧
          (s.file? (dir.child name)).isSome = true := by
  obtain ⟨listed, _, listing, given⟩ := (Execution.ofState Memory).ok_bind given
  obtain ⟨found, _, picking, given⟩ := (Execution.ofState Memory).ok_bind given
  obtain ⟨rfl, rfl⟩ := (Execution.ofState Memory).ok_pure given
  obtain ⟨rfl, rfl⟩ := entriesAmong_exact picking
  obtain ⟨rfl, rfl⟩ := Memory.list_ok (ok_orFail _ listing)
  have ascending := (s'.names_ascending dir).filter fun name =>
    isEntryName (dir.child name) && (s'.file? (dir.child name)).isSome
  refine ⟨_, ?_, rfl, ascending, ?_⟩
  · apply List.mergeSort_of_pairwise
    rw [List.pairwise_map]
    refine ascending.imp_of_mem fun {a b} first second order => ?_
    exact dir.le_child a b (listed_plain s' dir a (List.mem_filter.mp first).1)
      (listed_plain s' dir b (List.mem_filter.mp second).1) order
  · intro name
    rw [List.mem_filter, Bool.and_eq_true]

/-- A normal directory lists each file that is directly in it. -/
theorem entryPoints_exact {dir : Path} {sources : List Path} (normal : dir.IsNormal)
    (given : (Execution.ofState Memory).gives
      (entryPoints dir : ExceptT Failure (StateM Memory) _).run s (.ok sources) s') :
    ∃ names : List String, sources = names.map dir.child ∧ s' = s ∧ names.Pairwise (· < ·) ∧
      ∀ name, name ∈ names ↔
        IsName name ∧ isEntryName (dir.child name) = true ∧
          (s.file? (dir.child name)).isSome = true := by
  obtain ⟨above, form⟩ := normal
  obtain ⟨names, found, same, ascending, chosen⟩ := entryPoints_listed given
  refine ⟨names, found, same, ascending, fun name => (chosen name).trans ?_⟩
  constructor
  · rintro ⟨member, named, file⟩
    exact ⟨listed_plain s dir name member, named, file⟩
  · rintro ⟨isName, named, file⟩
    refine ⟨?_, named, file⟩
    obtain ⟨bytes, file⟩ := Option.isSome_iff_exists.mp file
    obtain ⟨q, inside, same⟩ := s.file_some _ bytes file
    have components : q.components = .root :: (above ++ [name]).map .name := by
      rw [← (Path.beq_iff _ _).mp same, dir.components_child name isName, form]
      simp
    exact s.listed_child dir q above name form
      (List.mem_append_left _ (List.mem_map_of_mem inside)) components

/-- What a run knows and has before its first document. -/
structure Prepared (c : Config) (start prepared : Memory) (l : Localizer) (names : List String) :
    Prop where
  accepted : c.Accepted start
  localized : c.Localized start l
  files : prepared.files = start.files.filter fun entry => !entry.1.isBelow c.destination
  ascending : names.Pairwise (· < ·)
  chosen : ∀ name, name ∈ names ↔
    IsName name ∧ isEntryName (c.source.child name) = true ∧
      (start.file? (c.source.child name)).isSome = true

/-- No file is left below the destination. -/
theorem Prepared.clear {start prepared : Memory} {l : Localizer} {names : List String}
    (ready : Prepared c start prepared l names) :
    ∀ entry ∈ prepared.files, entry.1.isBelow c.destination = false := by
  intro entry member
  rw [ready.files, List.mem_filter] at member
  simpa using member.2

/-- What a run does before its first document: the checks, the dictionary, the destination, and the
search for the entry points. -/
def opening {m : Type → Type} [Monad m] [FileStore m] (c : Config) :
    ExceptT Failure m (Localizer × List Path) := do
  orRefuse c.validate
  let l ← orRefuse c.loadLocalizer
  prepare c
  pure (l, ← entryPoints c.source)

end Bundle

end Pagefold
