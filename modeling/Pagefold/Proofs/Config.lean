import Mathlib
import Pagefold.Proofs.Path.Clean
import Pagefold.Proofs.Simulation.Store
import Pagefold.Proofs.Store.Memory

/-!
# Accepted configurations

The checks of a configuration ask the store in memory and leave it as it is. What they found out
about it is what a run relies on: source and destination lie apart, the destination is new, empty
or replaced, and the directory of assets does not leave it.
-/
namespace Pagefold

namespace Execution

variable {m : Type → Type} [Monad m] {σ : Type} (exec : Execution m σ)

/-- An action of the monad below gives what it gives there. -/
theorem ok_lift [LawfulMonad m] {ε α : Type} {action : m α} {a : α} {s s' : σ}
    (given : exec.gives (ExceptT.lift action : ExceptT ε m α).run s (.ok a) s') :
    exec.gives action s a s' := by
  have lifted : (ExceptT.lift action : ExceptT ε m α).run = action >>= fun a => pure (.ok a) :=
    map_eq_pure_bind _ _
  rw [lifted] at given
  obtain ⟨value, between, first, second⟩ := exec.of_bind given
  obtain ⟨same, rfl⟩ := exec.of_pure second
  rw [Except.ok.inj same]
  exact first

/-- What succeeds in a run after its failures are renamed has succeeded. -/
theorem ok_renamed {ε φ α : Type} {action : ExceptT ε m α} (wording : ε → φ) {a : α} {s s' : σ}
    (given : exec.gives
      (ExceptT.mk (do pure ((← action.run).mapError wording)) : ExceptT φ m α).run s (.ok a) s') :
    exec.gives action.run s (.ok a) s' := by
  obtain ⟨result, between, first, second⟩ := exec.of_bind given
  obtain ⟨same, rfl⟩ := exec.of_pure second
  cases result with
  | ok value =>
    obtain rfl : a = value := Except.ok.inj same
    exact first
  | error e => cases same

/-- A condition that is required holds. -/
theorem ok_require [LawfulMonad m] {condition : m Bool} {defect : ConfigDefect} {u : Unit}
    {s s' : σ} (given : exec.gives (Config.require condition defect).run s (.ok u) s') :
    exec.gives condition s true s' := by
  obtain ⟨answer, between, asked, later⟩ := exec.ok_bind given
  cases answer with
  | false => exact (exec.ok_throw later).elim
  | true =>
    obtain ⟨_, rfl⟩ := exec.ok_pure later
    exact exec.ok_lift asked

/-- Neither of two paths that pass the check lies below the other one. -/
theorem ok_checkNesting {c : Config} {source destination : Path} {u : Unit} {s s' : σ}
    (given : exec.gives (c.checkNesting source destination : ExceptT ConfigDefect m Unit).run s
      (.ok u) s') :
    destination.isBelow source = false ∧ source.isBelow destination = false ∧ s' = s := by
  simp only [Config.checkNesting] at given
  split at given
  · obtain ⟨_, _, thrown, _⟩ := exec.ok_bind given
    exact (exec.ok_throw thrown).elim
  · next outside =>
    split at given
    · exact (exec.ok_throw given).elim
    · next around =>
      obtain ⟨_, rfl⟩ := exec.ok_pure given
      exact ⟨by simpa using outside, by simpa using around, rfl⟩

end Execution

namespace Memory

variable {s s' : Memory}

theorem hasEntry_gives {p : Path} {answer : Bool}
    (given : (Execution.ofState Memory).gives (FileStore.hasEntry p) s answer s') :
    answer = s.has p ∧ s' = s := by
  cases given
  exact ⟨rfl, rfl⟩

/-- What is known about an entry is what the store answers, and nothing is changed. -/
theorem entry_run (s : Memory) (p : Path) :
    (FileStore.entry p : ExceptT StoreError (StateM Memory) Entry).run.run s =
      (Option.elim ( s.entry? p) (.error (.notFound p)) .ok, s) := by
  simp only [FileStore.entry, ExceptT.run, StateT.run]
  cases s.entry? p <;> rfl

/-- A question about an entry is answered by what is known of it, and leaves the store alone. -/
theorem answer_gives {p : Path} {ask : Entry → Bool} {answer : Bool}
    (given : (Execution.ofState Memory).gives
      (FileStore.answer false (ask <$> FileStore.entry p)) s answer s') :
    answer = (Option.map ask ( s.entry? p)).getD false ∧ s' = s := by
  have computed : (FileStore.answer false (ask <$> FileStore.entry p) : StateM Memory Bool).run s =
      ((Option.map ask ( s.entry? p)).getD false, s) := by
    simp only [FileStore.answer, StateT.run_bind, ExceptT.run_map, StateT.run_map, entry_run]
    cases s.entry? p <;> rfl
  have ran := computed.symm.trans given
  cases ran
  exact ⟨rfl, rfl⟩

/-- There is a directory at a path only if there is no file. -/
theorem isDir_gives {p : Path}
    (given : (Execution.ofState Memory).gives (FileStore.isDir p) s true s') :
    s.file? p = none ∧ s.hasDir p = true := by
  obtain ⟨directory, rfl⟩ := answer_gives given
  unfold entry? at directory
  cases file : s'.file? p with
  | some content => simp [file] at directory
  | none =>
    cases dir : s'.hasDir p with
    | true => exact ⟨rfl, rfl⟩
    | false => simp [file, dir] at directory

theorem hasEntry_leaves (p : Path) :
    (Execution.ofState Memory).Leaves (FileStore.hasEntry p) :=
  fun _ _ _ given => (hasEntry_gives given).2

theorem isDir_leaves (p : Path) : (Execution.ofState Memory).Leaves (FileStore.isDir p) :=
  fun _ _ _ given => (answer_gives given).2

theorem allows_leaves (p : Path) (access : Access) :
    (Execution.ofState Memory).Leaves (FileStore.allows p access) := by
  intro s answer s' given
  cases given
  rfl

theorem list_leaves (p : Path) :
    (Execution.ofState Memory).Leaves
      (FileStore.list p : ExceptT StoreError (StateM Memory) _).run := by
  intro s result s' given
  have ran : Memory.list p s = (result, s') := given
  unfold Memory.list at ran
  split at ran
  · cases ran
    rfl
  · split at ran <;> cases ran <;> rfl

theorem entry_leaves (p : Path) :
    (Execution.ofState Memory).Leaves
      (FileStore.entry p : ExceptT StoreError (StateM Memory) _).run := by
  intro s result s' given
  exact (congrArg Prod.snd ((s.entry_run p).symm.trans given)).symm

/-- Actions that leave a store in memory alone, one beside itself. -/
def leaving : Simulation (StateM Memory) (StateM Memory) :=
  (Execution.ofState Memory).keeping (fun s s' => s' = s) (fun _ => rfl)
    fun _ _ _ early late => late.trans early

/-- Questions leave a store in memory alone. -/
theorem leaving_questions : leaving.Questions where
  workingDir _ _ _ given := by
    cases given
    rfl
  entry := entry_leaves
  hasEntry := hasEntry_leaves
  allows := allows_leaves
  list := list_leaves

/-- Asking whether a path can be created leaves the store alone. -/
theorem canHold_leaves (places : List Path) :
    (Execution.ofState Memory).Leaves (FileStore.canHold places) :=
  Simulation.of_canHold leaving_questions places

end Memory

/-- A path seen from the root, from where a store in memory sees all paths. -/
def Memory.seen (p : Path) : Path :=
  if p.isAbsolute then p.clean else ((⟨"/"⟩ : Path).join p).clean

namespace Config

/-- What the checks of a configuration find out about a store in memory. -/
structure Accepted (c : Config) (s : Memory) : Prop where
  outside : (Memory.seen c.destination).isBelow (Memory.seen c.source) = false
  around : (Memory.seen c.source).isBelow (Memory.seen c.destination) = false
  directory : s.has c.destination = true → s.file? c.destination = none
  empty : s.has c.destination = true → c.replace = false → s.names c.destination = []
  descending : c.assetsEscape = false

/-- The localizer that the dictionary of a configuration gives. -/
def Localized (c : Config) (s : Memory) (l : Localizer) : Prop :=
  match c.dictionary with
  | none => l = {}
  | some file => ∃ bytes, s.file? file = some bytes ∧ localizerOf file (.ok bytes) = .ok l

variable {c : Config} {s s' : Memory} {u : Unit}

/-- Neither a root nor a step up is in a directory of assets that is accepted. -/
theorem assetsDir_descending (accepted : c.assetsEscape = false) :
    ∀ part ∈ c.assetsDir.components, part ≠ .root ∧ part ≠ .up := by
  intro part member
  rw [assetsEscape, List.any_eq_false] at accepted
  have stays := accepted part member
  cases part <;> simp at stays ⊢

/-- A condition that is required holds, and leaves the store as it is if asking for it does. -/
theorem require_ok {condition : StateM Memory Bool} {defect : ConfigDefect}
    (leaves : (Execution.ofState Memory).Leaves condition)
    (given : (Execution.ofState Memory).gives (require condition defect).run s (.ok u) s') :
    (Execution.ofState Memory).gives condition s true s ∧ s' = s := by
  have asked := (Execution.ofState Memory).ok_require given
  obtain rfl := leaves asked
  exact ⟨asked, rfl⟩

theorem absolute_gives {p found : Path}
    (given : (Execution.ofState Memory).gives (absolute p) s found s') :
    found = Memory.seen p ∧ s' = s := by
  unfold absolute at given
  unfold Memory.seen
  split at given
  · next rooted =>
    obtain ⟨rfl, rfl⟩ := (Execution.ofState Memory).of_pure given
    exact ⟨by simp [rooted], rfl⟩
  · next relative =>
    cases given
    exact ⟨by simp [relative], rfl⟩

theorem checkSource_leaves (c : Config) :
    (Execution.ofState Memory).Leaves
      (c.checkSource : ExceptT ConfigDefect (StateM Memory) Unit).run :=
  Simulation.of_checkSource Memory.leaving_questions c

theorem checkDictionary_leaves (c : Config) :
    (Execution.ofState Memory).Leaves
      (c.checkDictionary : ExceptT ConfigDefect (StateM Memory) Unit).run :=
  Simulation.of_checkDictionary Memory.leaving_questions c

/-- Nothing is changed by the checks, whether the configuration passes them or is refused. -/
theorem validate_leaves (c : Config) :
    (Execution.ofState Memory).Leaves
      (c.validate : ExceptT ConfigDefect (StateM Memory) Unit).run :=
  Simulation.of_validate Memory.leaving_questions c

/-- A destination that is there is a directory, and has nothing in it unless it is replaced. -/
theorem checkExisting_ok
    (given : (Execution.ofState Memory).gives
      (c.checkExisting : ExceptT ConfigDefect (StateM Memory) Unit).run s (.ok u) s') :
    s.file? c.destination = none ∧ (c.replace = false → s.names c.destination = []) ∧ s' = s := by
  simp only [checkExisting] at given
  obtain ⟨_, between, first, rest⟩ := (Execution.ofState Memory).ok_bind given
  obtain ⟨directory, same⟩ := require_ok (Memory.isDir_leaves _) first
  subst same
  refine ⟨(Memory.isDir_gives directory).1, ?_⟩
  split at rest
  · obtain ⟨answer, _, listing, rest⟩ := (Execution.ofState Memory).ok_bind rest
    have listed := (Execution.ofState Memory).ok_lift listing
    cases answer with
    | error e =>
      obtain ⟨_, _, thrown, _⟩ := (Execution.ofState Memory).ok_bind rest
      exact ((Execution.ofState Memory).ok_throw thrown).elim
    | ok names =>
      obtain ⟨rfl, rfl⟩ := Memory.list_ok listed
      simp only at rest
      split at rest
      · obtain ⟨_, _, thrown, _⟩ := (Execution.ofState Memory).ok_bind rest
        exact ((Execution.ofState Memory).ok_throw thrown).elim
      · next empty =>
        exact ⟨fun _ => by simpa using empty, (require_ok (Memory.allows_leaves _ _) rest).2⟩
  · next replaced =>
    obtain ⟨_, rfl⟩ := (Execution.ofState Memory).ok_pure rest
    exact ⟨fun kept => absurd kept (by simpa using replaced), rfl⟩

theorem checkDestination_ok {destination : Path}
    (given : (Execution.ofState Memory).gives
      (c.checkDestination destination : ExceptT ConfigDefect (StateM Memory) Unit).run s (.ok u)
      s') :
    (s.has c.destination = true → s.file? c.destination = none ∧
      (c.replace = false → s.names c.destination = [])) ∧ s' = s := by
  obtain ⟨answer, between, asked, rest⟩ := (Execution.ofState Memory).ok_bind given
  obtain ⟨rfl, same⟩ := Memory.hasEntry_gives ((Execution.ofState Memory).ok_lift asked)
  subst same
  split at rest
  · obtain ⟨directory, empty, rfl⟩ := checkExisting_ok rest
    exact ⟨fun _ => ⟨directory, empty⟩, rfl⟩
  · next missing =>
    exact ⟨fun known => absurd known missing, (require_ok (Memory.canHold_leaves _) rest).2⟩

/-- A configuration that passes all checks is accepted. Nothing is changed by the checks. -/
theorem validate_ok
    (given : (Execution.ofState Memory).gives
      (c.validate : ExceptT ConfigDefect (StateM Memory) Unit).run s (.ok u) s') :
    c.Accepted s ∧ s' = s := by
  obtain ⟨_, s₁, first, afterSource⟩ := (Execution.ofState Memory).ok_bind given
  obtain rfl : s₁ = s := checkSource_leaves c first
  obtain ⟨source, s₂, second, rest⟩ := (Execution.ofState Memory).ok_bind afterSource
  obtain ⟨rfl, rfl⟩ := absolute_gives ((Execution.ofState Memory).ok_lift second)
  obtain ⟨destination, s₃, third, afterPaths⟩ := (Execution.ofState Memory).ok_bind rest
  obtain ⟨rfl, rfl⟩ := absolute_gives ((Execution.ofState Memory).ok_lift third)
  obtain ⟨_, s₄, nesting, afterNesting⟩ := (Execution.ofState Memory).ok_bind afterPaths
  obtain ⟨outside, around, rfl⟩ := (Execution.ofState Memory).ok_checkNesting nesting
  obtain ⟨_, s₅, existing, afterDestination⟩ := (Execution.ofState Memory).ok_bind afterNesting
  obtain ⟨known, rfl⟩ := checkDestination_ok existing
  obtain ⟨_, s₆, dictionary, last⟩ := (Execution.ofState Memory).ok_bind afterDestination
  obtain rfl : s₆ = s₅ := checkDictionary_leaves c dictionary
  split at last
  · exact ((Execution.ofState Memory).ok_throw last).elim
  · next descending =>
    obtain ⟨_, rfl⟩ := (Execution.ofState Memory).ok_pure last
    exact ⟨⟨outside, around, fun there => (known there).1, fun there => (known there).2,
      by simpa using descending⟩, rfl⟩

/-- A count of reads does not matter to the checks. -/
theorem Accepted.counted (accepted : c.Accepted s) (reads : List (Path × Nat)) :
    c.Accepted { s with reads := reads } :=
  ⟨accepted.outside, accepted.around, accepted.directory, accepted.empty, accepted.descending⟩

/-- A normal path is seen as it is. -/
theorem seen_components (p : Path) (normal : p.IsNormal) :
    (Memory.seen p).components = p.components := by
  obtain ⟨names, form⟩ := normal
  rw [Memory.seen, if_pos (p.rooted_absolute _ form), p.clean_components names form, form]

end Config

end Pagefold
