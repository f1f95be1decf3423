import Mathlib
import Pagefold.Proofs.Store.WellFormed

/-!
# What a change of a store leaves as it is

Every change of a store is a change at some paths: a file is put at one, a directory at one and at
those above it, and whatever lies below one is taken away. Everywhere else the files and directories
are the same as before, in the same order. So are the answers: what is known about a path that was
not touched is still known, and a directory lists the same names unless one of its own entries was
touched.
-/
namespace Pagefold.Memory

/-- A choice of paths that does not depend on how a path is spelled. -/
def Spelled (touched : Path → Bool) : Prop :=
  ∀ p q : Path, (p == q) = true → touched p = touched q

theorem spelled_same (p : Path) : Spelled (· == p) := by
  intro a b same
  have components := (Path.beq_iff a b).mp same
  rw [Bool.eq_iff_iff, Path.beq_iff, Path.beq_iff, components]

theorem spelled_contains (ps : List Path) : Spelled ps.contains := by
  intro a b same
  rw [Bool.eq_iff_iff, contains_iff, contains_iff, (Path.beq_iff a b).mp same]

theorem spelled_below (base : Path) : Spelled (·.isBelow base) :=
  fun a b same => Path.isBelow_congr a b base same

section Lists

variable {touched : Path → Bool} {α : Type}

/-- A value is put at its path. -/
theorem put_outside (spelled : Spelled touched) (key : Path) (value : α) (list : List (Path × α))
    (here : touched key = true) :
    ((put key value list).filter fun entry => !touched entry.1) =
      list.filter fun entry => !touched entry.1 := by
  induction list with
  | nil => simp [put, here]
  | cons entry rest inductionHypothesis =>
    obtain ⟨other, old⟩ := entry
    rw [put]
    split
    · next same => simp [spelled other key same, here]
    · cases gone : touched other <;> simp [gone, inductionHypothesis]

/-- A path that a list is given is at its place. -/
theorem adjoin_outside (p : Path) (ps : List Path) (here : touched p = true) :
    ((adjoin p ps).filter fun q => !touched q) = ps.filter fun q => !touched q := by
  unfold adjoin
  split
  · rfl
  · simp [here]

theorem adjoinAll_outside (added ps : List Path) (here : ∀ p ∈ added, touched p = true) :
    ((added.foldl (fun known d => adjoin d known) ps).filter fun q => !touched q) =
      ps.filter fun q => !touched q := by
  induction added generalizing ps with
  | nil => rfl
  | cons d rest inductionHypothesis =>
    rw [List.foldl_cons,
      inductionHypothesis _ fun p member => here p (List.mem_cons_of_mem _ member),
      adjoin_outside d ps (here d List.mem_cons_self)]

/-- Paths that a list has already do not change it. -/
theorem adjoinAll_known (added ps : List Path) (known : ∀ p ∈ added, ps.contains p = true) :
    added.foldl (fun known d => adjoin d known) ps = ps := by
  induction added with
  | nil => rfl
  | cons d rest inductionHypothesis =>
    have here : adjoin d ps = ps := if_pos (known d List.mem_cons_self)
    rw [List.foldl_cons, here,
      inductionHypothesis fun p member => known p (List.mem_cons_of_mem _ member)]

/-- A value is found at a path outside among the values outside. -/
theorem lookup_outside (spelled : Spelled touched) (q : Path) (outside : touched q = false)
    (list : List (Path × α)) :
    (list.filter fun entry => !touched entry.1).lookup q = list.lookup q := by
  induction list with
  | nil => rfl
  | cons entry rest inductionHypothesis =>
    obtain ⟨other, value⟩ := entry
    cases same : q == other with
    | true =>
      have stays : touched other = false := spelled q other same ▸ outside
      simp [stays, same, List.lookup_cons]
    | false =>
      cases gone : touched other <;> simp [gone, same, List.lookup_cons, inductionHypothesis]

theorem contains_outside (spelled : Spelled touched) (q : Path) (outside : touched q = false)
    (list : List Path) : (list.filter fun p => !touched p).contains q = list.contains q := by
  rw [Bool.eq_iff_iff, contains_iff, contains_iff]
  constructor
  · rintro ⟨d, member, same⟩
    exact ⟨d, (List.mem_filter.mp member).1, same⟩
  · rintro ⟨d, member, same⟩
    have stays : touched d = false := by
      rw [spelled d q ((Path.beq_iff d q).mpr same), outside]
    exact ⟨d, List.mem_filter.mpr ⟨member, by simp [stays]⟩, same⟩

end Lists

/-- Two stores are the same but for the files and directories at the paths that were touched, and
for the counts of reads. -/
structure SameOutside (touched : Path → Bool) (s s' : Memory) : Prop where
  files : (s'.files.filter fun entry => !touched entry.1) =
    s.files.filter fun entry => !touched entry.1
  dirs : (s'.dirs.filter fun p => !touched p) = s.dirs.filter fun p => !touched p
  readOnly : s'.readOnly = s.readOnly
  unlistable : s'.unlistable = s.unlistable

section Answers

variable {touched : Path → Bool} {s s' : Memory} (spelled : Spelled touched)
  (same : SameOutside touched s s')

include spelled same

theorem SameOutside.file (q : Path) (outside : touched q = false) : s'.file? q = s.file? q := by
  rw [file?, file?, ← lookup_outside spelled q outside, same.files,
    lookup_outside spelled q outside]

theorem SameOutside.hasDir (q : Path) (outside : touched q = false) : s'.hasDir q = s.hasDir q := by
  rw [Memory.hasDir, Memory.hasDir, ← contains_outside spelled q outside, same.dirs,
    contains_outside spelled q outside]

theorem SameOutside.entry (q : Path) (outside : touched q = false) : s'.entry? q = s.entry? q := by
  simp only [ entry?, same.file spelled q outside, same.hasDir spelled q outside, same.readOnly]

omit spelled in
/-- A directory has the same names if none of its own entries was touched. -/
theorem SameOutside.names (q : Path)
    (above : ∀ p parent, touched p = true → p.parent? = some parent → (parent == q) = false) :
    s'.names q = s.names q := by
  have own : ∀ p : Path, (p.parent?.map (· == q)).getD false = true → touched p = false := by
    intro p child
    rw [← Bool.not_eq_true]
    intro gone
    cases found : p.parent? with
    | none => simp [found] at child
    | some parent => simp [found, above p parent gone found] at child
  have outside : ∀ list : List Path,
      (list.filter fun p => (p.parent?.map (· == q)).getD false) =
        (list.filter fun p => !touched p).filter fun p => (p.parent?.map (· == q)).getD false := by
    intro list
    rw [List.filter_filter]
    refine List.filter_congr fun p _ => ?_
    cases child : (p.parent?.map (· == q)).getD false with
    | false => rfl
    | true => simp [own p child]
  have files : ((s'.files.map (·.1)).filter fun p => !touched p) =
      (s.files.map (·.1)).filter fun p => !touched p := by
    rw [List.filter_map, List.filter_map]
    exact congrArg (List.map _) same.files
  simp only [Memory.names, List.filter_append]
  rw [outside (s'.files.map (·.1)), outside s'.dirs, files, same.dirs, ← outside, ← outside]

theorem SameOutside.list (q : Path) (outside : touched q = false)
    (above : ∀ p parent, touched p = true → p.parent? = some parent → (parent == q) = false) :
    (Memory.list q s').1 = (Memory.list q s).1 := by
  simp only [Memory.list, same.hasDir spelled q outside, same.unlistable, same.names q above]
  split <;> [rfl; split <;> rfl]

end Answers

section Changes

variable (s : Memory)

/-- Writing a file touches its path. -/
theorem write_outside (p : Path) (content : Bytes) :
    SameOutside (· == p) s (write p content s).2 := by
  unfold write
  split
  · exact ⟨rfl, rfl, rfl, rfl⟩
  · exact ⟨put_outside (spelled_same p) p content _ (Path.beq_self p), rfl, rfl, rfl⟩

/-- Creating a directory touches its path and those above it. -/
theorem createDir_outside (p : Path) (above : Bool) :
    SameOutside (p :: p.ancestors).contains s (createDir p above s).2 := by
  unfold createDir
  split
  · exact ⟨rfl, rfl, rfl, rfl⟩
  · refine ⟨rfl, ?_, rfl, rfl⟩
    have here : (p :: p.ancestors).contains p = true :=
      (contains_iff _ _).mpr ⟨p, List.mem_cons_self, rfl⟩
    have higher : ∀ q ∈ namedAncestors p, (p :: p.ancestors).contains q = true := fun q member =>
      (contains_iff _ _).mpr
        ⟨q, List.mem_cons_of_mem _ ((mem_namedAncestors p q).mp member).1, rfl⟩
    exact (adjoin_outside p _ here).trans (adjoinAll_outside _ _ higher)

/-- Removing a directory touches what lies at or below it. -/
theorem removeTree_outside (p : Path) :
    SameOutside (·.isBelow p) s (removeTree p s).2 := by
  unfold removeTree
  split
  · exact ⟨by simp, by simp, rfl, rfl⟩
  · exact ⟨rfl, rfl, rfl, rfl⟩

/-- Reading a file touches nothing. -/
theorem read_outside (p : Path) (touched : Path → Bool) :
    SameOutside touched s (read p s).2 := by
  unfold read
  split <;> exact ⟨rfl, rfl, rfl, rfl⟩

/-- Copying a file touches its target. -/
theorem copy_outside (source target : Path) :
    SameOutside (· == target) s (copy source target s).2 := by
  have first := s.read_outside source (· == target)
  unfold copy
  split
  · next content between asked =>
    rw [asked] at first
    have second := between.write_outside target content
    exact ⟨second.files.trans first.files, second.dirs.trans first.dirs,
      second.readOnly.trans first.readOnly, second.unlistable.trans first.unlistable⟩
  · next e between asked =>
    rw [asked] at first
    exact first

end Changes

end Pagefold.Memory
