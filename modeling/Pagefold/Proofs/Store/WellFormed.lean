import Mathlib
import Pagefold.Proofs.Store.Memory

/-!
# Well-formed stores

A well-formed store has every directory above each of its entries. It is what one gets by putting
files and directories in place under normal paths, and the operations of the store keep it so.
There, a directory with anything below it has a name to list.
-/
namespace Pagefold.Memory

/-- The paths of all files and directories. -/
def entries (s : Memory) : List Path := s.files.map (·.1) ++ s.dirs

/-- A list of paths holds a path under any spelling. -/
theorem contains_iff (ps : List Path) (p : Path) :
    ps.contains p = true ↔ ∃ d ∈ ps, d.components = p.components := by
  simp only [List.contains_eq_any_beq, List.any_eq_true, Path.beq_iff]
  constructor
  · rintro ⟨d, member, same⟩
    exact ⟨d, member, same.symm⟩
  · rintro ⟨d, member, same⟩
    exact ⟨d, member, same.symm⟩

theorem hasDir_iff (s : Memory) (p : Path) :
    s.hasDir p = true ↔ ∃ d ∈ s.dirs, d.components = p.components :=
  contains_iff s.dirs p

/-- All paths are normal, and above each entry there is a directory. -/
structure WellFormed (s : Memory) : Prop where
  normal : ∀ p ∈ s.entries, p.IsNormal
  above : ∀ p ∈ s.entries, ∀ q, p.parent? = some q → s.hasDir q = true

section Keeping

theorem mem_put {α : Type} (key : Path) (value : α) (list : List (Path × α)) (entry : Path × α)
    (member : entry ∈ put key value list) :
    entry.1 = key ∨ entry.1 ∈ list.map Prod.fst := by
  induction list with
  | nil =>
    obtain rfl : entry = (key, value) := by simpa [put] using member
    exact Or.inl rfl
  | cons first rest inductionHypothesis =>
    rw [put] at member
    split at member
    · rcases List.mem_cons.mp member with rfl | later
      · exact Or.inr List.mem_cons_self
      · exact Or.inr (List.mem_cons_of_mem _ (List.mem_map_of_mem later))
    · rcases List.mem_cons.mp member with rfl | later
      · exact Or.inr List.mem_cons_self
      · exact (inductionHypothesis later).imp id (List.mem_cons_of_mem _)

theorem mem_adjoin (p q : Path) (ps : List Path) (member : q ∈ adjoin p ps) : q = p ∨ q ∈ ps := by
  unfold adjoin at member
  split at member
  · exact Or.inr member
  · rcases List.mem_append.mp member with old | new
    · exact Or.inr old
    · exact Or.inl (List.mem_singleton.mp new)

/-- A list of paths that a path is put in holds it, and all that it held. -/
theorem adjoin_contains (p q : Path) (ps : List Path)
    (given : q = p ∨ ps.contains q = true) : (adjoin p ps).contains q = true := by
  unfold adjoin
  split
  · next known =>
    rcases given with rfl | old
    · exact known
    · exact old
  · rw [contains_iff]
    rcases given with rfl | old
    · exact ⟨q, List.mem_append_right _ List.mem_cons_self, rfl⟩
    · obtain ⟨d, member, same⟩ := (contains_iff ps q).mp old
      exact ⟨d, List.mem_append_left _ member, same⟩

/-- The same for several paths that are put in one after the other. -/
theorem adjoinAll (added ps : List Path) :
    (∀ q ∈ added.foldl (fun known d => adjoin d known) ps, q ∈ added ∨ q ∈ ps) ∧
      ∀ q, q ∈ added ∨ ps.contains q = true →
        (added.foldl (fun known d => adjoin d known) ps).contains q = true := by
  induction added generalizing ps with
  | nil => simp
  | cons d rest inductionHypothesis =>
    obtain ⟨only, all⟩ := inductionHypothesis (adjoin d ps)
    rw [List.foldl_cons]
    constructor
    · intro q member
      rcases only q member with later | before
      · exact Or.inl (List.mem_cons_of_mem _ later)
      · rcases mem_adjoin d q ps before with rfl | old
        · exact Or.inl List.mem_cons_self
        · exact Or.inr old
    · intro q given
      apply all
      rcases given with new | old
      · rcases List.mem_cons.mp new with rfl | later
        · exact Or.inr (adjoin_contains q q ps (Or.inl rfl))
        · exact Or.inl later
      · exact Or.inr (adjoin_contains d q ps (Or.inr old))

theorem mem_namedAncestors (p q : Path) :
    q ∈ namedAncestors p ↔ q ∈ p.ancestors ∧ q.text ≠ "" := by
  rw [namedAncestors, Path.ancestors, Path.ancestorsFrom_named, List.mem_filter]
  simp

/-- A path that is seen from somewhere and is above a path or above one of those above it is among
them. -/
theorem namedAncestors_closed (p : Path) :
    (∀ q, p.parent? = some q → q.text ≠ "" → q ∈ namedAncestors p) ∧
      ∀ q ∈ namedAncestors p, ∀ above, q.parent? = some above → above.text ≠ "" →
        above ∈ namedAncestors p := by
  obtain ⟨first, closed⟩ := p.ancestors_closed
  constructor
  · intro q found named
    exact (mem_namedAncestors p q).mpr ⟨first q found, named⟩
  · intro q member above found named
    exact (mem_namedAncestors p above).mpr
      ⟨closed q ((mem_namedAncestors p q).mp member).1 above found, named⟩

theorem wellFormed_empty : ({} : Memory).WellFormed where
  normal := by simp [entries]
  above := by simp [entries]

/-- A store with a new entry is well-formed again once the directories above it are there. -/
theorem WellFormed.grow {s : Memory} (formed : s.WellFormed) (p : Path) (normal : p.IsNormal)
    (s' : Memory) (entries : ∀ q ∈ s'.entries, q = p ∨ q ∈ (s.addParents p).entries)
    (dirs : ∀ q, (s.addParents p).hasDir q = true → s'.hasDir q = true) : s'.WellFormed := by
  obtain ⟨first, closed⟩ := namedAncestors_closed p
  have allNormal : ∀ q ∈ namedAncestors p, q.IsNormal := fun q member =>
    p.ancestors_normal _ normal q ((mem_namedAncestors p q).mp member).1
  have above : ∀ {q parent : Path}, q.IsNormal → q.parent? = some parent → parent.text ≠ "" :=
    fun {q parent} ground found => parent.normal_text (q.parent_normal parent ground found)
  obtain ⟨only, all⟩ := adjoinAll (namedAncestors p) s.dirs
  have cases : ∀ q ∈ s'.entries, q = p ∨ q ∈ namedAncestors p ∨ q ∈ s.entries := by
    intro q member
    refine (entries q member).imp id fun inside => ?_
    rcases List.mem_append.mp inside with file | dir
    · exact Or.inr (List.mem_append_left _ file)
    · exact (only q dir).imp id (List.mem_append_right _)
  constructor
  · intro q member
    rcases cases q member with rfl | higher | old
    · exact normal
    · exact allNormal q higher
    · exact formed.normal q old
  · intro q member parent found
    apply dirs
    apply all
    rcases cases q member with rfl | higher | old
    · exact Or.inl (first parent found (above normal found))
    · exact Or.inl (closed q higher parent found (above (allNormal q higher) found))
    · exact Or.inr (formed.above q old parent found)

/-- A store stays well-formed when a file is put in place. -/
theorem WellFormed.insertFile {s : Memory} (formed : s.WellFormed) (p : Path) (content : Bytes)
    (normal : p.IsNormal) : (s.insertFile p content).WellFormed := by
  refine formed.grow p normal _ ?_ fun _ known => known
  intro q member
  rcases List.mem_append.mp member with file | dir
  · obtain ⟨entry, inside, rfl⟩ := List.mem_map.mp file
    exact (mem_put p content _ entry inside).imp id (List.mem_append_left _)
  · exact Or.inr (List.mem_append_right _ dir)

/-- A store stays well-formed when a directory is put in place. -/
theorem WellFormed.insertDir {s : Memory} (formed : s.WellFormed) (p : Path)
    (normal : p.IsNormal) : (s.insertDir p).WellFormed := by
  refine formed.grow p normal _ ?_ fun q known => adjoin_contains p q _ (Or.inr known)
  intro q member
  rcases List.mem_append.mp member with file | dir
  · exact Or.inr (List.mem_append_left _ file)
  · exact (mem_adjoin p q _ dir).imp id (List.mem_append_right _)

/-- A store stays well-formed when a file is written into a directory of it. -/
theorem WellFormed.write {s s' : Memory} (formed : s.WellFormed) (p : Path) (content : Bytes)
    (normal : p.IsNormal) (written : Memory.write p content s = (.ok (), s')) : s'.WellFormed := by
  unfold Memory.write at written
  split at written
  · cases written
  · next held =>
    cases written
    have cases : ∀ q ∈ ({ s with files := put p content s.files } : Memory).entries,
        q = p ∨ q ∈ s.entries := by
      intro q member
      rcases List.mem_append.mp member with file | dir
      · obtain ⟨entry, inside, rfl⟩ := List.mem_map.mp file
        exact (mem_put p content _ entry inside).imp id (List.mem_append_left _)
      · exact Or.inr (List.mem_append_right _ dir)
    constructor
    · intro q member
      rcases cases q member with rfl | old
      · exact normal
      · exact formed.normal q old
    · intro q member parent found
      rcases cases q member with rfl | old
      · have named := parent.normal_text (q.parent_normal parent normal found)
        have known : s.hasDir parent = true := by
          simpa [missingParent?, Path.namedParent?, found, named] using held
        exact known
      · exact formed.above q old parent found

/-- A store stays well-formed when a directory is removed with everything below it. -/
theorem WellFormed.removeTree {s s' : Memory} (formed : s.WellFormed) (p : Path)
    (removed : Memory.removeTree p s = (.ok (), s')) : s'.WellFormed := by
  unfold Memory.removeTree at removed
  split at removed
  · cases removed
    have stays : ∀ q ∈ ({ s with
        files := s.files.filter (!·.1.isBelow p)
        dirs := s.dirs.filter (!·.isBelow p) } : Memory).entries,
        q ∈ s.entries ∧ q.isBelow p = false := by
      intro q member
      rcases List.mem_append.mp member with file | dir
      · obtain ⟨entry, inside, rfl⟩ := List.mem_map.mp file
        rw [List.mem_filter] at inside
        exact ⟨List.mem_append_left _ (List.mem_map_of_mem inside.1), by simpa using inside.2⟩
      · rw [List.mem_filter] at dir
        exact ⟨List.mem_append_right _ dir.1, by simpa using dir.2⟩
    constructor
    · intro q member
      exact formed.normal q (stays q member).1
    · intro q member parent found
      obtain ⟨old, outside⟩ := stays q member
      obtain ⟨d, inside, same⟩ := (s.hasDir_iff parent).mp (formed.above q old parent found)
      refine (hasDir_iff _ parent).mpr ⟨d, ?_, same⟩
      -- what lies below the removed directory has everything below it removed too
      obtain ⟨last, ending⟩ := q.parent_last parent (formed.normal q old) found
      rw [List.mem_filter, Bool.not_eq_true', ← Bool.not_eq_true, Path.isBelow_iff, same]
      refine ⟨inside, fun below => ?_⟩
      have all : q.isBelow p = true := by
        rw [Path.isBelow_iff, ending]
        exact below.trans (List.prefix_append _ _)
      exact absurd all (by simp [outside])
  · cases removed

end Keeping

/-- A count of reads does not matter to the shape of a store. -/
theorem WellFormed.counted {s : Memory} (formed : s.WellFormed) (reads : List (Path × Nat)) :
    ({ s with reads := reads } : Memory).WellFormed :=
  ⟨formed.normal, formed.above⟩

/-- Every directory on the way to an entry is there.

Proof: by induction on the names that follow the directory, from the last one to the first. -/
theorem WellFormed.dir_above {s : Memory} (formed : s.WellFormed) (names more : List String)
    (nonempty : more ≠ []) (p : Path) (member : p ∈ s.entries)
    (components : p.components = .root :: (names ++ more).map .name) :
    ∃ d ∈ s.dirs, d.components = .root :: names.map .name := by
  induction more using List.reverseRecOn generalizing p with
  | nil => exact absurd rfl nonempty
  | append_singleton init last inductionHypothesis =>
    rw [← List.append_assoc] at components
    obtain ⟨parent, found, form⟩ := p.parent_components (names ++ init) last components
    obtain ⟨d, inside, same⟩ := (s.hasDir_iff parent).mp (formed.above p member parent found)
    rw [form] at same
    by_cases ended : init = []
    · rw [ended, List.append_nil] at same
      exact ⟨d, inside, same⟩
    · exact inductionHypothesis ended d (List.mem_append_right _ inside) same

theorem mem_names (s : Memory) (p : Path) (name : String) :
    name ∈ s.names p ↔
      ∃ q ∈ s.entries, (∃ parent, q.parent? = some parent ∧ (parent == p) = true) ∧
        q.fileName? = some name := by
  simp only [names, List.mem_eraseDups, List.mem_mergeSort, List.mem_filterMap, List.mem_filter,
    entries]
  constructor
  · rintro ⟨q, ⟨member, child⟩, named⟩
    refine ⟨q, member, ?_, named⟩
    cases parent : q.parent? with
    | none => simp [parent] at child
    | some above => exact ⟨above, rfl, by simpa [parent] using child⟩
  · rintro ⟨q, member, ⟨parent, found, same⟩, named⟩
    exact ⟨q, ⟨member, by simp [found, same]⟩, named⟩

/-- An entry whose path goes on after a directory by one name is listed there. -/
theorem listed_child (s : Memory) (p q : Path) (names : List String) (name : String)
    (dir : p.components = .root :: names.map .name) (member : q ∈ s.entries)
    (components : q.components = .root :: (names ++ [name]).map .name) : name ∈ s.names p := by
  obtain ⟨parent, found, form⟩ := q.parent_components names name components
  refine (s.mem_names p name).mpr ⟨q, member, ⟨parent, found, ?_⟩, ?_⟩
  · rw [Path.beq_iff, form, dir]
  · rw [Path.fileName?, components, List.map_append, List.map_singleton, ← List.cons_append,
      List.getLast?_concat]

/-- A directory with an entry somewhere below it has a name to list. -/
theorem WellFormed.listed_below {s : Memory} (formed : s.WellFormed) (p q : Path)
    (names more : List String) (name : String) (dir : p.components = .root :: names.map .name)
    (member : q ∈ s.entries)
    (components : q.components = .root :: (names ++ name :: more).map .name) :
    name ∈ s.names p := by
  by_cases last : more = []
  · exact s.listed_child p q names name dir member (last ▸ components)
  · have split : names ++ name :: more = (names ++ [name]) ++ more := by simp
    rw [split] at components
    obtain ⟨d, inside, form⟩ := formed.dir_above (names ++ [name]) more last q member components
    exact s.listed_child p d names name dir (List.mem_append_right _ inside) form

/-- An ordered list with its repeats taken out is strictly ascending. -/
theorem ascending_distinct (list : List String) (ordered : list.Pairwise (· ≤ ·)) :
    list.eraseDups.Pairwise (· < ·) := by
  induction length : list.length using Nat.strong_induction_on generalizing list with
  | _ n inductionHypothesis =>
    cases list with
    | nil => simp
    | cons name rest =>
      rw [List.pairwise_cons] at ordered
      rw [List.eraseDups_cons, List.pairwise_cons]
      constructor
      · intro other member
        rw [List.mem_eraseDups, List.mem_filter] at member
        have different : name ≠ other := by
          rintro rfl
          simp at member
        exact lt_of_le_of_ne (ordered.1 other member.1) different
      · refine inductionHypothesis _ ?_ _ (ordered.2.sublist List.filter_sublist) rfl
        rw [← length, List.length_cons]
        exact Nat.lt_succ_of_le (List.length_filter_le _ _)

/-- A list in order with its repeats taken out is strictly ascending. -/
theorem ascending_sorted (list : List String) :
    (list.mergeSort fun a b => decide (a ≤ b)).eraseDups.Pairwise (· < ·) := by
  apply ascending_distinct
  refine List.Pairwise.imp (fun order => of_decide_eq_true order)
    (List.pairwise_mergeSort ?_ ?_ _)
  · intro a b c first second
    simp only [decide_eq_true_eq] at first second ⊢
    exact le_trans first second
  · intro a b
    simpa using le_total a b

theorem names_ascending (s : Memory) (p : Path) : (s.names p).Pairwise (· < ·) :=
  ascending_sorted _

end Pagefold.Memory
