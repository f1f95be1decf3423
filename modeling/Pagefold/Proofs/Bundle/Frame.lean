import Mathlib
import Pagefold.Proofs.Bundle.Output
import Pagefold.Proofs.Store.Change

/-!
# What a run leaves alone

A run writes below its destination and nowhere else, and it removes nothing but the destination.
This holds at each step and so of every beginning of a run, whether it goes on or fails there. The
paths that are written come from the names of entry points and from the records of assets; each of
them adds a name to a path that does not leave the destination.
-/
namespace Pagefold

namespace Memory

/-- The files that do not lie below a directory are the same, and no file takes the place of the
directory. -/
structure Kept (dir : Path) (s s' : Memory) : Prop where
  outside : (s'.files.filter fun entry => !entry.1.isBelow dir) =
    s.files.filter fun entry => !entry.1.isBelow dir
  itself : s.file? dir = none → s'.file? dir = none

namespace Kept

variable {dir : Path} {s t u : Memory}

theorem of_files (same : t.files = s.files) : Kept dir s t where
  outside := by rw [same]
  itself none := by rwa [file?, same]

theorem refl (s : Memory) : Kept dir s s := of_files rfl

theorem trans (first : Kept dir s t) (second : Kept dir t u) : Kept dir s u where
  outside := second.outside.trans first.outside
  itself none := second.itself (first.itself none)

/-- A file that is not below the directory is as it was. -/
theorem file (kept : Kept dir s t) (p : Path) (outside : p.isBelow dir = false) :
    t.file? p = s.file? p := by
  rw [file?, file?, ← lookup_outside (spelled_below dir) p outside, kept.outside,
    lookup_outside (spelled_below dir) p outside]

/-- A change at one path below the directory. -/
theorem at_path {p : Path} (below : p.isBelow dir = true) (apart : (p == dir) = false)
    (same : SameOutside (· == p) s t) : Kept dir s t where
  outside := by
    have all : ∀ list : List (Path × Bytes),
        (list.filter fun entry => !entry.1.isBelow dir) =
          (list.filter fun entry => !(entry.1 == p)).filter fun entry => !entry.1.isBelow dir := by
      intro list
      rw [List.filter_filter]
      refine List.filter_congr fun entry _ => ?_
      cases spelled : entry.1 == p with
      | false => simp
      | true => simp [Path.isBelow_congr _ _ dir spelled, below]
    rw [all t.files, same.files, ← all]
  itself none := by
    rw [same.file (spelled_same p) dir (by rw [Path.beq_comm]; exact apart)]
    exact none

/-- The directory is removed with everything below it. -/
theorem removeTree (s : Memory) : Kept dir s (removeTree dir s).2 where
  outside := (s.removeTree_outside dir).files
  itself none := by
    unfold Memory.removeTree
    split
    · rw [Option.eq_none_iff_forall_ne_some]
      intro bytes found
      obtain ⟨q, member, same⟩ := file_some _ dir bytes found
      have outside := (List.mem_filter.mp member).2
      rw [← Path.isBelow_congr dir q dir same, dir.isBelow_self] at outside
      cases outside
    · exact none

/-- A file is written below the directory. -/
theorem write {p : Path} (content : Bytes) (below : p.isBelow dir = true)
    (apart : (p == dir) = false) :
    (Execution.ofState Memory).Keeps (Kept dir)
      (FileStore.write p content : ExceptT StoreError (StateM Memory) Unit).run := by
  intro s result s' given
  have ran : Memory.write p content s = (result, s') := given
  have same := s.write_outside p content
  rw [ran] at same
  exact at_path below apart same

/-- A file is copied to a path below the directory. -/
theorem copy (source : Path) {target : Path} (below : target.isBelow dir = true)
    (apart : (target == dir) = false) :
    (Execution.ofState Memory).Keeps (Kept dir)
      (FileStore.copy source target : ExceptT StoreError (StateM Memory) Unit).run := by
  intro s result s' given
  have ran : Memory.copy source target s = (result, s') := given
  have same := s.copy_outside source target
  rw [ran] at same
  exact at_path below apart same

end Kept

end Memory

namespace Memory

section Operations

variable {s s' : Memory}

theorem read_files {p : Path} {result : Except StoreError Bytes}
    (given : (Execution.ofState Memory).gives (FileStore.read p).run s result s') :
    s'.files = s.files := by
  have ran : Memory.read p s = (result, s') := given
  unfold Memory.read at ran
  split at ran <;> cases ran <;> rfl

theorem createDir_files {p : Path} {above : Bool} {result : Except StoreError Unit}
    (given : (Execution.ofState Memory).gives (FileStore.createDir p above).run s result s') :
    s'.files = s.files := by
  have ran : Memory.createDir p above s = (result, s') := given
  unfold Memory.createDir at ran
  split at ran <;> cases ran <;> rfl

end Operations

end Memory

/-- A path that a run may write to: it is below the destination. -/
structure Config.Holds (c : Config) (p : Path) : Prop where
  below : p.isBelow c.destination = true
  apart : (p == c.destination) = false

/-- A path that goes on with a name, or with more of them, is below. -/
theorem Config.holds_child {c : Config} {dir : Path} (below : dir.isBelow c.destination = true)
    (name : String) (isName : IsName name) : c.Holds (dir.child name) := by
  rw [Path.isBelow_iff] at below
  have components := dir.components_child name isName
  constructor
  · rw [Path.isBelow_iff, components]
    exact below.trans (List.prefix_append _ _)
  · rw [← Bool.not_eq_true, Path.beq_iff, components]
    intro same
    have length := below.length_le
    rw [← same, List.length_append, List.length_singleton] at length
    omega

/-- What lies below the source does not lie below the destination, since of two directories above
one path one lies in the other. -/
theorem Config.Accepted.apart {c : Config} {s : Memory} (accepted : c.Accepted s)
    (source : c.source.IsNormal) (destination : c.destination.IsNormal) (p : Path)
    (inside : p.isBelow c.source = true) : p.isBelow c.destination = false := by
  obtain ⟨outside, around, _, _, _⟩ := accepted
  rw [← Bool.not_eq_true, Path.isBelow_iff, Config.seen_components _ source,
    Config.seen_components _ destination] at outside around
  rw [Path.isBelow_iff] at inside
  rw [← Bool.not_eq_true, Path.isBelow_iff]
  intro below
  rcases List.prefix_or_prefix_of_prefix inside below with first | second
  · exact outside first
  · exact around second

/-- The directory of assets does not leave a normal destination. -/
theorem Config.assets_below {c : Config} (destination : c.destination.IsNormal)
    (descending : c.assetsEscape = false) : c.assetOutputDir.isBelow c.destination = true := by
  obtain ⟨names, form⟩ := destination
  rw [Path.isBelow_iff, Config.asset_components names form descending, form, List.map_append,
    ← List.cons_append]
  exact List.prefix_append _ _

namespace Bundle

variable {c : Config} {tools : Toolchain} {l : Localizer}

/-- All assets with a record are copied below the destination. -/
def Contained (c : Config) (t : Tables) : Prop :=
  ∀ r, r ∈ t.assets.records ∨ r ∈ t.referenced → c.Holds r.destination

/-- What a step of a run does not touch, as long as the assets are copied below the destination,
which they still are after it. -/
def Guards (c : Config) (s s' : Tables × Memory) : Prop :=
  Contained c s.1 → Contained c s'.1 ∧ Memory.Kept c.destination s.2 s'.2

theorem guards_refl (s : Tables × Memory) : Guards c s s :=
  fun contained => ⟨contained, .refl s.2⟩

theorem guards_trans (s t u : Tables × Memory) (first : Guards c s t) (second : Guards c t u) :
    Guards c s u := by
  intro contained
  obtain ⟨middle, early⟩ := first contained
  obtain ⟨last, late⟩ := second middle
  exact ⟨last, early.trans late⟩

/-- Steps that keep the guard, one beside itself. -/
def guarding (c : Config) :
    Simulation (Renaming (StateM Memory)) (Renaming (StateM Memory)) where
  rel x _ := ((Execution.ofState Memory).above Tables).Keeps (Guards c) x.run
  of_pure _ := ((Execution.ofState Memory).above Tables).keeps_pure guards_refl _
  of_bind first second :=
    ((Execution.ofState Memory).above Tables).keeps_bind_run guards_trans first second

section Steps

variable {s s' : Tables × Memory}

/-- An action on the store is guarded if it keeps the files elsewhere. -/
theorem store_guards {α : Type} {action : ExceptT StoreError (StateM Memory) α}
    (kept : (Execution.ofState Memory).Keeps (Memory.Kept c.destination) action.run) :
    ((Execution.ofState Memory).above Tables).Keeps (Guards c) (Renaming.store action).run := by
  intro s result s' given contained
  obtain ⟨answer, store, rfl, lower, _⟩ := (Execution.ofState Memory).any_store given
  exact ⟨contained, kept lower⟩

theorem text_guards (file : Path) :
    ((Execution.ofState Memory).above Tables).Keeps (Guards c)
      (Renaming.readText file : Renaming (StateM Memory) String).run :=
  ((Execution.ofState Memory).above Tables).keeps_bind_run guards_trans
    (store_guards fun _ _ _ read => .of_files (Memory.read_files read)) fun _ =>
      ((Execution.ofState Memory).above Tables).keeps_pure guards_refl _

theorem token_guards (name : String) (kind : Class.Usage) :
    ((Execution.ofState Memory).above Tables).Keeps (Guards c)
      (Renaming.token name kind : Renaming (StateM Memory) String).run := by
  intro s result s' given contained
  have rest := (Execution.ofState Memory).after_get given
  have done := (Execution.ofState Memory).after_set rest
  obtain ⟨_, rfl⟩ := ((Execution.ofState Memory).above Tables).of_pure done
  exact ⟨contained, .refl _⟩

/-- Looking for the record of an asset only reads, whether it succeeds or not. -/
theorem associate_files {t : Asset.Table} {url : String} {dir : Path} {s s' : Memory}
    {result : Except StoreError (Asset.Record × Asset.Table)}
    (given : (Execution.ofState Memory).gives (t.associate url dir).run s result s') :
    s'.files = s.files := by
  simp only [Asset.Table.associate] at given
  split at given
  · exact congrArg Memory.files ((Execution.ofState Memory).of_pure given).2
  · rcases (Execution.ofState Memory).any_bind given with
      ⟨bytes, between, read, made⟩ | ⟨e, failed, _⟩
    · rw [((Execution.ofState Memory).of_pure made).2]
      exact Memory.read_files read
    · exact Memory.read_files failed

/-- A record that is made is that of a copy in the directory of assets. -/
theorem associate_holds {t next : Asset.Table} {url : String} {r : Asset.Record} {s s' : Memory}
    (assets : c.assetOutputDir.isBelow c.destination = true)
    (known : ∀ r ∈ t.records, c.Holds r.destination)
    (given : (Execution.ofState Memory).gives (t.associate url c.assetOutputDir).run s
      (.ok (r, next)) s') :
    r ∈ next.records ∧ ∀ other ∈ next.records, c.Holds other.destination := by
  rcases Asset.Table.associate_ok _ given with ⟨found, rfl, _⟩ | ⟨_, bytes, _, made⟩
  · exact ⟨List.mem_of_find?_eq_some found, known⟩
  · have named := (t.added_named (Asset.Table.sourceOf url) c.assetOutputDir bytes).plainName
    obtain ⟨rfl, rfl⟩ : r = _ ∧ next = _ := Prod.mk.injEq _ _ _ _ ▸ made
    refine ⟨List.mem_append_right _ List.mem_cons_self, fun other member => ?_⟩
    rcases List.mem_append.mp member with old | new
    · exact known other old
    · rw [List.mem_singleton.mp new]
      exact Config.holds_child assets _ named

theorem record_guards (assets : c.assetOutputDir.isBelow c.destination = true) (source : Path) :
    ((Execution.ofState Memory).above Tables).Keeps (Guards c)
      (Renaming.record c.assetOutputDir source : Renaming (StateM Memory) Asset.Record).run := by
  intro s result s' given contained
  have rest := (Execution.ofState Memory).after_get given
  rcases ((Execution.ofState Memory).above Tables).any_bind rest with
    ⟨⟨found, next⟩, between, stored, rest⟩ | ⟨e, failed, _⟩
  · obtain ⟨store, rfl, lower⟩ := (Execution.ofState Memory).ok_store stored
    have done := (Execution.ofState Memory).after_set rest
    obtain ⟨_, rfl⟩ := ((Execution.ofState Memory).above Tables).of_pure done
    obtain ⟨member, all⟩ := associate_holds assets (fun r known => contained r (Or.inl known)) lower
    refine ⟨fun r given => ?_, .of_files (associate_files lower)⟩
    rcases given with recorded | noted
    · exact all r recorded
    · rcases List.mem_append.mp noted with old | new
      · exact contained r (Or.inr old)
      · exact all r (List.mem_singleton.mp new ▸ member)
  · obtain ⟨answer, store, rfl, lower, _⟩ := (Execution.ofState Memory).any_store failed
    exact ⟨contained, .of_files (associate_files lower)⟩

/-- Whatever the making of a document asks for is guarded. -/
theorem guarding_answers (assets : c.assetOutputDir.isBelow c.destination = true) :
    (guarding c).Answers c.assetOutputDir where
  text := text_guards
  token := token_guards
  asset := record_guards assets
  refuse _ := ((Execution.ofState Memory).above Tables).keeps_pure guards_refl _

/-- Copying assets is guarded if each of them is copied below the destination. -/
theorem copyAssets_guards (records : List Asset.Record)
    (all : ∀ r ∈ records, c.Holds r.destination) :
    ((Execution.ofState Memory).above Tables).Keeps (Guards c)
      (copyAssets records : Renaming (StateM Memory) Nat).run := by
  induction records with
  | nil => exact ((Execution.ofState Memory).above Tables).keeps_pure guards_refl _
  | cons record rest inductionHypothesis =>
    have later := inductionHypothesis fun r member => all r (List.mem_cons_of_mem _ member)
    intro s result s' given
    have given := (Execution.ofState Memory).after_get given
    obtain ⟨granted, next, claim⟩ : ∃ granted next, s.1.assets.claim record = (granted, next) :=
      ⟨_, _, rfl⟩
    rw [claim] at given
    have given := (Execution.ofState Memory).after_set given
    have claimed : Guards c s ({ s.1 with assets := next }, s.2) := by
      intro contained
      have records := (Asset.Table.claim_records s.1.assets record).1
      rw [claim] at records
      exact ⟨fun r given => contained r (given.imp (records ▸ ·) id), .refl _⟩
    refine guards_trans _ _ _ claimed ?_
    split at given
    · have holds := all record List.mem_cons_self
      have copied := store_guards (Memory.Kept.copy record.source holds.below holds.apart)
      exact ((Execution.ofState Memory).above Tables).keeps_bind_run guards_trans copied (fun _ =>
        ((Execution.ofState Memory).above Tables).keeps_bind_run guards_trans later fun _ =>
          ((Execution.ofState Memory).above Tables).keeps_pure guards_refl _) given
    · exact later given

/-- Publishing writes to the destination, and copies the assets that were noted. -/
theorem publish_guards (source : Path) (made : Page) (holds : c.Holds (outputOf c source)) :
    ((Execution.ofState Memory).above Tables).Keeps (Guards c)
      (publish c source made : Renaming (StateM Memory) Outcome).run := by
  have written := store_guards
    (Memory.Kept.write made.html.toUTF8 holds.below holds.apart)
  refine ((Execution.ofState Memory).above Tables).keeps_bind_run guards_trans written fun _ => ?_
  intro s result s' given contained
  rcases ((Execution.ofState Memory).above Tables).any_bind given with
    ⟨referenced, between, taken, rest⟩ | ⟨e, failed, _⟩
  · obtain ⟨same, rfl⟩ := any_takeReferenced _ taken
    cases same
    have copied := copyAssets_guards s.1.referenced fun r member => contained r (Or.inr member)
    have all := ((Execution.ofState Memory).above Tables).keeps_bind_run guards_trans copied
      (fun _ => ((Execution.ofState Memory).above Tables).keeps_pure guards_refl _) rest
    exact all fun r given => contained r (Or.inl (given.resolve_right (by simp)))
  · cases (any_takeReferenced _ failed).1

/-- All entry points of a run are guarded, up to the first failure and with it. -/
theorem entries_guards (assets : c.assetOutputDir.isBelow c.destination = true)
    (sources : List Path) (all : ∀ source ∈ sources, c.Holds (outputOf c source)) :
    ((Execution.ofState Memory).above Tables).Keeps (Guards c)
      (entries c tools l sources : Renaming (StateM Memory) (List Outcome)).run := by
  induction sources with
  | nil => exact ((Execution.ofState Memory).above Tables).keeps_pure guards_refl _
  | cons source rest inductionHypothesis =>
    have later := inductionHypothesis fun other member => all other (List.mem_cons_of_mem _ member)
    have here := all source List.mem_cons_self
    have made : ((Execution.ofState Memory).above Tables).Keeps (Guards c)
        (page c tools l source : Renaming (StateM Memory) Page).run :=
      (guarding c).of_page (guarding_answers assets) tools l source
    have taken : ((Execution.ofState Memory).above Tables).Keeps (Guards c)
        (Renaming.takeReferenced : Renaming (StateM Memory) (List Asset.Record)).run := by
      intro s result s' given contained
      obtain ⟨_, rfl⟩ := any_takeReferenced _ given
      exact ⟨fun r given => contained r (Or.inl (given.resolve_right (by simp))), .refl _⟩
    have first := ((Execution.ofState Memory).above Tables).keeps_bind_run guards_trans taken
      fun _ => ((Execution.ofState Memory).above Tables).keeps_bind_run guards_trans made
        fun page => publish_guards source page here
    exact ((Execution.ofState Memory).above Tables).keeps_bind_run guards_trans first fun _ =>
      ((Execution.ofState Memory).above Tables).keeps_bind_run guards_trans later fun _ =>
        ((Execution.ofState Memory).above Tables).keeps_pure guards_refl _

end Steps

section Run

/-- The documents of entry points are written below the destination. -/
theorem documents_kept (assets : c.assetOutputDir.isBelow c.destination = true)
    (sources : List Path) (all : ∀ source ∈ sources, c.Holds (outputOf c source)) :
    (Execution.ofState Memory).Keeps (Memory.Kept c.destination)
      (documents c tools l sources : ExceptT Failure (StateM Memory) Report).run := by
  intro s result s' given
  obtain ⟨⟨answer, tables⟩, last, run, done⟩ := (Execution.ofState Memory).of_bind given
  obtain ⟨_, rfl⟩ := (Execution.ofState Memory).of_pure done
  have entered : ((Execution.ofState Memory).above Tables).gives
      (entries c tools l sources : Renaming (StateM Memory) _).run ({}, s) answer (tables, s') :=
    run
  exact (entries_guards assets sources all entered fun r none => by simp at none).2

/-- Looking for the entry points changes nothing, whether it succeeds or not. -/
theorem entryPoints_leaves (dir : Path) :
    (Execution.ofState Memory).Leaves
      (entryPoints dir : ExceptT Failure (StateM Memory) (List Path)).run := by
  have among : ∀ names, (Execution.ofState Memory).Leaves
      (entriesAmong dir names : ExceptT Failure (StateM Memory) (List Path)).run := by
    intro names
    induction names with
    | nil => exact (Execution.ofState Memory).leaves_pure _
    | cons name rest inductionHypothesis =>
      have others : ∀ chosen : Bool, (Execution.ofState Memory).Leaves (do
          let others ← entriesAmong dir rest
          pure (if chosen then dir.child name :: others else others) :
            ExceptT Failure (StateM Memory) (List Path)).run := fun chosen =>
        (Execution.ofState Memory).leaves_bind_run inductionHypothesis fun _ =>
          (Execution.ofState Memory).leaves_pure _
      simp only [entriesAmong]
      split
      · exact (Execution.ofState Memory).leaves_bind_run
          ((Execution.ofState Memory).keeps_renamed _ (Memory.entry_leaves _)) fun e =>
            (Execution.ofState Memory).leaves_bind_run
              ((Execution.ofState Memory).leaves_pure _) others
      · exact (Execution.ofState Memory).leaves_bind_run
          ((Execution.ofState Memory).leaves_pure _) others
  exact (Execution.ofState Memory).leaves_bind_run
    ((Execution.ofState Memory).keeps_renamed _ (Memory.list_leaves _)) fun names =>
      (Execution.ofState Memory).leaves_bind_run (among names) fun _ =>
        (Execution.ofState Memory).leaves_pure _

/-- Preparing a destination removes nothing but it, and writes no file. -/
theorem prepare_kept :
    (Execution.ofState Memory).Keeps (Memory.Kept c.destination)
      (prepare c : ExceptT Failure (StateM Memory) Unit).run := by
  have trans : ∀ s t u, Memory.Kept c.destination s t → Memory.Kept c.destination t u →
      Memory.Kept c.destination s u := fun _ _ _ first second => first.trans second
  have created : ∀ dir, (Execution.ofState Memory).Keeps (Memory.Kept c.destination)
      (orFail (FileStore.createDir dir true) : ExceptT Failure (StateM Memory) Unit).run :=
    fun dir => (Execution.ofState Memory).keeps_renamed _ fun _ _ _ given =>
      .of_files (Memory.createDir_files given)
  have both := (Execution.ofState Memory).keeps_bind_run trans (created c.destination) fun _ =>
    created c.assetOutputDir
  simp only [prepare]
  split
  · refine (Execution.ofState Memory).keeps_bind_run trans
      ((Execution.ofState Memory).keeps_lift fun _ _ _ asked => ?_) fun there => ?_
    · exact .of_files (congrArg Memory.files (Memory.hasEntry_leaves _ asked))
    · split
      · refine (Execution.ofState Memory).keeps_bind_run trans
          ((Execution.ofState Memory).keeps_renamed _ fun s result s' given => ?_) fun _ => both
        have ran : Memory.removeTree c.destination s = (result, s') := given
        have removed : Memory.Kept c.destination s (Memory.removeTree c.destination s).2 :=
          .removeTree s
        rwa [ran] at removed
      · exact both
  · exact both

theorem loadLocalizer_kept :
    (Execution.ofState Memory).Keeps (Memory.Kept c.destination)
      (c.loadLocalizer : ExceptT ConfigDefect (StateM Memory) Localizer).run := by
  unfold Config.loadLocalizer
  split
  · exact (Execution.ofState Memory).keeps_pure Memory.Kept.refl _
  · exact (Execution.ofState Memory).keeps_bind_run
      (fun _ _ _ first second => first.trans second)
      ((Execution.ofState Memory).keeps_lift fun _ _ _ read => .of_files (Memory.read_files read))
      fun _ => (Execution.ofState Memory).keeps_pure Memory.Kept.refl _

/-- A run that is refused changes nothing. Any other one changes files below its destination, and
no others. -/
theorem run_kept {start finish : Memory} {result : Except Failure Report}
    (source : c.source.IsNormal) (destination : c.destination.IsNormal)
    (given : (Execution.ofState Memory).gives
      (run c tools : ExceptT Failure (StateM Memory) Report).run start result finish) :
    finish = start ∨ c.Accepted start ∧ Memory.Kept c.destination start finish := by
  have trans : ∀ s t u, Memory.Kept c.destination s t → Memory.Kept c.destination t u →
      Memory.Kept c.destination s u := fun _ _ _ first second => first.trans second
  rcases (Execution.ofState Memory).any_bind given with
    ⟨_, checked, checks, rest⟩ | ⟨e, refused, _⟩
  · obtain ⟨accepted, rfl⟩ := Config.validate_ok ((Execution.ofState Memory).ok_renamed _ checks)
    refine Or.inr ⟨accepted, ?_⟩
    have assets := Config.assets_below destination accepted.descending
    have found : ∀ l, (Execution.ofState Memory).Keeps (Memory.Kept c.destination) (do
        documents c tools l (← entryPoints c.source) :
          ExceptT Failure (StateM Memory) Report).run := by
      intro l s result s' given
      rcases (Execution.ofState Memory).any_bind given with
        ⟨sources, between, discovery, makes⟩ | ⟨e, failed, _⟩
      · obtain ⟨names, rfl, rfl, _, chosen⟩ := entryPoints_exact source discovery
        refine documents_kept assets _ (fun file member => ?_) makes
        obtain ⟨name, among, rfl⟩ := List.mem_map.mp member
        have isName := ((chosen name).mp among).1
        rw [outputOf_child c name isName]
        exact Config.holds_child c.destination.isBelow_self name isName
      · exact .of_files (congrArg Memory.files (entryPoints_leaves _ failed))
    exact (Execution.ofState Memory).keeps_bind_run trans
      ((Execution.ofState Memory).keeps_renamed _ loadLocalizer_kept) (fun l =>
        (Execution.ofState Memory).keeps_bind_run trans prepare_kept fun _ => found l) rest
  · exact Or.inl ((Execution.ofState Memory).keeps_renamed _ (Config.validate_leaves c) refused)

end Run

/-- Every run leaves alone what is not below its destination, whether it succeeds or fails at any
point. So it does with everything in the source directory, and if no destination is replaced, with
every file that was there before.

Proof: a run that is refused changes nothing. In any other one, source and destination lie apart,
and each step writes below the destination or not at all. Without a replacement, the destination is
missing or empty, so no file from before is below it. -/
theorem run_frame (c : Config) (tools : Toolchain) (start finish : Memory)
    (result : Except Failure Report) (formed : start.WellFormed) (source : c.source.IsNormal)
    (destination : c.destination.IsNormal)
    (ran : (run c tools : ExceptT Failure (StateM Memory) Report).run.run start =
      (result, finish)) :
    (∀ p, p.isBelow c.destination = false ∨ (p == c.destination) = true →
      finish.file? p = start.file? p) ∧
    (∀ p, p.isBelow c.source = true → finish.file? p = start.file? p) ∧
    (c.replace = false → ∀ p bytes, start.file? p = some bytes → finish.file? p = some bytes) := by
  rcases run_kept source destination ran with rfl | ⟨accepted, kept⟩
  · exact ⟨fun _ _ => rfl, fun _ _ => rfl, fun _ _ _ found => found⟩
  · have bare : start.file? c.destination = none := by
      cases file : start.file? c.destination with
      | none => rfl
      | some bytes => rw [← accepted.directory (by simp [Memory.has, file]), file]
    refine ⟨?_, ?_, ?_⟩
    · rintro p (outside | same)
      · exact kept.file p outside
      · have spelled := (Path.beq_iff p c.destination).mp same
        rw [finish.file_congr p c.destination spelled, start.file_congr p c.destination spelled,
          bare, kept.itself bare]
    · intro p inside
      exact kept.file p (accepted.apart source destination p inside)
    · intro stays p bytes found
      obtain ⟨q, member, same⟩ := start.file_some p bytes found
      have clear := formed.none_below c.destination destination
        (fun there => ⟨accepted.directory there, accepted.empty there stays⟩) _ member
      rw [kept.file p ((Path.isBelow_congr p q _ same).trans clear), found]

/-- A run that replaces a destination leaves the sources and the neighbours alone. -/
theorem run_frame_replaced :
    let c : Config :=
      { source := ⟨"/site"⟩, destination := ⟨"/out"⟩, assetsDir := ⟨"assets"⟩, replace := true }
    let store :=
      ((({} : Memory).insertFile ⟨"/site/index.html"⟩ "<img src=../a.png>".toUTF8).insertFile
        ⟨"/a.png"⟩ "a".toUTF8).insertFile ⟨"/out/old/stale.html"⟩ "old".toUTF8
    store.WellFormed ∧ ∃ result finish,
      (run c {} : ExceptT Failure (StateM Memory) Report).run.run store = (result, finish) ∧
      finish.file? ⟨"/out/old/stale.html"⟩ = none ∧
      (∀ p, p.isBelow c.destination = false ∨ (p == c.destination) = true →
        finish.file? p = store.file? p) ∧
      (∀ p, p.isBelow c.source = true → finish.file? p = store.file? p) ∧
      (c.replace = false →
        ∀ p bytes, store.file? p = some bytes → finish.file? p = some bytes) := by
  intro c store
  have formed : store.WellFormed :=
    ((Memory.wellFormed_empty.insertFile _ _ ⟨["site", "index.html"], by decide +kernel⟩).insertFile
      _ _ ⟨["a.png"], by decide +kernel⟩).insertFile _ _
        ⟨["out", "old", "stale.html"], by decide +kernel⟩
  have gone : (((run c {} : ExceptT Failure (StateM Memory) Report).run.run store).2.file?
      ⟨"/out/old/stale.html"⟩).isNone = true := by
    decide +kernel
  obtain ⟨result, finish, ran⟩ : ∃ result finish,
      (run c {} : ExceptT Failure (StateM Memory) Report).run.run store = (result, finish) :=
    ⟨_, _, rfl⟩
  rw [ran] at gone
  refine ⟨formed, result, finish, ran, Option.isNone_iff_eq_none.mp gone, ?_⟩
  exact run_frame c {} store finish result formed ⟨["site"], by decide⟩ ⟨["out"], by decide⟩ ran

end Bundle

end Pagefold
