import Mathlib
import Pagefold.Proofs.Bundle.Documents
import Pagefold.Proofs.Config
import Pagefold.Proofs.Store.Memory

/-!
# Where a run puts its files

The documents of a run lie directly in the destination, and its assets in a directory further
down. So no document takes the place of an asset, and as long as the names of the documents differ
and the copies of the assets are claimed, nothing that was put in place is ever written again. The
law is that the files that were added are a permutation of the documents and of the copies, which
each step keeps.
-/
namespace Pagefold

/-- What a run writes lies below the destination, and documents lie apart from assets. -/
structure Config.Separate (c : Config) : Prop where
  document : ∀ name, IsName name → (c.destination.child name).isBelow c.destination = true
  asset : ∀ name, IsName name → (c.assetOutputDir.child name).isBelow c.destination = true
  apart : ∀ a b, IsName a → IsName b →
    (c.destination.child a == c.assetOutputDir.child b) = false

/-- A path that does not leave the destination goes on with names. -/
theorem Config.asset_components {c : Config} (names : List String)
    (destination : c.destination.components = .root :: names.map .name)
    (descending : c.assetsEscape = false) :
    c.assetOutputDir.components = .root :: (names ++ c.assetsDir.namesOf).map .name :=
  Path.clean_join _ _ names destination (assetsDir_descending descending)

/-- A directory of assets with a name in it keeps assets and documents apart. -/
theorem Config.separate {c : Config} (destination : c.destination.IsNormal)
    (descending : c.assetsEscape = false) (addressed : c.assetUrlPrefix ≠ "") : c.Separate := by
  obtain ⟨names, form⟩ := destination
  have assets := Config.asset_components names form descending
  have deeper : c.assetsDir.namesOf ≠ [] := by
    intro none
    apply addressed
    have shown : c.assetUrlPrefix = "/".intercalate c.assetsDir.namesOf := rfl
    rw [shown, none]
    rfl
  constructor
  · intro name isName
    rw [Path.isBelow_iff, Path.components_child _ _ isName]
    exact List.prefix_append _ _
  · intro name isName
    rw [Path.isBelow_iff, Path.components_child _ _ isName, assets, form, List.map_append,
      ← List.cons_append, List.append_assoc]
    exact List.prefix_append _ _
  · intro a b first second
    rw [← Bool.not_eq_true, Path.beq_iff, Path.components_child _ _ first,
      Path.components_child _ _ second, assets, form]
    intro same
    have length := congrArg List.length same
    simp only [List.length_append, List.length_cons, List.length_map, List.length_nil] at length
    exact deeper (List.eq_nil_of_length_eq_zero (by omega))

namespace Bundle

/-- A document that was made, with the answers to its making. -/
structure Document where
  /-- The name of the file, which the entry point and the document share. -/
  name : String
  page : Page
  answers : List Answer

/-- The file of a document. -/
def Document.file (c : Config) (d : Document) : Path × Bytes :=
  (c.destination.child d.name, d.page.html.toUTF8)

/-- An asset that was copied, with what its file held. -/
structure Copy where
  record : Asset.Record
  bytes : Bytes

/-- The file of a copy. -/
def Copy.file (e : Copy) : Path × Bytes := (e.record.destination, e.bytes)

/-- Some documents and copies of assets are in place, and nothing else was added. -/
structure Placed (c : Config) (start : Memory) (documents : List Document) (copies : List Copy)
    (s : Tables × Memory) : Prop where
  files : ∃ added, s.2.files = start.files ++ added ∧
    added.Perm (documents.map (·.file c) ++ copies.map Copy.file)
  named : ∀ d ∈ documents, IsName d.name
  read : ∀ e ∈ copies, s.2.file? e.record.source = some e.bytes
  claimed : s.1.assets.claimed = copies.map (·.record.source)
  known : ∀ e ∈ copies, e.record ∈ s.1.assets.records
  distinct : (copies.map (·.record)).Nodup
  sound : s.1.assets.Sound
  right : ∀ r ∈ s.1.assets.records,
    r.Right c.assetOutputDir fun file bytes => s.2.file? file = some bytes

section Steps

variable {c : Config} {start : Memory} {documents : List Document} {copies : List Copy}
  {s : Tables × Memory} (separate : c.Separate)
  (clear : ∀ entry ∈ start.files, entry.1.isBelow c.destination = false)
  (placed : Placed c start documents copies s)

include placed

/-- Each file was there before, or is a document or a copy. -/
theorem Placed.cases (entry : Path × Bytes) (member : entry ∈ s.2.files) :
    entry ∈ start.files ∨ (∃ d ∈ documents, entry = d.file c) ∨ ∃ e ∈ copies, entry = e.file := by
  obtain ⟨added, files, order⟩ := placed.files
  rw [files, List.mem_append, order.mem_iff, List.mem_append, List.mem_map, List.mem_map] at member
  rcases member with old | ⟨d, inside, rfl⟩ | ⟨e, inside, rfl⟩
  · exact Or.inl old
  · exact Or.inr (Or.inl ⟨d, inside, rfl⟩)
  · exact Or.inr (Or.inr ⟨e, inside, rfl⟩)

/-- A copy is in the directory of assets under a plain name. -/
theorem Placed.place (e : Copy) (member : e ∈ copies) :
    IsName e.record.name ∧ e.record.destination = c.assetOutputDir.child e.record.name :=
  have known := placed.known e member
  ⟨(placed.sound.named _ known).plainName, (placed.right _ known).destination⟩

/-- Only the assets of the tables matter. -/
theorem Placed.of_assets (tables : Tables) (same : tables.assets = s.1.assets) :
    Placed c start documents copies (tables, s.2) := by
  obtain ⟨files, named, read, claimed, known, distinct, sound, right⟩ := placed
  rw [← same] at claimed known sound right
  exact ⟨files, named, read, claimed, known, distinct, sound, right⟩

/-- What the files hold that are read still holds when files are added. -/
theorem Placed.kept (store : Memory) (grown : s.2.files <+: store.files) :
    (∀ e ∈ copies, store.file? e.record.source = some e.bytes) ∧
      ∀ r ∈ s.1.assets.records,
        r.Right c.assetOutputDir fun file bytes => store.file? file = some bytes := by
  constructor
  · intro e member
    exact Memory.file_later _ _ grown _ _ (placed.read e member)
  · intro r member
    obtain ⟨destination, bytes, held, digest⟩ := placed.right r member
    exact ⟨destination, bytes, Memory.file_later _ _ grown _ _ held, digest⟩

include separate clear

/-- There is no file yet at the place of a document with a new name. -/
theorem Placed.document_fresh (name : String) (isName : IsName name)
    (new : ∀ d ∈ documents, d.name ≠ name) :
    ∀ entry ∈ s.2.files, (c.destination.child name == entry.1) = false := by
  intro entry member
  rw [← Bool.not_eq_true]
  intro same
  rcases placed.cases entry member with old | ⟨d, inside, rfl⟩ | ⟨e, inside, rfl⟩
  · have below := separate.document name isName
    rw [Path.isBelow_congr _ _ _ same, clear entry old] at below
    cases below
  · exact new d inside (Path.child_injective _ _ _ _ (placed.named d inside) isName
      (Path.beq_self _) (by rw [Path.beq_comm]; exact same))
  · obtain ⟨plain, place⟩ := placed.place e inside
    rw [Copy.file, place, separate.apart name e.record.name isName plain] at same
    cases same

/-- There is no file yet at the destination of an asset that was not copied. -/
theorem Placed.copy_fresh (r : Asset.Record) (known : r ∈ s.1.assets.records)
    (new : ∀ e ∈ copies, e.record ≠ r) :
    ∀ entry ∈ s.2.files, (r.destination == entry.1) = false := by
  intro entry member
  rw [← Bool.not_eq_true]
  intro same
  have isName := (placed.sound.named r known).plainName
  rw [(placed.right r known).destination] at same
  rcases placed.cases entry member with old | ⟨d, inside, rfl⟩ | ⟨e, inside, rfl⟩
  · have below := separate.asset r.name isName
    rw [Path.isBelow_congr _ _ _ same, clear entry old] at below
    cases below
  · rw [Path.beq_comm, Document.file,
      separate.apart d.name r.name (placed.named d inside) isName] at same
    cases same
  · rw [Copy.file, (placed.place e inside).2, Path.beq_comm] at same
    exact new e inside (placed.sound.destination_injective (placed.known e inside) known _ _
      (Path.beq_self _) same)

/-- Writing a document with a new name puts it in place. -/
theorem Placed.write (name : String) (isName : IsName name) (new : ∀ d ∈ documents, d.name ≠ name)
    (page : Page) (answers : List Answer) {store : Memory}
    (given : (Execution.ofState Memory).gives
      (FileStore.write (c.destination.child name) page.html.toUTF8).run s.2 (.ok ()) store) :
    Placed c start (documents ++ [⟨name, page, answers⟩]) copies (s.1, store) ∧
      s.2.files <+: store.files := by
  have files : store.files = s.2.files ++ [(c.destination.child name, page.html.toUTF8)] := by
    rw [Memory.write_ok given,
      Memory.put_fresh _ _ _ (placed.document_fresh separate clear name isName new)]
  have grown : s.2.files <+: store.files := files ▸ List.prefix_append _ _
  obtain ⟨read, right⟩ := placed.kept store grown
  refine ⟨?_, grown⟩
  constructor
  · obtain ⟨added, before, order⟩ := placed.files
    refine ⟨added ++ [(c.destination.child name, page.html.toUTF8)], ?_, ?_⟩
    · rw [files, before, List.append_assoc]
    · -- the list has the document before the copies, the store has it after them
      rw [List.map_append, List.append_assoc]
      exact (order.append_right _).trans
        ((List.append_assoc _ _ _).symm ▸ List.perm_append_comm.append_left _)
  · intro d member
    rcases List.mem_append.mp member with old | last
    · exact placed.named d old
    · rw [List.mem_singleton.mp last]
      exact isName
  · exact read
  · exact placed.claimed
  · exact placed.known
  · exact placed.distinct
  · exact placed.sound
  · exact right

/-- Copying an asset that is not claimed puts its copy in place. -/
theorem Placed.copy (r : Asset.Record) (known : r ∈ s.1.assets.records)
    (unclaimed : s.1.assets.claimed.contains r.source = false) {store : Memory}
    (given : (Execution.ofState Memory).gives
      (FileStore.copy r.source r.destination).run s.2 (.ok ()) store) :
    (∃ bytes, Placed c start documents (copies ++ [⟨r, bytes⟩])
      ({ s.1 with assets := (s.1.assets.claim r).2 }, store)) ∧ s.2.files <+: store.files := by
  obtain ⟨bytes, found, put⟩ := Memory.copy_ok given
  have new : ∀ e ∈ copies, e.record ≠ r := by
    rintro e member rfl
    rw [placed.claimed, List.contains_eq_any_beq, List.any_eq_false] at unclaimed
    exact unclaimed _ (List.mem_map_of_mem member) (Path.beq_self _)
  have files : store.files = s.2.files ++ [(r.destination, bytes)] := by
    rw [put, Memory.put_fresh _ _ _ (placed.copy_fresh separate clear r known new)]
  have grown : s.2.files <+: store.files := files ▸ List.prefix_append _ _
  have claim : (s.1.assets.claim r).2 =
      { s.1.assets with claimed := s.1.assets.claimed ++ [r.source] } := by
    simp [Asset.Table.claim, unclaimed]
  have records := (Asset.Table.claim_records s.1.assets r).1
  obtain ⟨read, right⟩ := placed.kept store grown
  refine ⟨⟨bytes, ?_⟩, grown⟩
  constructor
  · obtain ⟨added, before, order⟩ := placed.files
    refine ⟨added ++ [(r.destination, bytes)], ?_, ?_⟩
    · rw [files, before, List.append_assoc]
    · rw [List.map_append, ← List.append_assoc]
      exact order.append_right _
  · exact placed.named
  · intro e member
    rcases List.mem_append.mp member with old | last
    · exact read e old
    · rw [List.mem_singleton.mp last]
      exact Memory.file_later _ _ grown _ _ found
  · rw [claim, List.map_append, ← placed.claimed]
    rfl
  · intro e member
    rw [records]
    rcases List.mem_append.mp member with old | last
    · exact placed.known e old
    · rw [List.mem_singleton.mp last]
      exact known
  · rw [List.map_append]
    refine placed.distinct.append (List.nodup_singleton _) (List.disjoint_singleton.mpr ?_)
    intro copied
    obtain ⟨e, member, same⟩ := List.mem_map.mp copied
    exact new e member same
  · exact (Asset.Table.Reaches.claimed _ r .same).sound placed.sound
  · intro other member
    exact right other (records ▸ member)

/-- Copying the assets of a list puts those in place that were not copied before, each once.

Proof: by induction on the list. An asset that is passed over is claimed, so a copy of the same
file is in place, and that file has only one record. -/
theorem Placed.copyAll {records : List Asset.Record} {copied : Nat} {s' : Tables × Memory}
    (known : ∀ r ∈ records, r ∈ s.1.assets.records)
    (given : ((Execution.ofState Memory).above Tables).gives
      (copyAssets records : Renaming (StateM Memory) Nat).run s (.ok copied) s') :
    (∃ more, Placed c start documents (copies ++ more) s' ∧ copied = more.length ∧
      ∀ r ∈ records, ∃ e ∈ copies ++ more, e.record = r) ∧
      s'.1.assets.records = s.1.assets.records ∧ s.2.files <+: s'.2.files := by
  induction records generalizing copied s copies with
  | nil =>
    obtain ⟨rfl, rfl⟩ := ((Execution.ofState Memory).above Tables).ok_pure given
    exact ⟨⟨[], by simpa using placed, rfl, by simp⟩, rfl, List.prefix_refl _⟩
  | cons record rest inductionHypothesis =>
    have later : ∀ r ∈ rest, r ∈ s.1.assets.records := fun r member =>
      known r (List.mem_cons_of_mem _ member)
    have here := known record List.mem_cons_self
    rcases copyAssets_cons given with ⟨claimed, run⟩ | ⟨unclaimed, store, others, copying, run, rfl⟩
    · obtain ⟨⟨more, placed', count, covered⟩, records, grown⟩ :=
        inductionHypothesis placed later run
      refine ⟨⟨more, placed', count, ?_⟩, records, grown⟩
      intro r member
      rcases List.mem_cons.mp member with rfl | member
      · -- the claim names a file, and the copy of that file is a copy of this record
        rw [placed.claimed, List.contains_eq_any_beq, List.any_eq_true] at claimed
        obtain ⟨source, inside, same⟩ := claimed
        obtain ⟨e, copied, rfl⟩ := List.mem_map.mp inside
        refine ⟨e, List.mem_append_left _ copied, ?_⟩
        exact (placed.sound.source_injective here (placed.known e copied) same).symm
      · exact covered r member
    · obtain ⟨⟨bytes, placed'⟩, early⟩ := placed.copy separate clear record here unclaimed copying
      have same := (Asset.Table.claim_records s.1.assets record).1
      obtain ⟨⟨more, placed'', count, covered⟩, records, late⟩ :=
        inductionHypothesis placed' (fun r member => same ▸ later r member) run
      rw [List.append_assoc] at placed'' covered
      refine ⟨⟨[⟨record, bytes⟩] ++ more, placed'', by simp [count], ?_⟩, records.trans same,
        early.trans late⟩
      intro r member
      rcases List.mem_cons.mp member with rfl | member
      · exact ⟨⟨r, bytes⟩, by simp, rfl⟩
      · exact covered r member

end Steps

/-- All documents and copies are at different places, if the documents have different names. -/
theorem Placed.apart {c : Config} {start : Memory} {documents : List Document} {copies : List Copy}
    {s : Tables × Memory} (separate : c.Separate) (placed : Placed c start documents copies s)
    (names : (documents.map (·.name)).Nodup) :
    (documents.map (·.file c) ++ copies.map Copy.file).Pairwise
      fun a b => (a.1 == b.1) = false := by
  rw [List.pairwise_append, List.pairwise_map, List.pairwise_map]
  refine ⟨?_, ?_, ?_⟩
  · rw [List.nodup_iff_pairwise_ne, List.pairwise_map] at names
    refine names.imp_of_mem fun {a b} first second different => ?_
    rw [← Bool.not_eq_true]
    intro same
    exact different (Path.child_injective _ _ _ _ (placed.named a first) (placed.named b second)
      (Path.beq_self _) same)
  · have distinct := placed.distinct
    rw [List.nodup_iff_pairwise_ne, List.pairwise_map] at distinct
    refine distinct.imp_of_mem fun {a b} first second different => ?_
    rw [← Bool.not_eq_true, Copy.file, Copy.file, (placed.place a first).2,
      (placed.place b second).2]
    intro same
    exact different (placed.sound.destination_injective (placed.known a first)
      (placed.known b second) _ _ (Path.beq_self _) same)
  · intro a first b second
    obtain ⟨d, member, rfl⟩ := List.mem_map.mp first
    obtain ⟨e, copied, rfl⟩ := List.mem_map.mp second
    obtain ⟨plain, place⟩ := placed.place e copied
    rw [Copy.file, place]
    exact separate.apart _ _ (placed.named d member) plain

/-- Below the destination there are the documents and the copies, and nothing changed elsewhere. -/
theorem Placed.below {c : Config} {start : Memory} {documents : List Document} {copies : List Copy}
    {s : Tables × Memory} (separate : c.Separate)
    (clear : ∀ entry ∈ start.files, entry.1.isBelow c.destination = false)
    (placed : Placed c start documents copies s) :
    (s.2.filesBelow c.destination).Perm (documents.map (·.file c) ++ copies.map Copy.file) ∧
      (s.2.files.filter fun entry => !entry.1.isBelow c.destination) = start.files := by
  obtain ⟨added, files, order⟩ := placed.files
  have inside : ∀ entry ∈ added, entry.1.isBelow c.destination = true := by
    intro entry member
    rw [order.mem_iff, List.mem_append, List.mem_map, List.mem_map] at member
    rcases member with ⟨d, member, rfl⟩ | ⟨e, copied, rfl⟩
    · exact separate.document _ (placed.named d member)
    · obtain ⟨plain, place⟩ := placed.place e copied
      rw [Copy.file, place]
      exact separate.asset _ plain
  have none : (start.files.filter fun entry => entry.1.isBelow c.destination) = [] := by
    rw [List.filter_eq_nil_iff]
    intro entry member
    simp [clear entry member]
  have all : (added.filter fun entry => entry.1.isBelow c.destination) = added :=
    List.filter_eq_self.mpr inside
  constructor
  · rw [Memory.filesBelow, files, List.filter_append, none, all, List.nil_append]
    exact order
  · rw [files, List.filter_append]
    have stays : (start.files.filter fun entry => !entry.1.isBelow c.destination) = start.files := by
      rw [List.filter_eq_self]
      intro entry member
      simp [clear entry member]
    have gone : (added.filter fun entry => !entry.1.isBelow c.destination) = [] := by
      rw [List.filter_eq_nil_iff]
      intro entry member
      simp [inside entry member]
    rw [stays, gone, List.append_nil]

/-- Making a document leaves the files alone, and what is in place stays there.

Proof: the making settles with what the files hold at its end. The states from which the files at
its end are the same are closed under reads from behind, so it began with the same files. -/
theorem Placed.page {c : Config} {start : Memory} {documents : List Document} {copies : List Copy}
    {s between : Tables × Memory} (placed : Placed c start documents copies s) {tools : Toolchain}
    {l : Localizer} {source : Path} {made : Page}
    (given : ((Execution.ofState Memory).above Tables).gives
      (Bundle.page c tools l source : Renaming (StateM Memory) Page).run
      ({ s.1 with referenced := [] }, s.2) (.ok made) between) :
    Placed c start documents copies between ∧ between.2.files = s.2.files ∧
      ∃ answers, between.1.referenced = Answer.records answers ∧
        (∀ r ∈ Answer.records answers, r ∈ between.1.assets.records) ∧
        (∀ r ∈ between.1.assets.records,
          r ∈ s.1.assets.records ∨ r ∈ Answer.records answers) ∧
        s.1.classes.Within between.1.classes ∧ s.1.assets.Reaches between.1.assets ∧
        ∀ classes assets, between.1.classes.Within classes → between.1.assets.Reaches assets →
          (Bundle.page c tools l source : Settled Page)
            ⟨classes, assets, fun file bytes => between.2.file? file = some bytes⟩ answers made := by
  have observes : Observes (Execution.ofState Memory)
      (fun file bytes => between.2.file? file = some bytes)
      (fun store => store.files = between.2.files) := by
    intro file store bytes later read same
    obtain ⟨found, reads, rfl⟩ := Memory.read_ok read
    have files : store.files = between.2.files := same
    have held : between.2.file? file = some bytes := by
      rw [Memory.file?, ← files]
      exact found
    exact ⟨held, files⟩
  obtain ⟨files, answers, grown, value⟩ :=
    (settling (Execution.ofState Memory) c.assetOutputDir
      (fun file bytes => between.2.file? file = some bytes)
      (fun store => store.files = between.2.files)).of_page (settling_answers observes) tools l
      source _ made between given rfl
  have files : s.2.files = between.2.files := files
  refine ⟨?_, files.symm, answers, grown.noted, grown.known, grown.added, grown.within,
    grown.assets, value⟩
  have kept := placed.kept between.2 (files ▸ List.prefix_refl _)
  constructor
  · rw [← files]
    exact placed.files
  · exact placed.named
  · exact kept.1
  · exact grown.claimed.trans placed.claimed
  · intro e member
    exact grown.assets.records.subset (placed.known e member)
  · exact placed.distinct
  · exact grown.assets.sound placed.sound
  · intro r member
    rcases grown.right r member with old | new
    · exact kept.2 r old
    · exact new

end Bundle

end Pagefold
