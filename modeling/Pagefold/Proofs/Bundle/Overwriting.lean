import Mathlib
import Pagefold.Proofs.Bundle.Frame

/-!
# What a run overwrites

A run writes one document for each entry point and one copy for each asset that is referred to. No
two documents have the same place, and no two copies. A document and a copy can only meet if the
assets go into the destination itself and the short name of the asset is the name of the entry
point, since short names are only kept apart from each other. Then the one that is written later
stays.
-/
namespace Pagefold

namespace Memory

/-- The files after some writes, in order. -/
def putAll (writes files : List (Path × Bytes)) : List (Path × Bytes) :=
  writes.foldl (fun files entry => put entry.1 entry.2 files) files

theorem putAll_append (first second files : List (Path × Bytes)) :
    putAll (first ++ second) files = putAll second (putAll first files) :=
  List.foldl_append

/-- A write is seen at its path, and nowhere else. -/
theorem lookup_put (key p : Path) (value : Bytes) (files : List (Path × Bytes)) :
    (put key value files).lookup p =
      if (p == key) = true then some value else files.lookup p := by
  induction files with
  | nil => cases same : p == key <;> simp [put, List.lookup_cons, same]
  | cons entry rest inductionHypothesis =>
    obtain ⟨other, old⟩ := entry
    rw [put]
    split
    · next spelled =>
      have alike : (p == other) = (p == key) := by
        have components := (Path.beq_iff other key).mp spelled
        rw [Bool.eq_iff_iff, Path.beq_iff, Path.beq_iff, components]
      cases same : p == key <;> simp [List.lookup_cons, alike, same]
    · next apart =>
      cases same : p == other with
      | false => simp [List.lookup_cons, same, inductionHypothesis]
      | true =>
        have different : (p == key) = false := by
          rw [← Bool.not_eq_true, Path.beq_iff, (Path.beq_iff p other).mp same, ← Path.beq_iff]
          exact apart
        simp [List.lookup_cons, same, different]

/-- If all writes to a path are of one value, and there is one, the value is there in the end. -/
theorem lookup_putAll (p : Path) (value : Bytes) (writes files : List (Path × Bytes))
    (agree : ∀ entry ∈ writes, (p == entry.1) = true → entry.2 = value)
    (written : (∃ entry ∈ writes, (p == entry.1) = true) ∨ files.lookup p = some value) :
    (putAll writes files).lookup p = some value := by
  induction writes generalizing files with
  | nil => simpa [putAll] using written
  | cons entry rest inductionHypothesis =>
    refine inductionHypothesis _
      (fun other member => agree other (List.mem_cons_of_mem _ member)) ?_
    rw [lookup_put]
    cases here : p == entry.1 with
    | true => exact Or.inr (by simp [agree entry List.mem_cons_self here])
    | false =>
      rcases written with ⟨other, member, same⟩ | before
      · rcases List.mem_cons.mp member with rfl | later
        · rw [here] at same
          cases same
        · exact Or.inl ⟨other, later, same⟩
      · exact Or.inr (by simpa using before)

end Memory

namespace Bundle

variable {c : Config} {tools : Toolchain} {l : Localizer}

/-- Paths that are all different. -/
def Distinct (paths : List Path) : Prop := paths.Pairwise fun a b => (a == b) = false

/-- Copying the assets of a list writes the copies of those whose source was not claimed, and claims
these sources. -/
theorem copyAssets_writes {records : List Asset.Record} {copied : Nat} {s s' : Tables × Memory}
    (given : ((Execution.ofState Memory).above Tables).gives
      (copyAssets records : Renaming (StateM Memory) Nat).run s (.ok copied) s') :
    ∃ copies : List Copy, copied = copies.length ∧ (∀ e ∈ copies, e.record ∈ records) ∧
      s'.1.assets.claimed = s.1.assets.claimed ++ copies.map (·.record.source) ∧
      (Distinct s.1.assets.claimed → Distinct s'.1.assets.claimed) ∧
      s'.1.assets.records = s.1.assets.records ∧
      s'.2.files = Memory.putAll (copies.map Copy.file) s.2.files := by
  induction records generalizing s copied with
  | nil =>
    obtain ⟨rfl, rfl⟩ := ((Execution.ofState Memory).above Tables).ok_pure given
    exact ⟨[], rfl, by simp, by simp, id, rfl, rfl⟩
  | cons record rest inductionHypothesis =>
    rcases copyAssets_cons given with ⟨_, run⟩ | ⟨unclaimed, store, others, copying, run, rfl⟩
    · obtain ⟨copies, count, among, claims, apart, same, files⟩ := inductionHypothesis run
      exact ⟨copies, count, fun e member => List.mem_cons_of_mem _ (among e member), claims, apart,
        same, files⟩
    · obtain ⟨bytes, _, put⟩ := Memory.copy_ok copying
      obtain ⟨copies, count, among, claims, apart, same, files⟩ := inductionHypothesis run
      have claim : (s.1.assets.claim record).2.claimed =
          s.1.assets.claimed ++ [record.source] := by
        simp [Asset.Table.claim, unclaimed]
      refine ⟨⟨record, bytes⟩ :: copies, by simp [count], ?_, ?_, ?_, ?_, ?_⟩
      · intro e member
        rcases List.mem_cons.mp member with rfl | later
        · exact List.mem_cons_self
        · exact List.mem_cons_of_mem _ (among e later)
      · rw [claims, claim, List.append_assoc]
        rfl
      · intro distinct
        refine apart ?_
        rw [claim, Distinct, List.pairwise_append]
        refine ⟨distinct, List.pairwise_singleton _ _, ?_⟩
        intro source inside other single
        rw [List.mem_singleton.mp single, ← Bool.not_eq_true, Path.beq_comm]
        intro same
        rw [List.contains_eq_any_beq, List.any_eq_false] at unclaimed
        exact unclaimed source inside same
      · exact same.trans (Asset.Table.claim_records s.1.assets record).1
      · rw [files, put]
        rfl

/-- The file that is written for an entry point. -/
def written (c : Config) (made : Path × Page) : Path × Bytes :=
  (outputOf c made.1, made.2.html.toUTF8)

/-- What a run over some entry points has written, from one state to a later one. -/
structure Writes (c : Config) (sources : List Path) (made : List (Page × Outcome))
    (copies : List Copy) (s s' : Tables × Memory) : Prop where
  files : ∃ writes,
    writes.Perm ((sources.zip (made.map Prod.fst)).map (written c) ++ copies.map Copy.file) ∧
      s'.2.files = Memory.putAll writes s.2.files
  complete : made.length = sources.length
  reports : made.map (·.2.report) = (sources.zip (made.map Prod.fst)).map fun d =>
    ⟨d.1, outputOf c d.1, d.2.cssBytes, d.2.jsBytes⟩
  count : (made.map (·.2.assetsCopied)).sum = copies.length
  claims : s'.1.assets.claimed = s.1.assets.claimed ++ copies.map (·.record.source)
  apart : Distinct s.1.assets.claimed → Distinct s'.1.assets.claimed
  known : ∀ e ∈ copies, e.record ∈ s'.1.assets.records
  older : ∀ r ∈ s.1.assets.records, r ∈ s'.1.assets.records
  placed : ∀ r ∈ s'.1.assets.records,
    r ∈ s.1.assets.records ∨ r.destination = c.assetOutputDir.child r.name

/-- Making a document writes nothing. The assets that it notes have records, and those that are made
are placed in the directory of assets. -/
theorem page_writes {source : Path} {made : Page} {s between : Tables × Memory}
    (given : ((Execution.ofState Memory).above Tables).gives
      (page c tools l source : Renaming (StateM Memory) Page).run s (.ok made) between)
    (new : s.1.referenced = []) :
    between.2.files = s.2.files ∧ between.1.assets.claimed = s.1.assets.claimed ∧
      (∀ r ∈ between.1.referenced, r ∈ between.1.assets.records) ∧
      (∀ r ∈ s.1.assets.records, r ∈ between.1.assets.records) ∧
      ∀ r ∈ between.1.assets.records,
        r ∈ s.1.assets.records ∨ r.destination = c.assetOutputDir.child r.name := by
  have observes : Observes (Execution.ofState Memory) (Given (Execution.ofState Memory))
      (fun store => store.files = between.2.files) :=
    fun file store bytes later read same =>
      ⟨⟨store, later, read⟩, (Memory.read_files read).symm.trans same⟩
  obtain ⟨files, answers, grown, _⟩ :=
    (settling (Execution.ofState Memory) c.assetOutputDir (Given (Execution.ofState Memory))
      (fun store => store.files = between.2.files)).of_page (settling_answers observes) tools l
      source s made between given rfl
  have noted := grown.noted
  rw [new, List.nil_append] at noted
  refine ⟨files.symm, grown.claimed, ?_, ?_, ?_⟩
  · exact fun r member => grown.known r (noted ▸ member)
  · exact fun r member => grown.assets.records.subset member
  · exact fun r member => (grown.right r member).imp id (·.destination)

/-- A run over entry points writes their documents, and copies of assets with records.

Proof: by induction on the entry points. Each one writes its document, and then the copies of the
assets that it noted and that were not claimed before. -/
theorem chain_writes {sources : List Path} {made : List (Page × Outcome)} {s s' : Tables × Memory}
    (chain : Chain (Execution.ofState Memory) c tools l sources s made s') :
    ∃ copies, Writes c sources made copies s s' := by
  induction chain with
  | done s =>
    exact ⟨[], ⟨[], by simp, rfl⟩, rfl, rfl, rfl, by simp, id, by simp, fun _ => id,
      fun _ => Or.inl⟩
  | next source rest page outcome others s between published s' making publishing _
      inductionHypothesis =>
    obtain ⟨more, later⟩ := inductionHypothesis
    obtain ⟨files, claimed, noted, older, placed⟩ := page_writes making rfl
    obtain ⟨store, copied, writing, copying, rfl⟩ := publish_steps publishing
    obtain ⟨copies, count, among, claims, apart, same, puts⟩ := copyAssets_writes copying
    have reached : ∀ r ∈ between.1.assets.records, r ∈ s'.1.assets.records := fun r member =>
      later.older r (by rw [same]; exact member)
    refine ⟨copies ++ more, ?_⟩
    constructor
    · obtain ⟨writes, order, last⟩ := later.files
      refine ⟨written c (source, page) :: (copies.map Copy.file ++ writes), ?_, ?_⟩
      · rw [List.map_cons, List.zip_cons_cons, List.map_cons, List.cons_append, List.map_append]
        refine List.Perm.cons _ ((order.append_left _).trans ?_)
        rw [← List.append_assoc, ← List.append_assoc]
        exact List.perm_append_comm.append_right _
      · have first : store.files =
            Memory.putAll [written c (source, page)] s.2.files := by
          rw [Memory.write_ok writing, files]
          rfl
        rw [last, puts, first, ← Memory.putAll_append, ← Memory.putAll_append]
        rfl
    · rw [List.length_cons, List.length_cons, later.complete]
    · rw [List.map_cons, later.reports]
      rfl
    · rw [List.map_cons, List.sum_cons, later.count, List.length_append, count]
    · rw [later.claims, claims, List.map_append, List.append_assoc]
      exact congrArg (· ++ _) claimed
    · exact fun distinct => later.apart (apart (claimed ▸ distinct))
    · intro e member
      rcases List.mem_append.mp member with old | new
      · exact reached _ (noted _ (among e old))
      · exact later.known e new
    · exact fun r member => reached r (older r member)
    · intro r member
      rcases later.placed r member with old | new
      · exact placed r (same ▸ old)
      · exact Or.inr new

/-- A document and an asset can only have one place if the assets go into the destination, and the
short name of the asset is the name of the document. -/
theorem meet_names (descending : c.assetsEscape = false) (name other : String)
    (first : IsName name) (second : IsName other)
    (same : (c.destination.child name == c.assetOutputDir.child other) = true) :
    c.assetUrlPrefix = "" ∧ other = name := by
  rw [Path.beq_iff, Path.components_child _ _ first, Path.components_child _ _ second] at same
  obtain ⟨dirs, last⟩ := List.append_inj' same rfl
  have led : (c.assetOutputDir == c.destination) = true := (Path.beq_iff _ _).mpr dirs.symm
  have none : c.assetsDir.namesOf = [] :=
    Path.clean_join_elsewhere c.destination c.assetsDir (Config.assetsDir_descending descending) led
  have shown : c.assetUrlPrefix = "/".intercalate c.assetsDir.namesOf := rfl
  refine ⟨by rw [shown, none]; rfl, ?_⟩
  simpa using last.symm

section Finished

variable {names : List String} {made : List (Page × Outcome)} {copies : List Copy}
  {prepared finish : Memory} {tables : Tables}
  (writes : Writes c (names.map c.source.child) made copies ({}, prepared) (tables, finish))

include writes

theorem Writes.recorded (e : Copy) (member : e ∈ copies) :
    e.record ∈ tables.assets.records ∧
      e.record.destination = c.assetOutputDir.child e.record.name := by
  have known := writes.known e member
  exact ⟨known, (writes.placed _ known).resolve_left (by simp)⟩

/-- Different copies have different places. Their sources are different, since each is claimed once,
so their records are. -/
theorem Writes.copiesApart (sound : tables.assets.Sound) :
    Distinct (copies.map (·.record.destination)) := by
  have claims : tables.assets.claimed = copies.map (·.record.source) := writes.claims
  have sources : Distinct (copies.map (·.record.source)) :=
    claims ▸ writes.apart List.Pairwise.nil
  rw [Distinct, List.pairwise_map] at sources ⊢
  refine sources.imp_of_mem fun {a b} first second different => ?_
  obtain ⟨known, place⟩ := writes.recorded a first
  obtain ⟨known', place'⟩ := writes.recorded b second
  rw [← Bool.not_eq_true, place, place']
  intro same
  rw [sound.destination_injective known known' _ _ (Path.beq_self _) same, Path.beq_self]
    at different
  cases different

variable (plain : ∀ name ∈ names, IsName name)

include plain

/-- Each file that was written is a document or a copy. -/
theorem Writes.cases :
    ∃ log, finish.files = Memory.putAll log prepared.files ∧ ∀ entry, entry ∈ log ↔
      (∃ d ∈ names.zip (made.map Prod.fst),
        entry = (c.destination.child d.1, d.2.html.toUTF8)) ∨ ∃ e ∈ copies, entry = e.file := by
  obtain ⟨log, order, files⟩ := writes.files
  refine ⟨log, files, fun entry => ?_⟩
  rw [order.mem_iff, List.zip_map_left, List.mem_append, List.map_map, List.mem_map, List.mem_map]
  have same : ∀ d ∈ names.zip (made.map Prod.fst),
      (written c ∘ Prod.map c.source.child id) d = (c.destination.child d.1, d.2.html.toUTF8) := by
    intro d member
    have isName := plain d.1 (List.of_mem_zip member).1
    simp [written, outputOf_child c d.1 isName]
  constructor
  · rintro (⟨d, member, rfl⟩ | ⟨e, member, rfl⟩)
    · exact Or.inl ⟨d, member, same d member⟩
    · exact Or.inr ⟨e, member, rfl⟩
  · rintro (⟨d, member, rfl⟩ | ⟨e, member, rfl⟩)
    · exact Or.inl ⟨d, member, same d member⟩
    · exact Or.inr ⟨e, member, rfl⟩

/-- A copy that meets no document is in place. -/
theorem Writes.copy (sound : tables.assets.Sound) {e : Copy} (member : e ∈ copies)
    (alone : ∀ d ∈ names.zip (made.map Prod.fst),
      (c.destination.child d.1 == e.record.destination) = false) :
    finish.file? e.record.destination = some e.bytes := by
  obtain ⟨log, files, cases⟩ := writes.cases plain
  rw [Memory.file?, files]
  refine Memory.lookup_putAll _ _ log _ ?_
    (Or.inl ⟨_, (cases _).mpr (Or.inr ⟨e, member, rfl⟩), Path.beq_self _⟩)
  intro entry inside same
  rcases (cases entry).mp inside with ⟨d, among, rfl⟩ | ⟨other, among, rfl⟩
  · rw [Path.beq_comm, alone d among] at same
    cases same
  · have apart := writes.copiesApart sound
    rw [Distinct, List.pairwise_map] at apart
    have symmetric : Std.Symm fun a b : Copy =>
        (a.record.destination == b.record.destination) = false :=
      ⟨fun a b different => by rwa [Path.beq_comm]⟩
    by_contra different
    have elsewhere := apart.forall member among fun equal => different (by rw [equal]; rfl)
    rw [Copy.file, elsewhere] at same
    cases same

/-- A document that meets no copy is in place. -/
theorem Writes.document (apart : names.Nodup) {d : String × Page}
    (member : d ∈ names.zip (made.map Prod.fst))
    (alone : ∀ e ∈ copies, (c.destination.child d.1 == e.record.destination) = false) :
    finish.file? (c.destination.child d.1) = some d.2.html.toUTF8 := by
  obtain ⟨log, files, cases⟩ := writes.cases plain
  rw [Memory.file?, files]
  refine Memory.lookup_putAll _ _ log _ ?_
    (Or.inl ⟨_, (cases _).mpr (Or.inl ⟨d, member, rfl⟩), Path.beq_self _⟩)
  intro entry inside same
  rcases (cases entry).mp inside with ⟨other, among, rfl⟩ | ⟨e, among, rfl⟩
  · have name : d.1 = other.1 := Path.child_injective _ _ _ _
      (plain _ (List.of_mem_zip member).1) (plain _ (List.of_mem_zip among).1)
      (Path.beq_self _) same
    have keys : ((names.zip (made.map Prod.fst)).map Prod.fst).Nodup := by
      rw [List.map_fst_zip (by simp [writes.complete])]
      exact apart
    rw [List.inj_on_of_nodup_map keys member among name]
  · rw [Copy.file, alone e among] at same
    cases same

end Finished

/-- Where a run puts its files.

The documents are those of the files that the source directory lists and that are named like
documents. The run made them one after the other, and reports them with their places. The copies are
those of assets with a record, each below the directory of assets under the name of its record. No
two documents have one place, and no two copies. A document and a copy meet only if the assets go
into the destination itself and the name of the copy is that of the document. All others are in
place at the end: the document as it was made, and the copy with the bytes that were read. -/
structure Places (c : Config) (tools : Toolchain) (finish : Memory) (report : Report)
    (l : Localizer) (tables : Tables) (documents : List (String × Page)) (copies : List Copy) :
    Prop where
  emitted : ∃ prepared made,
    (∀ name, name ∈ documents.map Prod.fst ↔ name ∈ prepared.names c.source ∧
      isEntryName (c.source.child name) = true ∧
      (prepared.file? (c.source.child name)).isSome = true) ∧
    Chain (Execution.ofState Memory) c tools l (documents.map fun d => c.source.child d.1)
      ({}, prepared) made (tables, finish) ∧ made.map Prod.fst = documents.map Prod.snd
  entries : report.entries = documents.map fun d =>
    ⟨c.source.child d.1, c.destination.child d.1, d.2.cssBytes, d.2.jsBytes⟩
  count : report.assetsCopied = copies.length
  recorded : ∀ e ∈ copies, e.record ∈ tables.assets.records ∧
    e.record.destination = c.assetOutputDir.child e.record.name
  documentsApart : Distinct (documents.map fun d => c.destination.child d.1)
  copiesApart : Distinct (copies.map (·.record.destination))
  meeting : ∀ d ∈ documents, ∀ e ∈ copies,
    (c.destination.child d.1 == e.record.destination) = true →
      c.assetUrlPrefix = "" ∧ e.record.name = d.1
  document : ∀ d ∈ documents,
    (∀ e ∈ copies, (c.destination.child d.1 == e.record.destination) = false) →
      finish.file? (c.destination.child d.1) = some d.2.html.toUTF8
  copy : ∀ e ∈ copies,
    (∀ d ∈ documents, (c.destination.child d.1 == e.record.destination) = false) →
      finish.file? e.record.destination = some e.bytes

/-- The files of every successful run, over any store and with any configuration, are at places that
are different, but for a document and an asset of its name where both go into one directory. In
particular nothing that a run writes is overwritten if its assets have a directory of their own.

Proof: a run over entry points is a list of writes. Entry points have different names, and the
records of different files have different short names. What is written to a path once is there in
the end. -/
theorem run_places (c : Config) (tools : Toolchain) (start finish : Memory) (report : Report)
    (success : (run c tools : ExceptT Failure (StateM Memory) Report).run.run start =
      (.ok report, finish)) :
    ∃ l tables documents copies,
      Places c tools finish report l tables documents copies ∧
      (c.assetUrlPrefix ≠ "" →
        (∀ d ∈ documents,
          finish.file? (c.destination.child d.1) = some d.2.html.toUTF8) ∧
        ∀ e ∈ copies, finish.file? e.record.destination = some e.bytes) := by
  obtain ⟨_, _, checks, rest⟩ := (Execution.ofState Memory).ok_bind success
  obtain ⟨accepted, rfl⟩ := Config.validate_ok ((Execution.ofState Memory).ok_renamed _ checks)
  obtain ⟨l, _, _, rest⟩ := (Execution.ofState Memory).ok_bind rest
  obtain ⟨_, prepared, _, rest⟩ := (Execution.ofState Memory).ok_bind rest
  obtain ⟨sources, _, discovery, makes⟩ := (Execution.ofState Memory).ok_bind rest
  obtain ⟨names, rfl, same, ascending, chosen⟩ := entryPoints_listed discovery
  rw [same] at makes
  obtain ⟨tables, made, chain, rfl⟩ := chain_of_documents makes
  obtain ⟨copies, writes⟩ := chain_writes chain
  have plain : ∀ name ∈ names, IsName name := fun name member =>
    listed_plain _ _ name ((chosen name).mp member).1
  have apart : names.Nodup := ascending.imp fun order => ne_of_lt order
  have observes : Observes (Execution.ofState Memory) (Given (Execution.ofState Memory))
      fun _ => True := fun file s bytes s' read _ => ⟨⟨s, s', read⟩, trivial⟩
  have sound : tables.assets.Sound :=
    (chain_settled observes chain).2.1.sound Asset.Table.sound_empty
  have lengths : names.length = (made.map Prod.fst).length := by simp [writes.complete]
  have firsts : (names.zip (made.map Prod.fst)).map Prod.fst = names :=
    List.map_fst_zip (le_of_eq lengths)
  have meeting : ∀ d ∈ names.zip (made.map Prod.fst), ∀ e ∈ copies,
      (c.destination.child d.1 == e.record.destination) = true →
        c.assetUrlPrefix = "" ∧ e.record.name = d.1 := by
    intro d member e copied same
    obtain ⟨known, place⟩ := writes.recorded e copied
    rw [place] at same
    exact meet_names accepted.descending _ _ (plain _ (List.of_mem_zip member).1)
      (sound.named _ known).plainName same
  have places : Places c tools finish (reportOf (made.map Prod.snd) tables.classes) l tables
      (names.zip (made.map Prod.fst)) copies := by
    constructor
    · refine ⟨prepared, made, fun name => ?_, ?_, ?_⟩
      · rw [firsts, chosen name]
      · have sources : (names.zip (made.map Prod.fst)).map (fun d => c.source.child d.1) =
            names.map c.source.child := by
          rw [← firsts, List.map_map]
          simp [firsts, Function.comp_def]
        rw [sources]
        exact chain
      · rw [List.map_snd_zip (le_of_eq lengths.symm)]
    · have reports : (reportOf (made.map Prod.snd) tables.classes).entries =
          made.map (·.2.report) := by
        rw [reportOf, List.map_map]
        rfl
      rw [reports, writes.reports, List.zip_map_left, List.map_map]
      refine List.map_congr_left fun d member => ?_
      simp [outputOf_child c d.1 (plain _ (List.of_mem_zip member).1)]
    · rw [counted_assets, List.map_map, ← writes.count]
      rfl
    · exact writes.recorded
    · have places : (names.zip (made.map Prod.fst)).map (fun d => c.destination.child d.1) =
          names.map c.destination.child := by
        rw [← firsts, List.map_map]
        simp [firsts, Function.comp_def]
      rw [places, Distinct, List.pairwise_map]
      refine apart.imp_of_mem fun {a b} first second different => ?_
      rw [← Bool.not_eq_true]
      exact fun same => different
        (Path.child_injective _ _ _ _ (plain a first) (plain b second) (Path.beq_self _) same)
    · exact writes.copiesApart sound
    · exact meeting
    · exact fun d member alone => writes.document plain apart member alone
    · exact fun e member alone => writes.copy plain sound member alone
  refine ⟨l, tables, _, copies, places, fun addressed => ⟨?_, ?_⟩⟩
  · intro d member
    refine places.document d member fun e copied => ?_
    rw [← Bool.not_eq_true]
    exact fun same => addressed (meeting d member e copied same).1
  · intro e copied
    refine places.copy e copied fun d member => ?_
    rw [← Bool.not_eq_true]
    exact fun same => addressed (meeting d member e copied same).1

/-- A page that links to itself, and whose name is the first letter of its digest, is in place next
to its copy if the assets have a directory of their own. -/
theorem run_places_apart :
    let c : Config := { source := ⟨"/site"⟩, destination := ⟨"/out"⟩, assetsDir := ⟨"assets"⟩ }
    let store :=
      ({} : Memory).insertFile ⟨"/site/Q.html"⟩ "<link rel=canonical href=Q.html>".toUTF8
    ∃ report finish,
      (run c {} : ExceptT Failure (StateM Memory) Report).run.run store = (.ok report, finish) ∧
      ∃ l tables documents copies,
        Places c {} finish report l tables documents copies ∧
        (c.assetUrlPrefix ≠ "" →
          (∀ d ∈ documents,
            finish.file? (c.destination.child d.1) = some d.2.html.toUTF8) ∧
          ∀ e ∈ copies, finish.file? e.record.destination = some e.bytes) := by
  intro c store
  have succeeds :
      ((run c {} : ExceptT Failure (StateM Memory) Report).run.run store).1.isOk = true := by
    decide +kernel
  obtain ⟨report, finish, ran⟩ := Execution.exists_ok _ store succeeds
  exact ⟨report, finish, ran, run_places c {} store finish report ran⟩

/-- If the assets go into the destination itself, the copy of the page takes the place of its
document: two files are written, and one is left, which is not the document that was made. -/
theorem run_overwrites :
    let c : Config := { source := ⟨"/site"⟩, destination := ⟨"/out"⟩ }
    let store :=
      ({} : Memory).insertFile ⟨"/site/Q.html"⟩ "<link rel=canonical href=Q.html>".toUTF8
    let result := (run c {} : ExceptT Failure (StateM Memory) Report).run.run store
    let made :=
      ((page c {} {} ⟨"/site/Q.html"⟩ : Renaming (StateM Memory) Page).run.run {}).run store
    result.1.toOption.map
          (fun report => (report.entries.map (·.output.text), report.assetsCopied)) =
        some (["/out/Q.html"], 1) ∧
      (result.2.filesBelow ⟨"/out"⟩).map (fun entry => (entry.1.text, entry.2)) =
        [("/out/Q.html", "<link rel=canonical href=Q.html>".toUTF8)] ∧
      made.1.1.toOption.map (·.html) =
        some "<html><head><link rel=canonical href=Q.html></head><body></body></html>" := by
  refine ⟨?_, ?_, ?_⟩ <;> decide +kernel

end Bundle

end Pagefold
