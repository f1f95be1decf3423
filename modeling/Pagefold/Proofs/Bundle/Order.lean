import Mathlib
import Pagefold.Proofs.Bundle.Overwriting
import Pagefold.Proofs.Class.Table
import Pagefold.Proofs.Renaming.Survey

/-!
# The order of the entry points

Entry points share the tables of classes and assets, so the tokens of names and the names of assets
depend on the order in which documents are made. What the documents ask for does not, as long as no
file that is read for them is one that the run writes: then every text and every asset is read as it
was at the start, whatever has been written by then. So any order leads to the same names in the
same kinds of sources, and to the same assets with the same contents.
-/
namespace Pagefold

namespace Memory

/-- Writes to other paths are not seen. -/
theorem lookup_putAll_apart (p : Path) (writes files : List (Path × Bytes))
    (apart : ∀ entry ∈ writes, (p == entry.1) = false) :
    (putAll writes files).lookup p = files.lookup p := by
  induction writes generalizing files with
  | nil => rfl
  | cons entry rest inductionHypothesis =>
    obtain ⟨here, later⟩ := List.forall_mem_cons.mp apart
    change (putAll rest (put entry.1 entry.2 files)).lookup p = _
    rw [inductionHypothesis _ later, lookup_put, here, if_neg Bool.false_ne_true]

end Memory

/-- Paths that are all different have different components. -/
theorem Bundle.Distinct.components {paths : List Path} (distinct : Bundle.Distinct paths) :
    (paths.map Path.components).Nodup := by
  rw [List.Nodup, List.pairwise_map]
  refine List.Pairwise.imp (fun {a b} different same => ?_) distinct
  rw [(Path.beq_iff _ _).mpr same] at different
  cases different

/-- Records are of different files, however the paths are spelled. -/
theorem Asset.Table.Sound.distinct_sources {t : Asset.Table} (sound : t.Sound) :
    (t.records.map (·.source.components)).Nodup := by
  have distinct : Bundle.Distinct (t.records.map (·.source)) := List.pairwise_map.mpr sound.sources
  have components := distinct.components
  rwa [List.map_map] at components

/-- What does not change about a record from run to run: the path of the file, however it is
spelled, the digest of what the file holds, and the extension. -/
def Asset.Record.origin (r : Asset.Record) : List Component × String × String :=
  (r.source.components, r.hash, Asset.extension r.source)

namespace Bundle

/-- The paths that a run over some entry points may write: those of their documents, and those of
the copies of assets, whatever the names of the assets are. -/
inductive Target (c : Config) (sources : List Path) : Path → Prop
  | document (source : Path) (member : source ∈ sources) : Target c sources (outputOf c source)
  | copy (name : String) (isName : IsName name) : Target c sources (c.assetOutputDir.child name)

/-- A file that a run over some entry points does not write. -/
def Untouched (c : Config) (sources : List Path) (file : Path) : Prop :=
  ∀ target, Target c sources target → (file == target) = false

/-- What is asked for the document of an entry point, when the files are as at the start. -/
def asks (c : Config) (l : Localizer) (start : Memory) (source : Path) : List Question :=
  (survey c l source start.file?).1

/-- The files that are read for the document of an entry point: the entry point, the stylesheets
and scripts that it links to, and the assets that it and its styles refer to. -/
def reads (c : Config) (l : Localizer) (start : Memory) (source : Path) : List Path :=
  (asks c l start source).filterMap Question.file?

/-- The assets that are asked for are read. -/
theorem assets_read {c : Config} {l : Localizer} {start : Memory} {sources : List Path}
    {file : Path} (wanted : file ∈ Question.assets (sources.flatMap (asks c l start))) :
    ∃ source ∈ sources, file ∈ reads c l start source := by
  obtain ⟨question, among, asset⟩ := List.mem_filterMap.mp wanted
  obtain ⟨source, member, asked⟩ := List.mem_flatMap.mp among
  refine ⟨source, member, List.mem_filterMap.mpr ⟨question, asked, ?_⟩⟩
  cases question with
  | asset path => exact asset
  | _ => cases asset

/-- Whether a file is left alone does not depend on the spelling of its path. -/
theorem Untouched.congr {c : Config} {sources : List Path} {p q : Path}
    (untouched : Untouched c sources p) (same : p.components = q.components) :
    Untouched c sources q := by
  intro target writes
  have apart := untouched target writes
  rw [← Bool.not_eq_true, Path.beq_iff] at apart ⊢
  rwa [← same]

/-- If the destination is normal and the directory of assets does not leave it, a run over files
with names leaves everything alone that does not lie below the destination. -/
theorem untouched_elsewhere {c : Config} (destination : c.destination.IsNormal)
    (descending : c.assetsEscape = false) {sources : List Path}
    (named : ∀ source ∈ sources, ∃ name, source.fileName? = some name) {file : Path}
    (elsewhere : file.isBelow c.destination = false) : Untouched c sources file := by
  intro target writes
  have holds : c.Holds target := by
    cases writes with
    | document source member =>
      obtain ⟨name, last⟩ := named source member
      rw [outputOf, last]
      exact Config.holds_child c.destination.isBelow_self name (Path.fileName_name _ _ last)
    | copy name isName =>
      exact Config.holds_child (Config.assets_below destination descending) name isName
  rw [← Bool.not_eq_true]
  intro same
  have below := holds.below
  rw [← Path.isBelow_congr _ _ _ same, elsewhere] at below
  cases below

/-- After copying, all assets in the list are claimed. -/
theorem copyAssets_claims {records : List Asset.Record} {copied : Nat} {s s' : Tables × Memory}
    (given : ((Execution.ofState Memory).above Tables).gives
      (copyAssets records : Renaming (StateM Memory) Nat).run s (.ok copied) s') :
    ∀ r ∈ records, s'.1.assets.claimed.contains r.source = true := by
  induction records generalizing s copied with
  | nil => simp
  | cons record rest inductionHypothesis =>
    -- a claim is never given back
    have kept : ∀ {t : Tables × Memory} {n : Nat},
        ((Execution.ofState Memory).above Tables).gives
          (copyAssets rest : Renaming (StateM Memory) Nat).run t (.ok n) s' →
        t.1.assets.claimed.contains record.source = true →
        s'.1.assets.claimed.contains record.source = true := by
      intro t n run claimed
      obtain ⟨copies, _, _, claims, _⟩ := copyAssets_writes run
      rw [claims, List.contains_append, claimed, Bool.true_or]
    rcases copyAssets_cons given with ⟨claimed, run⟩ | ⟨unclaimed, store, others, _, run, _⟩
    · exact List.forall_mem_cons.mpr ⟨kept run claimed, inductionHypothesis run⟩
    · refine List.forall_mem_cons.mpr ⟨kept run ?_, inductionHypothesis run⟩
      simp [Asset.Table.claim, unclaimed, Path.beq_self]

/-- What a run over the entry points `all` has come to after some questions. The files that it does
not write are as they were at the start, the classes were called for the names that were asked for,
and the assets that were asked for have their records, with the digests of what the files held at
the start. The copies of all of them are claimed. -/
structure Steady (c : Config) (all : List Path) (start : Memory) (asked : List Question)
    (s : Tables × Memory) : Prop where
  files : ∀ file, Untouched c all file → s.2.file? file = start.file? file
  classes : s.1.classes = (({} : Class.Table).associateAll (Question.calls asked)).2
  sound : s.1.assets.Sound
  right : ∀ r ∈ s.1.assets.records, r.Right c.assetOutputDir fun file bytes =>
    Untouched c all file → start.file? file = some bytes
  recorded : ∀ parts, parts ∈ s.1.assets.records.map (·.source.components) ↔
    parts ∈ (Question.assets asked).map Path.components
  claimed : ∀ r ∈ s.1.assets.records, s.1.assets.claimed.contains r.source = true

section Run

variable {c : Config} {tools : Toolchain} {l : Localizer} {all : List Path} {start : Memory}

/-- At the start, nothing was asked. -/
theorem steady_start (c : Config) (all : List Path) (start : Memory) :
    Steady c all start [] ({}, start) where
  files _ _ := rfl
  classes := rfl
  sound := Asset.Table.sound_empty
  right := by simp
  recorded := by simp [Question.assets]
  claimed := by simp

/-- Making a document reads what was there at the start, so it is asked what its survey asks.

Proof: the making settles in a world in which the files that are left alone hold what they held at
the start. All files that the survey reads are among them. -/
theorem Steady.page {asked : List Question} {s between : Tables × Memory} {source : Path}
    {made : Page} (steady : Steady c all start asked s)
    (apart : ∀ file ∈ reads c l start source, Untouched c all file)
    (making : ((Execution.ofState Memory).above Tables).gives
      (Bundle.page c tools l source : Renaming (StateM Memory) Page).run
      ({ s.1 with referenced := [] }, s.2) (.ok made) between) :
    ∃ answers, Answered answers (asks c l start source) ∧
      between.2.files = s.2.files ∧
      ({ s.1 with referenced := [] } : Tables).Grows c.assetOutputDir
        (fun file bytes => Untouched c all file → start.file? file = some bytes) between.1
        answers := by
  obtain ⟨files, _⟩ := page_writes making rfl
  have observes : Observes (Execution.ofState Memory)
      (fun file bytes => Untouched c all file → start.file? file = some bytes)
      (fun store => ∀ file, Untouched c all file → store.file? file = start.file? file) := by
    intro file store bytes later read kept
    obtain ⟨found, reads, rfl⟩ := Memory.read_ok read
    exact ⟨fun untouched => (kept file untouched).symm.trans found, kept⟩
  have kept : ∀ file, Untouched c all file → between.2.file? file = start.file? file := by
    intro file untouched
    rw [Memory.file?, files]
    exact steady.files file untouched
  obtain ⟨_, answers, grown, settles⟩ :=
    (settling (Execution.ofState Memory) c.assetOutputDir _ _).of_page (settling_answers observes)
      tools l source _ made between making kept
  obtain ⟨_, _, _, answered⟩ := surveyed_page start.file? c tools l source _ answers made
    (settles _ _ (.refl _) .same) fun file text bytes held =>
      held (apart file (List.mem_filterMap.mpr ⟨.text file, text, rfl⟩))
  exact ⟨answers, answered, files, grown⟩

/-- An entry point adds what its survey asks for. -/
theorem Steady.entry {asked : List Question} {s between s' : Tables × Memory} {source : Path}
    {made : Page} {outcome : Outcome} (steady : Steady c all start asked s) (member : source ∈ all)
    (apart : ∀ file ∈ reads c l start source, Untouched c all file)
    (making : ((Execution.ofState Memory).above Tables).gives
      (Bundle.page c tools l source : Renaming (StateM Memory) Page).run
      ({ s.1 with referenced := [] }, s.2) (.ok made) between)
    (publishing : ((Execution.ofState Memory).above Tables).gives
      (publish c source made : Renaming (StateM Memory) Outcome).run between (.ok outcome) s') :
    Steady c all start (asked ++ asks c l start source) s' := by
  obtain ⟨answers, answered, files, grown⟩ := steady.page apart making
  obtain ⟨store, copied, writing, copying, rfl⟩ := publish_steps publishing
  obtain ⟨classes, claims⟩ := copyAssets_tables copying
  obtain ⟨copies, _, among, claimed, _, records, puts⟩ := copyAssets_writes copying
  have noted : between.1.referenced = Answer.records answers := grown.noted
  have sound : between.1.assets.Sound := grown.assets.sound steady.sound
  have right : ∀ r ∈ between.1.assets.records, r.Right c.assetOutputDir fun file bytes =>
      Untouched c all file → start.file? file = some bytes :=
    fun r known => (grown.right r known).elim (steady.right r) id
  constructor
  · intro file untouched
    have elsewhere : ∀ entry ∈ copies.map Copy.file, (file == entry.1) = false := by
      intro entry inside
      obtain ⟨e, copied, rfl⟩ := List.mem_map.mp inside
      have known := grown.known _ (noted ▸ among e copied)
      rw [Copy.file, (right _ known).destination]
      exact untouched _ (.copy _ (sound.named _ known).plainName)
    have document := untouched _ (.document source member)
    rw [← steady.files file untouched, Memory.file?, puts,
      Memory.lookup_putAll_apart _ _ _ elsewhere, Memory.write_ok writing, Memory.lookup_put,
      document, if_neg Bool.false_ne_true, files, Memory.file?]
  · rw [classes, grown.classes, steady.classes, answered.calls, Question.calls_append,
      Class.Table.associateAll_append]
  · exact claims.sound sound
  · rw [records]
    exact right
  · intro parts
    rw [records, Question.assets_append, List.map_append, List.mem_append, ← steady.recorded,
      ← answered.records]
    simp only [List.mem_map]
    constructor
    · rintro ⟨r, known, same⟩
      exact (grown.added r known).imp (fun old => ⟨r, old, same⟩) fun new => ⟨r, new, same⟩
    · rintro (⟨r, old, same⟩ | ⟨r, new, same⟩)
      · exact ⟨r, grown.assets.records.subset old, same⟩
      · exact ⟨r, grown.known r new, same⟩
  · rw [records]
    intro r known
    rcases grown.added r known with old | new
    · have before := steady.claimed r old
      rw [claimed, List.contains_append, grown.claimed, before, Bool.true_or]
    · exact copyAssets_claims copying r (noted ▸ new)

/-- A run comes to what the surveys of its entry points ask for.

Proof: by induction on the entry points. None of them writes a file that a later one reads. -/
theorem Steady.chain {asked : List Question} {sources : List Path} {made : List (Page × Outcome)}
    {s s' : Tables × Memory}
    (chain : Chain (Execution.ofState Memory) c tools l sources s made s')
    (steady : Steady c all start asked s) (among : ∀ source ∈ sources, source ∈ all)
    (apart : ∀ source ∈ sources, ∀ file ∈ reads c l start source, Untouched c all file) :
    Steady c all start (asked ++ sources.flatMap (asks c l start)) s' := by
  induction chain generalizing asked with
  | done s => simpa using steady
  | next source rest page outcome others s between middle s' making publishing _
      inductionHypothesis =>
    obtain ⟨here, later⟩ := List.forall_mem_cons.mp among
    obtain ⟨first, following⟩ := List.forall_mem_cons.mp apart
    rw [List.flatMap_cons, ← List.append_assoc]
    exact inductionHypothesis (steady.entry here first making publishing) later following

/-- Each record of a run was copied once. -/
theorem Steady.counted {asked : List Question} {sources : List Path} {made : List (Page × Outcome)}
    {s' : Tables × Memory} (steady : Steady c all start asked s')
    (chain : Chain (Execution.ofState Memory) c tools l sources ({}, start) made s') :
    (made.map (·.2.assetsCopied)).sum = s'.1.assets.records.length := by
  obtain ⟨copies, writes⟩ := chain_writes chain
  have claims : s'.1.assets.claimed = copies.map (·.record.source) := writes.claims
  have once : (copies.map (·.record.source.components)).Nodup := by
    have components := (writes.apart List.Pairwise.nil).components
    rwa [claims, List.map_map] at components
  have all : (copies.map (·.record.source.components)).Perm
      (s'.1.assets.records.map (·.source.components)) := by
    refine (List.perm_ext_iff_of_nodup once steady.sound.distinct_sources).mpr fun parts => ?_
    simp only [List.mem_map]
    constructor
    · rintro ⟨e, copied, same⟩
      exact ⟨e.record, writes.known e copied, same⟩
    · rintro ⟨r, known, rfl⟩
      have claimed := steady.claimed r known
      rw [claims, List.contains_iff_exists_mem_beq] at claimed
      obtain ⟨source, member, same⟩ := claimed
      obtain ⟨e, copied, rfl⟩ := List.mem_map.mp member
      exact ⟨e, copied, ((Path.beq_iff _ _).mp same).symm⟩
  have length := all.length_eq
  rw [List.length_map, List.length_map] at length
  rw [writes.count, length]

/-- A record of one run has its counterpart in each run that asked for the same assets. -/
theorem Steady.counterpart {asked others : List Question} {s t : Tables × Memory}
    (steady : Steady c all start asked s) (other : Steady c all start others t)
    (same : ∀ file, file ∈ Question.assets asked ↔ file ∈ Question.assets others)
    (apart : ∀ file ∈ Question.assets asked, Untouched c all file) (r : Asset.Record)
    (known : r ∈ s.1.assets.records) : ∃ q ∈ t.1.assets.records, q.origin = r.origin := by
  obtain ⟨file, wanted, spelled⟩ := List.mem_map.mp
    ((steady.recorded _).mp (List.mem_map_of_mem known))
  obtain ⟨q, found, alike⟩ := List.mem_map.mp
    ((other.recorded _).mpr (List.mem_map_of_mem ((same file).mp wanted)))
  have sources : q.source.components = r.source.components := alike.trans spelled
  have untouched : Untouched c all r.source := (apart file wanted).congr spelled
  obtain ⟨_, bytes, held, digest⟩ := steady.right r known
  obtain ⟨_, content, holds, hash⟩ := other.right q found
  have contents : content = bytes := by
    have first := held untouched
    have second := holds (untouched.congr sources.symm)
    rw [start.file_congr _ _ sources, first] at second
    exact (Option.some.inj second).symm
  have extension := Asset.extension_congr ((Path.beq_iff _ _).mpr sources)
  refine ⟨q, found, ?_⟩
  rw [Asset.Record.origin, Asset.Record.origin, sources, hash, digest, contents, extension]

end Run

/-- Two runs have come to the same, up to the names that they gave.

The same classes are orphans and equally many assets were copied, as it is reported. The same names
were seen in each kind of source, and the same names have tokens, so there are equally many. There
are records of the same files, with the same digests and extensions; the name of a record is made
from its digest and decides where the file was copied. The tokens of the one run can be exchanged
for those of the other one and back, unless there are more names than can be numbered, which are
more than four quintillion. -/
structure Reordered (c : Config) (outcomes others : List Outcome) (t u : Tables) : Prop where
  orphans : (reportOf others u.classes).orphanClasses = (reportOf outcomes t.classes).orphanClasses
  usage : ∀ kind, u.classes.usage kind = t.classes.usage kind
  size : u.classes.size = t.classes.size
  copied : (reportOf others u.classes).assetsCopied = (reportOf outcomes t.classes).assetsCopied
  assets : (u.assets.records.map Asset.Record.origin).Perm
    (t.assets.records.map Asset.Record.origin)
  placed : ∀ r, r ∈ t.assets.records ∨ r ∈ u.assets.records →
    r.Named ∧ r.destination = c.assetOutputDir.child r.name
  names : ∀ bare : String, (∃ token, u.classes.tokens[bare]? = some token) ↔
    ∃ token, t.classes.tokens[bare]? = some token
  tokens : t.classes.size ≤ Class.Table.capacity → ∃ there back : String → String,
    ∀ bare token other : String, t.classes.tokens[bare]? = some token →
      u.classes.tokens[bare]? = some other → there token = other ∧ back other = token

/-- The order of the entry points makes no difference but for the names that are given. If two runs
over the same entry points, in any two orders, with new tables and the same files at the start,
succeed, and no file that is read for an entry point is one that they may write, then they come to
the same. With a normal destination that its directory of assets does not leave, it is enough that
no file that is read lies below the destination, as `untouched_elsewhere` shows.

Proof: each run asks what the surveys of its entry points ask, and a survey knows nothing of the
other entry points. So the calls for names and the assets are the same in both runs, up to their
order. -/
theorem entries_reordered (c : Config) (tools : Toolchain) (l : Localizer) (start : Memory)
    (sources reordered : List Path) (order : sources.Perm reordered)
    (apart : ∀ source ∈ sources, ∀ file ∈ reads c l start source, Untouched c sources file)
    (outcomes others : List Outcome) (tables later : Tables) (finish ending : Memory)
    (first : ((entries c tools l sources : Renaming (StateM Memory) _).run.run {}).run start =
      ((.ok outcomes, tables), finish))
    (second : ((entries c tools l reordered : Renaming (StateM Memory) _).run.run {}).run start =
      ((.ok others, later), ending)) :
    Reordered c outcomes others tables later := by
  have firstRun : ((Execution.ofState Memory).above Tables).gives
      (entries c tools l sources : Renaming (StateM Memory) _).run ({}, start) (.ok outcomes)
      (tables, finish) := first
  have secondRun : ((Execution.ofState Memory).above Tables).gives
      (entries c tools l reordered : Renaming (StateM Memory) _).run ({}, start) (.ok others)
      (later, ending) := second
  obtain ⟨made, chain, rfl⟩ := chain_of_entries firstRun
  obtain ⟨remade, rechain, rfl⟩ := chain_of_entries secondRun
  have steady := (steady_start c sources start).chain chain (fun _ member => member) apart
  have resteady := (steady_start c sources start).chain rechain
    (fun source member => order.mem_iff.mpr member)
    fun source member => apart source (order.mem_iff.mpr member)
  rw [List.nil_append] at steady resteady
  have asked : (sources.flatMap (asks c l start)).Perm (reordered.flatMap (asks c l start)) :=
    order.flatMap_right _
  have calls : ∀ call, call ∈ Question.calls (sources.flatMap (asks c l start)) ↔
      call ∈ Question.calls (reordered.flatMap (asks c l start)) :=
    fun call => (asked.filterMap _).mem_iff
  have wanted : ∀ file, file ∈ Question.assets (sources.flatMap (asks c l start)) ↔
      file ∈ Question.assets (reordered.flatMap (asks c l start)) :=
    fun file => (asked.filterMap _).mem_iff
  have untouched : ∀ file ∈ Question.assets (sources.flatMap (asks c l start)),
      Untouched c sources file := by
    intro file member
    obtain ⟨source, inside, read⟩ := assets_read member
    exact apart source inside file read
  have assets : (later.assets.records.map Asset.Record.origin).Perm
      (tables.assets.records.map Asset.Record.origin) := by
    have distinct : ∀ t : Asset.Table, t.Sound → (t.records.map Asset.Record.origin).Nodup := by
      intro t sound
      refine List.Nodup.of_map Prod.fst ?_
      rw [List.map_map]
      exact sound.distinct_sources
    refine (List.perm_ext_iff_of_nodup (distinct _ resteady.sound) (distinct _ steady.sound)).mpr ?_
    intro origin
    simp only [List.mem_map]
    constructor
    · rintro ⟨r, known, rfl⟩
      exact resteady.counterpart steady (fun file => (wanted file).symm)
        (fun file member => untouched file ((wanted file).mpr member)) r known
    · rintro ⟨r, known, rfl⟩
      exact steady.counterpart resteady wanted untouched r known
  have classes := steady.classes
  have reclasses := resteady.classes
  constructor
  · change later.classes.orphans = tables.classes.orphans
    rw [classes, reclasses]
    exact (Class.Table.orphans_order calls).symm
  · intro kind
    rw [classes, reclasses]
    exact (Class.Table.usage_order calls kind).symm
  · rw [classes, reclasses]
    exact (Class.Table.size_order calls).symm
  · have length := assets.length_eq
    rw [List.length_map, List.length_map] at length
    rw [counted_assets, counted_assets, List.map_map, List.map_map]
    exact (resteady.counted rechain).trans (length.trans (steady.counted chain).symm)
  · exact assets
  · rintro r (known | known)
    · exact ⟨steady.sound.named r known, (steady.right r known).destination⟩
    · exact ⟨resteady.sound.named r known, (resteady.right r known).destination⟩
  · intro bare
    rw [classes, reclasses]
    exact (Class.Table.known_order calls bare).symm
  · rw [classes, reclasses]
    exact Class.Table.tokens_order calls

/-- Two pages with a class and an asset in common, in both orders. -/
theorem entries_reordered_pair :
    let c : Config := { source := ⟨"/site"⟩, destination := ⟨"/out"⟩, assetsDir := ⟨"assets"⟩ }
    let store :=
      (((({} : Memory).insertDir ⟨"/out/assets"⟩).insertFile ⟨"/site/p.png"⟩ "p".toUTF8).insertFile
        ⟨"/site/a.html"⟩ "<p class=x><img src=p.png>".toUTF8).insertFile
        ⟨"/site/b.html"⟩ "<p class='y x'><img src=p.png>".toUTF8
    let sources : List Path := [⟨"/site/a.html"⟩, ⟨"/site/b.html"⟩]
    (∀ source ∈ sources, ∀ file ∈ reads c {} store source, Untouched c sources file) ∧
      ∃ outcomes others tables later finish ending,
        ((entries c {} {} sources : Renaming (StateM Memory) _).run.run {}).run store =
          ((.ok outcomes, tables), finish) ∧
        ((entries c {} {} sources.reverse : Renaming (StateM Memory) _).run.run {}).run store =
          ((.ok others, later), ending) ∧
        Reordered c outcomes others tables later := by
  intro c store sources
  have outside : (sources.all fun source => (reads c {} store source).all fun file =>
      !file.isBelow c.destination) = true := by
    decide +kernel
  have named : ∀ source ∈ sources, ∃ name, source.fileName? = some name := by
    have plain : (sources.all fun source => source.fileName?.isSome) = true := by decide +kernel
    exact fun source member => Option.isSome_iff_exists.mp (List.all_eq_true.mp plain source member)
  have apart : ∀ source ∈ sources, ∀ file ∈ reads c {} store source, Untouched c sources file := by
    intro source member file read
    have elsewhere := List.all_eq_true.mp (List.all_eq_true.mp outside source member) file read
    exact untouched_elsewhere ⟨["out"], by decide⟩ (by decide) named (by simpa using elsewhere)
  obtain ⟨outcomes, ⟨tables, finish⟩, first⟩ := Execution.exists_ok_above
    (entries c {} {} sources : Renaming (StateM Memory) _) ({}, store) (by decide +kernel)
  obtain ⟨others, ⟨later, ending⟩, second⟩ := Execution.exists_ok_above
    (entries c {} {} sources.reverse : Renaming (StateM Memory) _) ({}, store) (by decide +kernel)
  refine ⟨apart, outcomes, others, tables, later, finish, ending, first, second, ?_⟩
  exact entries_reordered c {} {} store sources sources.reverse (List.reverse_perm _).symm apart
    outcomes others tables later finish ending first second

end Bundle

end Pagefold
